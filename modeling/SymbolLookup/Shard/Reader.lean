import SymbolLookup.Fault
import SymbolLookup.Shard.Basic
import SymbolLookup.Shard.Format
import SymbolLookup.Shard.Interpreter
import SymbolLookup.Shard.Record
import SymbolLookup.Text.Utf8
/-!
# Reading shards

The shard that a document writes.

## Main definitions

* `decode`: the parts of a document, whatever their shape.
* `Shard.read`: the shard, with a diagnostic for every part that is no record.

## Design notes

Only a document that cannot be read as a whole makes reading fail. A part that is no record is left
out with all its occurrences and reported. Names and labels are written with character references,
and these are resolved; links are taken as they are.
-/

namespace SymbolLookup

open Text

/-- The literals of a script: what its assignment assigns, without the semicolons behind it. -/
def payload (text : List Char) : List Char :=
  trim (trimEndOf (· == ';') (trim ((assignment? text).getD text)))

/-- Why a script cannot be read: its document is malformed, or the literals themselves failed. -/
def scriptFault (bucket : String) : Literal.Fault → Fault
  | .unreadable => .malformed bucket "cannot decode js document" none
  | .unhashable kind => .unhashable kind
  | .wholeTooLarge => .wholeTooLarge
  | .broken reason => .system reason

/-- The parts of a document. -/
def decode (bucket text : String) (format : Format) (interpreter : Interpreter := {}) :
    Except Fault (List Part) :=
  let document : Except Fault Part :=
    match format with
    | .script =>
      match Literal.read interpreter.parse (Utf8.joinLines (payload text.toList)) with
      | .ok value => .ok (Part.ofLiteral value)
      | .error fault => .error (scriptFault bucket fault)
    | .data name =>
      match Json.read text interpreter.nesting with
      | .ok value => .ok (Part.ofJson value)
      | .error fault =>
        .error (.malformed bucket ("cannot decode " ++ name ++ " document: " ++ fault.message) none)
  match document with
  | .error fault => .error fault
  | .ok (.list parts) => .ok parts
  | .ok part =>
    .error (.malformed bucket ("top level is " ++ part.kind ++ ", expected a list") none)

/-- The record that a part of a document in some format is. -/
def Record.ofPart : Format → Part → Except RecordFault Record
  | .script => ofScript
  | .data _ => ofData

/-- The text that a document means by a text with character references. -/
def resolve (text : String) : Except Fault String := (unescape text).mapError .numeral

/-- The entries of the occurrences of a name, the first one at the place `position`. -/
def entriesOf (name : String) : (position : Nat) → List Occurrence → Except Fault (List Entry)
  | _, [] => .ok []
  | position, occurrence :: occurrences =>
    match resolve occurrence.label with
    | .error fault => .error fault
    | .ok label =>
      let entry : Entry :=
        { name, label, anchor := Anchor.parse occurrence.link, position
          inFrame := occurrence.inFrame }
      (entriesOf name (position + 1) occurrences).map (entry :: ·)

theorem entriesOf_cons (name : String) (position : Nat) (occurrence : Occurrence)
    (occurrences : List Occurrence) :
    entriesOf name position (occurrence :: occurrences) =
      (resolve occurrence.label).bind fun label =>
        (entriesOf name (position + 1) occurrences).map
          ({ name, label, anchor := Anchor.parse occurrence.link, position
             inFrame := occurrence.inFrame } :: ·) := by
  rw [entriesOf]
  cases resolve occurrence.label <;> rfl

namespace Shard

/-- A shard with the entries of one more record behind its own. -/
def addRecord (shard : Shard) (record : Record) : Except Fault Shard :=
  match resolve record.name with
  | .error fault => .error fault
  | .ok name =>
    (entriesOf name shard.entries.length record.occurrences).map fun entries =>
      { shard with entries := shard.entries ++ entries }

/-- A shard with the report of one more part that is no record. -/
def addDiagnostic (shard : Shard) (place : Nat) (fault : RecordFault) : Shard :=
  let diagnostic : Diagnostic := ⟨shard.bucket, fault.message, some place⟩
  { shard with diagnostics := shard.diagnostics ++ [diagnostic] }

/-- A shard with what the parts of a document add to it, the first one at the place `place`. -/
def addParts (format : Format) (shard : Shard) : (place : Nat) → List Part → Except Fault Shard
  | _, [] => .ok shard
  | place, part :: parts =>
    match Record.ofPart format part with
    | .error fault => (shard.addDiagnostic place fault).addParts format (place + 1) parts
    | .ok record =>
      match shard.addRecord record with
      | .error fault => .error fault
      | .ok shard => shard.addParts format (place + 1) parts

/-- The shard that the document of a bucket writes, in the format asked for by name or else in the
one it looks like. -/
def read (bucket text : String) (asked : Option String := none) (interpreter : Interpreter := {}) :
    Except Fault Shard :=
  let format := Format.choose asked text
  match decode bucket text format interpreter with
  | .error fault => .error fault
  | .ok parts => addParts format { bucket } 0 parts

end Shard

end SymbolLookup

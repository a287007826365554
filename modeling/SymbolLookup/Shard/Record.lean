import SymbolLookup.Json.Basic
import SymbolLookup.Literal.Value
/-!
# Records of shard documents

A shard document is a list of records. Scripts and data documents write the same records in two
shapes, and both shapes are made of texts and lists.

## Main definitions

* `Part`: the parts of a document as far as records are concerned.
* `Occurrence`, `Record`: what a record tells.
* `Record.ofScript`, `Record.ofData`: the record of either shape.
-/

namespace SymbolLookup

/-- A part of a document. -/
inductive Part where
  | text (value : String)
  | list (items : List Part)
  /-- Anything else, by the word for its kind and whether it counts as true. -/
  | other (kind : String) (isTrue : Bool)
  deriving Repr, Inhabited

namespace Part

mutual

/-- The part that a JSON value is. -/
def ofJson : Json → Part
  | .text s => .text s
  | .list items => .list (ofJsonItems items)
  | value => .other value.kind true

/-- The parts that the items of a JSON list are. -/
def ofJsonItems : List Json → List Part
  | [] => []
  | item :: items => ofJson item :: ofJsonItems items

end

mutual

/-- The part that a literal is; tuples are lists. -/
def ofLiteral : Literal.Value → Part
  | .text s => .text s
  | .list items => .list (ofLiteralItems items)
  | .tuple items => .list (ofLiteralItems items)
  | value => .other value.kind value.isTrue

/-- The parts that the items of a literal list are. -/
def ofLiteralItems : List Literal.Value → List Part
  | [] => []
  | item :: items => ofLiteral item :: ofLiteralItems items

end

/-- The word for the kind of a part in messages. -/
def kind : Part → String
  | .text _ => "str"
  | .list _ => "list"
  | .other kind _ => kind

/-- Whether a part counts as true: all but what is empty, zero, false or absent. -/
def isTrue : Part → Bool
  | .text s => s ≠ ""
  | .list items => !items.isEmpty
  | .other _ isTrue => isTrue

/-- Whether a part is a text. -/
def isText : Part → Bool
  | .text _ => true
  | _ => false

end Part

/-- One occurrence of a symbol, as the document writes it. -/
structure Occurrence where
  /-- The qualified name. -/
  label : String
  /-- The link to the documentation. -/
  link : String
  /-- Whether the link opens inside the frame of the documentation. -/
  inFrame : Bool := true
  deriving DecidableEq, Repr

/-- A symbol and its occurrences, as the document writes them. -/
structure Record where
  name : String
  occurrences : List Occurrence
  deriving DecidableEq, Repr

/-- Why a part of a document is no record. -/
inductive RecordFault where
  /-- A script record is not a pair. -/
  | scriptRecord
  /-- The second half of a script record does not hold a name and something more. -/
  | scriptBody
  /-- An occurrence of a script record is not a link, a flag and a label. -/
  | scriptOccurrence
  /-- A data record is not a name and something more. -/
  | dataRecord
  /-- The second half of a data record is not a list with items. -/
  | dataBody
  /-- An occurrence of a data record is not a label and a link. -/
  | dataOccurrence
  deriving DecidableEq, Repr

/-- The message of a part that is no record. -/
def RecordFault.message : RecordFault → String
  | .scriptRecord => "expected [searchId, [name, occurrences...]]"
  | .scriptBody => "expected [name, occurrence, ...]"
  | .scriptOccurrence => "expected occurrence [url, flag, label]"
  | .dataRecord => "expected [name, occurrences]"
  | .dataBody => "expected a non-empty occurrence list"
  | .dataOccurrence => "expected occurrence [label, anchor]"

namespace Occurrence

/-- The occurrence `[link, flag, label]` of a script record. -/
def ofScript : Part → Except RecordFault Occurrence
  | .list [.text link, flag, .text label] => .ok ⟨label, link, flag.isTrue⟩
  | _ => .error .scriptOccurrence

/-- The occurrence `[label, link]` of a data record. -/
def ofData : Part → Except RecordFault Occurrence
  | .list [.text label, .text link] => .ok { label, link }
  | _ => .error .dataOccurrence

end Occurrence

namespace Record

/-- The record `[id, [name, occurrence, ...]]` of a script. -/
def ofScript : Part → Except RecordFault Record
  | .list [_, .list (.text name :: first :: more)] =>
    ((first :: more).mapM Occurrence.ofScript).map (Record.mk name)
  | .list [_, _] => .error .scriptBody
  | _ => .error .scriptRecord

/-- The record `[name, occurrence]` or `[name, [occurrence, ...]]` of a data document: the second
half is one occurrence if it holds only texts. -/
def ofData : Part → Except RecordFault Record
  | .list [.text name, .list (first :: more)] =>
    let body := first :: more
    let occurrences := if body.all Part.isText then [Part.list body] else body
    (occurrences.mapM Occurrence.ofData).map (Record.mk name)
  | .list [.text _, _] => .error .dataBody
  | _ => .error .dataRecord

end Record

end SymbolLookup

import SymbolLookup.Keyed
import SymbolLookup.Partition
import SymbolLookup.Shard.Format
import SymbolLookup.Shard.Reader
/-!
# Manifests

The script beside the shards that tells the sections of the documentation: for each index its
alphabet and its label.

## Main definitions

* `declarations`: the tables of numbered texts that a script declares.
* `Manifest`: the alphabets and the labels of the indexes.
* `Manifest.read`: the manifest that a script writes.

## Design notes

The script is searched for declarations, and a declaration for numbered texts; whatever stands
between them is passed over. All tables of the script are read before the three that make up the
manifest are looked at.
-/

namespace SymbolLookup

open Text

/-- A table of numbered texts. -/
abbrev Numbered := List (Int × String)

/-- What stands before the first closing brace that blanks and a semicolon follow, and what stands
behind the semicolon. -/
def takeBody : List Char → Option (List Char × List Char)
  | [] => none
  | c :: s =>
    match if c = '}' then afterChars? [';'] (s.dropWhile isBlank) else none with
    | some rest => some ([], rest)
    | none => (takeBody s).map fun r => (c :: r.1, r.2)

/-- The name and the body of a declaration at the start of a text, and what follows it. -/
def declaration? (s : List Char) : Option ((String × List Char) × List Char) := do
  let s ← afterChars? ['v', 'a', 'r'] s
  let s ← afterSome? isBlank s
  let name := s.takeWhile isWord
  let s ← afterSome? isWord s
  let s ← afterChars? ['='] (s.dropWhile isBlank)
  let s ← afterChars? ['{'] (s.dropWhile isBlank)
  let (body, rest) ← takeBody s
  some ((String.ofList name, body), rest)

/-- What stands before a closing quote, backslashes with the character behind them, and what stands
behind the quote. -/
def takeQuoted : List Char → Option (List Char × List Char)
  | [] | ['\\'] => none
  | '"' :: s => some ([], s)
  | '\\' :: c :: s => (takeQuoted s).map fun r => ('\\' :: c :: r.1, r.2)
  | c :: s => (takeQuoted s).map fun r => (c :: r.1, r.2)

/-- The digits and the written text of a numbered text at the start of a body, and what follows. -/
def numbered? (s : List Char) : Option ((List Char × List Char) × List Char) := do
  let digits := s.takeWhile isDigit
  let s ← afterSome? isDigit s
  let s ← afterChars? [':'] (s.dropWhile isBlank)
  let s ← afterChars? ['"'] (s.dropWhile isBlank)
  let (written, rest) ← takeQuoted s
  some ((digits, written), rest)

/-- All that a finder finds in a text from left to right, each behind the one before, after passing
over the first `skip` characters. -/
def findAll (find? : List Char → Option (α × List Char)) : (skip : Nat) → List Char → List α
  | _, [] => []
  | skip + 1, _ :: s => findAll find? skip s
  | 0, c :: s =>
    match find? (c :: s) with
    | none => findAll find? 0 s
    | some (found, rest) => found :: findAll find? (s.length - rest.length) s

/-- The text that is written between quotes in a script, with its references resolved. -/
def scriptText (written : List Char) : Except Fault String :=
  match Json.read (String.ofList ('"' :: written ++ ['"'])) with
  | .error fault => .error (.json fault)
  | .ok (.text value) => resolve value
  | .ok _ => .ok ""

/-- The table that a body writes, after the numbered texts in `before`. -/
def tableFrom (before : Numbered) : List (List Char × List Char) → Except Fault Numbered
  | [] => .ok before
  | (digits, written) :: rest =>
    match scriptText written with
    | .error fault => .error fault
    | .ok value =>
      match ofDigits? (digits.filterMap digit?) with
      | .error fault => .error (.numeral fault)
      | .ok key => tableFrom (Keyed.put (key : Int) value before) rest

/-- The tables that some declarations write, after the ones in `before`. -/
def tablesFrom (before : List (String × Numbered)) :
    List (String × List Char) → Except Fault (List (String × Numbered))
  | [] => .ok before
  | (name, body) :: rest =>
    match tableFrom [] (findAll numbered? 0 body) with
    | .error fault => .error fault
    | .ok table => tablesFrom (Keyed.put name table before) rest

/-- The tables that a script declares, by name. -/
def declarations (text : String) : Except Fault (List (String × Numbered)) :=
  tablesFrom [] (findAll declaration? 0 text.toList)

/-- The sections of the documentation. -/
structure Manifest where
  /-- The alphabets of the indexes. -/
  sections : List (String × String) := []
  /-- The labels of the indexes that have one. -/
  labels : List (String × String) := []
  deriving DecidableEq, Repr

namespace Manifest

/-- The partition of an index that the manifest names. -/
def partition? (manifest : Manifest) (index : String) : Option Partition :=
  (Keyed.get? index manifest.sections).map fun alphabet => { index, alphabet }

/-- A manifest with one more index, which its number joins to an alphabet and a label. -/
def addSection (contents labels : Numbered) (manifest : Manifest) (entry : Int × String) :
    Manifest where
  sections := Keyed.put entry.2 ((Keyed.get? entry.1 contents).getD "") manifest.sections
  labels :=
    match Keyed.get? entry.1 labels with
    | some label => Keyed.put entry.2 label manifest.labels
    | none => manifest.labels

/-- The manifest that a script writes. -/
def read (text : String) : Except Fault Manifest :=
  match declarations text with
  | .error fault => .error fault
  | .ok tables =>
    let table (name : String) : Numbered := (Keyed.get? name tables).getD []
    match table "indexSectionNames" with
    | [] => .error .noSections
    | names =>
      .ok <| names.foldl
        (addSection (table "indexSectionsWithContent") (table "indexSectionLabels")) {}

end Manifest

end SymbolLookup

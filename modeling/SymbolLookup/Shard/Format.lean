import SymbolLookup.Text.Word
/-!
# Formats of shard documents

A document is a script that assigns its records to a variable, or data in the JSON format.

## Main definitions

* `Format`: script or data.
* `assignment?`: what follows the assignment at the start of a script.
* `Format.detect`: the format that a document looks like.
-/

namespace SymbolLookup

open Text

/-- The format of a document. Data may be called by any name; messages use it. -/
inductive Format where
  /-- A script that assigns the records to a variable. -/
  | script
  /-- The records as JSON, by the name that the format was asked for. -/
  | data (name : String)
  deriving DecidableEq, Repr

/-- What follows an expected beginning. -/
def afterChars? : (beginning : List Char) → List Char → Option (List Char)
  | [], s => some s
  | _ :: _, [] => none
  | b :: bs, c :: s => if b = c then afterChars? bs s else none

/-- What follows one character or more of a class. -/
def afterSome? (p : Char → Bool) (s : List Char) : Option (List Char) :=
  if s.head?.any p then some (s.dropWhile p) else none

/-- What follows `var`, a name, an equals sign and the blanks around it, if a text begins so. -/
def assignment? (s : List Char) : Option (List Char) := do
  let s ← afterChars? ['v', 'a', 'r'] (s.dropWhile isBlank)
  let s ← afterSome? isBlank s
  let s ← afterSome? isWord s
  let s ← afterChars? ['='] (s.dropWhile isBlank)
  some (s.dropWhile isBlank)

namespace Format

/-- The format of this name. -/
def ofName (name : String) : Format := if name = "js" then .script else .data name

/-- The name of a format. -/
def name : Format → String
  | .script => "js"
  | .data name => name

/-- The format that a document looks like: a script if it begins with an assignment. -/
def detect (text : String) : Format :=
  if (assignment? text.toList).isSome then .script else .data "json"

/-- The format that a document is read in: the one asked for by name, if any. -/
def choose (asked : Option String) (text : String) : Format :=
  match asked with
  | none | some "" => detect text
  | some name => ofName name

end Format

end SymbolLookup

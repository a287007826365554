import SymbolLookup.Text.Blank
import SymbolLookup.Text.Table.Folding
import SymbolLookup.Text.Table.Lowercase
/-!
# Case

Case folding, which makes texts that differ in case equal, and lower case, which is for reading.

## Main definitions

* `caseFold`: a text without differences of case.
* `lower`: a text in lower case.

## Design notes

Folding looks at one character at a time. Lower case has one exception to that: a capital sigma
becomes the final sigma where it ends a word.
-/

namespace SymbolLookup.Text

/-- The image of a code point under runs `(first, last, step, image of the first)`. -/
def imageInRuns (runs : List (Nat × Nat × Nat × Nat)) (c : Nat) : Option Nat :=
  (runs.find? fun run => run.1 ≤ c && c ≤ run.2.1 && (c - run.1) % run.2.2.1 == 0).map
    fun run => run.2.2.2 + (c - run.1)

/-- The image of a character under a table of single images and one of longer images. -/
def imageIn (runs : List (Nat × Nat × Nat × Nat)) (long : List (Nat × List Nat)) (c : Char) :
    List Char :=
  if c.toNat < 0x80 then [c.toLower]
  else
    match imageInRuns runs c.toNat with
    | some image => [Char.ofNat image]
    | none =>
      match long.find? fun row => row.1 == c.toNat with
      | some row => row.2.map Char.ofNat
      | none => [c]

/-- The case folding of a character. -/
def foldChar (c : Char) : List Char := imageIn Table.foldings Table.longFoldings c

/-- A text without differences of case. -/
def caseFold (s : List Char) : List Char := s.flatMap foldChar

/-- The lower case of a character that is not judged by its place. -/
def lowerChar (c : Char) : List Char := imageIn Table.lowerings Table.longLowerings c

/-- Whether the nearest character that is not passed over is cased. -/
def meetsCased (s : List Char) : Bool :=
  match s.dropWhile (inRuns Table.caseIgnorable) with
  | [] => false
  | c :: _ => inRuns Table.cased c

/-- The lower case of a text that follows `before`, whose last character comes first. -/
def lowerAfter (before : List Char) : List Char → List Char
  | [] => []
  | c :: s =>
    let image :=
      if c = 'Σ' then (if meetsCased before && !meetsCased s then ['ς'] else ['σ'])
      else lowerChar c
    image ++ lowerAfter (c :: before) s

/-- A text in lower case. -/
def lower (s : String) : String := String.ofList (lowerAfter [] s.toList)

end SymbolLookup.Text

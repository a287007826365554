import SymbolLookup.Text.Hexadecimal
import SymbolLookup.Text.Numeral
import SymbolLookup.Text.Table.Reference
/-!
# Character references

Resolving the references of web documents: an ampersand, then a number or a name.

## Main definitions

* `Reference`: what an ampersand can begin.
* `Reference.after?`: the reference that follows an ampersand.
* `Reference.image`: the text that it stands for.
* `unescape`: a text with every reference resolved.

## Design notes

A reference may go without its semicolon. A name that is unknown is cut back to the longest known
one in front of it, and is left as it is when there is none. Decimal numbers of references are
numerals, so the limit on the length of numerals holds for them.
-/

namespace SymbolLookup.Text

/-- What may follow an ampersand. -/
inductive Reference where
  /-- A code point by its decimal digits. -/
  | decimal (digits : List Char)
  /-- A code point by its hexadecimal digits. -/
  | hexadecimal (digits : List Char)
  /-- A name, with its semicolon if it has one. -/
  | named (name : List Char)

/-- Whether a character may stand in the name of a reference. -/
def isNameChar (c : Char) : Bool := "\t\n\x0c <&#;".toList.all (· != c)

/-- The most characters of a name that are looked at. -/
def nameLimit : Nat := 32

/-- One semicolon, if the text begins with it. -/
def takeSemicolon : List Char → List Char
  | ';' :: _ => [';']
  | _ => []

/-- The reference that begins after an ampersand, and how many characters it takes. -/
def Reference.after? (s : List Char) : Option (Reference × Nat) :=
  let close (digits : List Char) (start : Nat) : Nat :=
    start + digits.length + (takeSemicolon (s.drop (start + digits.length))).length
  let decimal := (s.drop 1).takeWhile fun c => '0' ≤ c && c ≤ '9'
  let hexadecimal := (s.drop 2).takeWhile fun c => (hexDigit? c).isSome
  let name := (s.take nameLimit).takeWhile isNameChar
  if s.head? = some '#' then
    if decimal ≠ [] then some (.decimal decimal, close decimal 1)
    else if (s[1]? = some 'x' ∨ s[1]? = some 'X') ∧ hexadecimal ≠ [] then
      some (.hexadecimal hexadecimal, close hexadecimal 2)
    else none
  else if name ≠ [] then
    let whole := name ++ takeSemicolon (s.drop name.length)
    some (.named whole, whole.length)
  else none

/-- The code points of numeric references that stand for another character. -/
def remapped : List (Nat × Nat) := [
  (0x00, 0xFFFD), (0x0D, 0x0D), (0x80, 0x20AC), (0x81, 0x81), (0x82, 0x201A), (0x83, 0x192),
  (0x84, 0x201E), (0x85, 0x2026), (0x86, 0x2020), (0x87, 0x2021), (0x88, 0x2C6), (0x89, 0x2030),
  (0x8A, 0x160), (0x8B, 0x2039), (0x8C, 0x152), (0x8D, 0x8D), (0x8E, 0x17D), (0x8F, 0x8F),
  (0x90, 0x90), (0x91, 0x2018), (0x92, 0x2019), (0x93, 0x201C), (0x94, 0x201D), (0x95, 0x2022),
  (0x96, 0x2013), (0x97, 0x2014), (0x98, 0x2DC), (0x99, 0x2122), (0x9A, 0x161), (0x9B, 0x203A),
  (0x9C, 0x153), (0x9D, 0x9D), (0x9E, 0x17E), (0x9F, 0x178)]

/-- Whether a numeric reference to a code point stands for nothing: a control character or one of
the code points that are never characters. -/
def isVoid (n : Nat) : Bool :=
  (0x01 ≤ n && n ≤ 0x08) || n == 0x0B || (0x0E ≤ n && n ≤ 0x1F) || (0x7F ≤ n && n ≤ 0x9F) ||
    (0xFDD0 ≤ n && n ≤ 0xFDEF) || 0xFFFE ≤ n % 0x10000

/-- The text that a numeric reference stands for. -/
def numericImage (n : Nat) : List Char :=
  match remapped.find? fun row => row.1 == n with
  | some row => [Char.ofNat row.2]
  | none =>
    if (0xD800 ≤ n ∧ n ≤ 0xDFFF) ∨ 0x10FFFF < n then ['\uFFFD']
    else if isVoid n then []
    else [Char.ofNat n]

/-- The text that a name of the table stands for. -/
def namedImage? (name : List Char) : Option (List Char) :=
  let key := String.ofList name
  (Table.references.find? fun row => row.1 == key).map fun row => row.2.map Char.ofNat

/-- The image of the longest known name of at least two characters within the first `length`
characters, and what it leaves over. -/
def longestImage? (name : List Char) : (length : Nat) → Option (List Char)
  | 0 | 1 => none
  | length + 2 =>
    match namedImage? (name.take (length + 2)) with
    | some image => some (image ++ name.drop (length + 2))
    | none => longestImage? name (length + 1)

/-- The text that a reference stands for. -/
def Reference.image : Reference → Except NumeralFault (List Char)
  | .decimal digits =>
    match ofDigits? (digits.filterMap digit?) with
    | .ok n => .ok (numericImage n)
    | .error fault => .error fault
  | .hexadecimal digits => .ok (numericImage (ofHexDigits digits))
  | .named name =>
    .ok ((namedImage? name).or (longestImage? name (name.length - 1)) |>.getD ('&' :: name))

/-- Resolves the references of a text after passing over its first `skip` characters, which
belong to a reference already resolved. -/
def unescapeFrom : (skip : Nat) → List Char → Except NumeralFault (List Char)
  | _, [] => .ok []
  | skip + 1, _ :: s => unescapeFrom skip s
  | 0, c :: s =>
    match if c = '&' then Reference.after? s else none with
    | none => (unescapeFrom 0 s).map (c :: ·)
    | some (reference, taken) =>
      match reference.image with
      | .error fault => .error fault
      | .ok image => (unescapeFrom taken s).map (image ++ ·)

/-- A text with every reference resolved. -/
def unescape (s : String) : Except NumeralFault String :=
  (unescapeFrom 0 s.toList).map String.ofList

end SymbolLookup.Text

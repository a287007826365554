import SymbolLookup.Text.Blank
import SymbolLookup.Text.Hexadecimal
import SymbolLookup.Text.LoneHalf
import SymbolLookup.Text.Table.Printable
/-!
# Quoted texts

How a text is shown inside a message: between quotes, on one line, with everything that would not
be seen written as an escape.

## Main definitions

* `isPrintable`: the characters that are shown as they are.
* `quote`: the quoted form of a text.

## Design notes

The quotes are single unless the text holds a single quote and no double one, so that most texts
need no escaped quote. A character that is not printable becomes the shortest of the three
hexadecimal escapes that can hold it.
-/

namespace SymbolLookup.Text

/-- Whether a character is shown as it is: an assigned letter, mark, numeral, sign or the space. -/
def isPrintable (c : Char) : Bool :=
  if c.toNat < 0x7F then 0x20 ≤ c.toNat else inRuns Table.printable c

/-- A code point as an escape of two, four or eight hexadecimal digits. -/
def hexEscape (n : Nat) : List Char :=
  if n < 0x100 then '\\' :: 'x' :: hexDigits 2 n
  else if n < 0x10000 then '\\' :: 'u' :: hexDigits 4 n
  else '\\' :: 'U' :: hexDigits 8 n

/-- One character inside the given quotes. -/
def quoteChar (mark c : Char) : List Char :=
  if c = mark ∨ c = '\\' then ['\\', c]
  else if c = '\n' then ['\\', 'n']
  else if c = '\r' then ['\\', 'r']
  else if c = '\t' then ['\\', 't']
  else if isPrintable c then [c]
  else hexEscape (codePoint c)

/-- The mark that a text is quoted with. -/
def quoteMark (s : List Char) : Char :=
  if s.contains '\'' && !s.contains '"' then '"' else '\''

/-- A text between quotes, on one line and printable throughout. -/
def quoteChars (s : List Char) : List Char :=
  quoteMark s :: s.flatMap (quoteChar (quoteMark s)) ++ [quoteMark s]

@[inherit_doc quoteChars]
def quote (s : String) : String := String.ofList (quoteChars s.toList)

/-- The quoted form of a text, cut after `limit` characters. -/
def quoteUpTo (limit : Nat) (s : String) : String :=
  String.ofList ((quoteChars s.toList).take limit)

end SymbolLookup.Text

import SymbolLookup.Text.Blank
import SymbolLookup.Text.Quoted
/-!
# Decimal numerals

Reading whole numbers written in the decimal digits of any script, and writing them.

## Main definitions

* `digit?`: the value of a decimal digit.
* `NumeralFault`: why a text is no numeral that can be read, or a number none that is written.
* `readInt`: a text as a whole number.
* `writeInt`: a whole number as a text.

## Design notes

A numeral may have blanks around it, one sign directly before its digits and single underscores
between them. Numerals of more than `digitLimit` digits are refused before anything after their
digits is looked at, and none of them is written.
-/

namespace SymbolLookup.Text

/-- The zeros of all scripts that count in tens; the other nine digits follow each of them. -/
def zeros : List Nat := [
  0x30, 0x660, 0x6F0, 0x7C0, 0x966, 0x9E6, 0xA66, 0xAE6, 0xB66, 0xBE6, 0xC66, 0xCE6, 0xD66,
  0xDE6, 0xE50, 0xED0, 0xF20, 0x1040, 0x1090, 0x17E0, 0x1810, 0x1946, 0x19D0, 0x1A80, 0x1A90,
  0x1B50, 0x1BB0, 0x1C40, 0x1C50, 0xA620, 0xA8D0, 0xA900, 0xA9D0, 0xA9F0, 0xAA50, 0xABF0,
  0xFF10, 0x104A0, 0x10D30, 0x11066, 0x110F0, 0x11136, 0x111D0, 0x112F0, 0x11450, 0x114D0,
  0x11650, 0x116C0, 0x11730, 0x118E0, 0x11950, 0x11C50, 0x11D50, 0x11DA0, 0x16A60, 0x16AC0,
  0x16B50, 0x1D7CE, 0x1D7D8, 0x1D7E2, 0x1D7EC, 0x1D7F6, 0x1E140, 0x1E2F0, 0x1E950, 0x1FBF0]

/-- The value of a decimal digit of any script. -/
def digit? (c : Char) : Option Nat :=
  (zeros.find? fun first => first ≤ c.toNat && c.toNat ≤ first + 9).map (c.toNat - ·)

/-- Whether a character is a decimal digit of any script. -/
def isDigit (c : Char) : Bool := (digit? c).isSome

/-- The number written by some digits, the most significant first. -/
def ofDigits (digits : List Nat) : Nat := digits.foldl (fun n d => 10 * n + d) 0

/-- The most digits that a numeral may have. -/
def digitLimit : Nat := 4300

/-- Why a text is not read as a whole number, or a whole number not written. -/
inductive NumeralFault where
  /-- The text is no numeral. -/
  | malformed (text : String)
  /-- The numeral has more digits than are read. -/
  | tooLong (digits : Nat)
  /-- The number has more digits than are written. -/
  | tooWide
  deriving DecidableEq, Repr

/-- The message of a numeral that is not read or not written; a long text is shown in part. -/
def NumeralFault.message : NumeralFault → String
  | .malformed text => "invalid literal for int() with base 10: " ++ quoteUpTo 200 text
  | .tooLong digits =>
    "Exceeds the limit (" ++ toString digitLimit ++ " digits) for integer string conversion: " ++
      "value has " ++ toString digits ++
      " digits; use sys.set_int_max_str_digits() to increase the limit"
  | .tooWide =>
    "Exceeds the limit (" ++ toString digitLimit ++ " digits) for integer string conversion; " ++
      "use sys.set_int_max_str_digits() to increase the limit"

/-- The number written by some digits, unless they are too many. -/
def ofDigits? (digits : List Nat) : Except NumeralFault Nat :=
  if digits.length ≤ digitLimit then .ok (ofDigits digits) else .error (.tooLong digits.length)

/-- The blanks that may surround a numeral: all but the four information separators. -/
def isNumeralBlank (c : Char) : Bool := isBlank c && !(0x1C ≤ c.toNat && c.toNat ≤ 0x1F)

/-- Whether every underscore stands between two characters that are none. -/
def wellSpaced : List Char → Bool
  | [] => true
  | ['_'] => false
  | '_' :: '_' :: _ => false
  | _ :: rest => wellSpaced rest

/-- The sign before a numeral and what follows it. -/
def takeSign : List Char → Int × List Char
  | '+' :: rest => (1, rest)
  | '-' :: rest => (-1, rest)
  | rest => (1, rest)

/-- The whole number that a text writes. -/
def readInt (text : String) : Except NumeralFault Int :=
  let (sign, body) := takeSign (trimStartOf isNumeralBlank text.toList)
  let (run, rest) := body.span fun c => isDigit c || c = '_'
  if run.head? = some '_' || !wellSpaced run then .error (.malformed text)
  else
    match ofDigits? (run.filterMap digit?) with
    | .error fault => .error fault
    | .ok n =>
      if run.isEmpty || !rest.all isNumeralBlank then .error (.malformed text)
      else .ok (sign * n)

/-- The numeral of a whole number, unless it would have too many digits. -/
def writeInt (n : Int) : Except NumeralFault String :=
  if (Nat.toDigits 10 n.natAbs).length ≤ digitLimit then .ok (toString n) else .error .tooWide

end SymbolLookup.Text

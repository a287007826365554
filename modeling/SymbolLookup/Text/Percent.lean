import SymbolLookup.Text.Hexadecimal
import SymbolLookup.Text.Utf8
/-!
# Percent escapes

Texts in which bytes are written as a percent sign and two hexadecimal digits.

## Main definitions

* `escapedBytes`: the bytes that a text writes.
* `unescapePercent`: the text that they make.

## Design notes

A percent sign without two such digits behind it stands for itself. Bytes that are no UTF-8 stay
escaped, in upper case.
-/

namespace SymbolLookup.Text

/-- The byte of two hexadecimal digits. -/
def byteOf? (a b : Char) : Option UInt8 :=
  match hexDigit? a, hexDigit? b with
  | some high, some low => some (UInt8.ofNat (16 * high + low))
  | _, _ => none

/-- The bytes that a text writes: those of its escapes and those of its other characters. -/
def escapedBytes : List Char → List UInt8
  | '%' :: a :: b :: rest =>
    match byteOf? a b with
    | some byte => byte :: escapedBytes rest
    | none => 0x25 :: escapedBytes (a :: b :: rest)
  | c :: rest => Utf8.encode (String.singleton c) ++ escapedBytes rest
  | [] => []

/-- The escape of a byte. -/
def percentEscape (byte : UInt8) : List Char :=
  '%' :: (hexDigits 2 byte.toNat).map Char.toUpper

/-- The text that an escaped text writes. -/
def unescapePercent (text : List Char) : List Char :=
  (Utf8.pieces (escapedBytes text)).flatMap fun
    | .char c => [c]
    | .broken bytes => bytes.flatMap percentEscape

end SymbolLookup.Text

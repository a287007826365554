/-!
# Lone halves

The code units from U+D800 to U+DFFF write characters in pairs. A text may hold one of them without
its other half, when it was written as an escape, and then no character is meant.

## Main definitions

* `loneHalf`: the character that stands for such a half in a text.
* `isLoneHalf`: whether a character stands for one.
* `codePoint`: the code point that a character stands for.
* `codePoints`: the code points of a text, by which texts are ordered.

## Design notes

Texts are made of characters, so for each half one of the characters that nobody else gives a
meaning to stands in, from U+10F000 on. Halves that differ are told apart, none is a letter or a
blank or changed by normalization, and what cannot write halves cannot write these. Texts have to be
ordered by what is meant, since halves stand before the characters that stand for them.
-/

namespace SymbolLookup.Text

/-- The character that stands for a half without the other. -/
def loneHalf (n : Nat) : Char := Char.ofNat (0x10F000 + (n - 0xD800))

/-- Whether a character stands for a half without the other. -/
def isLoneHalf (c : Char) : Bool := 0x10F000 ≤ c.toNat && c.toNat < 0x10F800

/-- The code point that a character stands for. -/
def codePoint (c : Char) : Nat := if isLoneHalf c then 0xD800 + (c.toNat - 0x10F000) else c.toNat

/-- The code points of a text. -/
def codePoints (text : String) : List Nat := text.toList.map codePoint

end SymbolLookup.Text

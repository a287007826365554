import Mathlib.Algebra.Group.Nat.Defs
import SymbolLookup.Proofs.Json.Recovery
/-!
# Spellings of texts

A text between quotes may be written in ASCII alone, and is read as if it had been written as it is.

## Main definitions

* `Json.asciiChar`: a character of a text between quotes, written in ASCII.
* `Json.spell`: a text between quotes in either spelling.

## Main results

* `Json.codeUnit?_unitChars`: a code unit is read from its four digits.
* `Json.read_spell`: every text is read from either of its spellings.

## Design notes

A character beyond the first 65536 is written by two code units, which are the two halves of a pair
and never code units of characters of their own.
-/

namespace SymbolLookup.Json

open Text

/-! ## Code units -/

/-- The value of hexadecimal digits, from the lowest ones of a number. -/
theorem ofHexDigits_hexDigits (width n : Nat) :
    ofHexDigits (hexDigits width n) = n % 16 ^ width := by
  induction width generalizing n with
  | zero => simp [hexDigits, ofHexDigits, Nat.mod_one]
  | succ width ih =>
    have digit : ∀ d < 16, (hexDigit? (Nat.digitChar d)).getD 0 = d := by decide
    have front := ih (n / 16)
    rw [ofHexDigits] at front
    rw [hexDigits, ofHexDigits, List.foldl_append, front, List.foldl_cons, List.foldl_nil,
      digit _ (Nat.mod_lt n (by decide)), Nat.pow_succ', Nat.mod_mul]
    omega

theorem exists_of_mem_hexDigits {width n : Nat} {c : Char} (h : c ∈ hexDigits width n) :
    ∃ d < 16, c = Nat.digitChar d := by
  induction width generalizing n with
  | zero => cases h
  | succ width ih =>
    rcases List.mem_append.1 h with h | h
    · exact ih h
    · exact ⟨n % 16, Nat.mod_lt n (by decide), List.mem_singleton.1 h⟩

/-- The escape of a code unit. -/
def unitChars (n : Nat) : List Char := '\\' :: 'u' :: hexDigits 4 n

/-- A code unit is read from its four digits. -/
theorem codeUnit?_unitChars {n : Nat} (h : n < 0x10000) :
    ∃ a b c d, unitChars n = ['\\', 'u', a, b, c, d] ∧ codeUnit? a b c d = some n := by
  have digit : ∀ d < 16, (hexDigit? (Nat.digitChar d)).isSome = true := by decide
  have digits : ∀ c ∈ hexDigits 4 n, (hexDigit? c).isSome = true := by
    intro c hc
    obtain ⟨d, hd, rfl⟩ := exists_of_mem_hexDigits hc
    exact digit d hd
  have value : ofHexDigits (hexDigits 4 n) = n :=
    (ofHexDigits_hexDigits 4 n).trans (Nat.mod_eq_of_lt h)
  exact ⟨_, _, _, _, rfl, (if_pos (List.all_eq_true.2 digits)).trans (congrArg some value)⟩

/-- The two halves of a pair. -/
theorem readText_pair {opening high low : Nat} {before s : List Char} (hh : high < 0x10000)
    (hl : low < 0x10000) (hi : isHighHalf high = true) (lo : isLowHalf low = true) (hs : s ≠ []) :
    readText opening before (unitChars high ++ unitChars low ++ s) =
      readText opening (ofHalves high low :: before) s := by
  obtain ⟨a, b, c, d, hu, first⟩ := codeUnit?_unitChars hh
  obtain ⟨a', b', c', d', hv, second⟩ := codeUnit?_unitChars hl
  obtain ⟨e, s, rfl⟩ := List.exists_cons_of_ne_nil hs
  rw [hu, hv]
  simp only [List.cons_append, List.nil_append]
  rw [readText.eq_def]
  simp only [first, second, hi, lo, if_true]

/-! ## Characters -/

/-- One character of a text between quotes, written in ASCII. -/
def asciiChar (c : Char) : List Char :=
  if c.toNat < 0x7F then escapeChar c
  else if c.toNat < 0x10000 then unitChars c.toNat
  else
    unitChars (0xD800 + (c.toNat - 0x10000) / 0x400) ++
      unitChars (0xDC00 + (c.toNat - 0x10000) % 0x400)

/-- One character of a text between quotes, in ASCII or as it is. -/
def spellChar (ascii : Bool) (c : Char) : List Char := if ascii then asciiChar c else escapeChar c

/-- No character is a half of a pair. -/
theorem isHalf_toNat (c : Char) : isHighHalf c.toNat = false ∧ isLowHalf c.toNat = false := by
  have valid : c.toNat < 0xD800 ∨ 0xDFFF < c.toNat ∧ c.toNat < 0x110000 := c.valid
  simp only [isHighHalf, isLowHalf, Bool.and_eq_false_iff, decide_eq_false_iff_not]
  omega

/-- A character is taken back from how it is written in ASCII. -/
theorem readText_asciiChar (opening : Nat) (before : List Char) (c : Char) {s : List Char}
    (hs : s ≠ []) :
    readText opening before (asciiChar c ++ s) = readText opening (c :: before) s := by
  unfold asciiChar
  split
  · exact readText_escapeChar opening before c hs
  · split
    · obtain ⟨u₁, u₂, u₃, u₄, hu, unit⟩ := codeUnit?_unitChars ‹_›
      obtain ⟨hi, lo⟩ := isHalf_toNat c
      have own : ofCodeUnit c.toNat = c := by simp [ofCodeUnit, hi, lo]
      rw [hu]
      simp only [List.cons_append, List.nil_append]
      rw [readText_codeUnit unit hi hs, own]
    · have valid : c.toNat < 0xD800 ∨ 0xDFFF < c.toNat ∧ c.toNat < 0x110000 := c.valid
      have pair : ofHalves (0xD800 + (c.toNat - 0x10000) / 0x400)
          (0xDC00 + (c.toNat - 0x10000) % 0x400) = c := by
        have sum : 0x10000 + (0xD800 + (c.toNat - 0x10000) / 0x400 - 0xD800) * 0x400 +
            (0xDC00 + (c.toNat - 0x10000) % 0x400 - 0xDC00) = c.toNat := by omega
        rw [ofHalves, sum, Char.ofNat_toNat]
      rw [readText_pair (by omega) (by omega) ?_ ?_ hs, pair]
      · simp only [isHighHalf, Bool.and_eq_true, decide_eq_true_eq]
        omega
      · simp only [isLowHalf, Bool.and_eq_true, decide_eq_true_eq]
        omega

theorem readText_spellChar (ascii : Bool) (opening : Nat) (before : List Char) (c : Char)
    {s : List Char} (hs : s ≠ []) :
    readText opening before (spellChar ascii c ++ s) = readText opening (c :: before) s := by
  cases ascii with
  | false => exact readText_escapeChar opening before c hs
  | true => exact readText_asciiChar opening before c hs

/-! ## Texts -/

/-- What stands between the quotes of a text. -/
def spell (ascii : Bool) (s : List Char) : List Char := s.flatMap (spellChar ascii)

/-- A text is taken back from either of its spellings. -/
theorem readText_spell (ascii : Bool) (opening : Nat) (before s rest : List Char) :
    readText opening before (spell ascii s ++ '"' :: rest) = .ok (before.reverse ++ s, rest) := by
  induction s generalizing before with
  | nil => simp [spell, readText]
  | cons c s ih =>
    rw [spell] at ih
    rw [spell, List.flatMap_cons, List.append_assoc, readText_spellChar _ _ _ _ (by simp), ih]
    simp

/-- **Spellings do not matter.** A text between quotes is read from either of its spellings. -/
theorem read_spell (ascii : Bool) (s : List Char) :
    read (String.ofList ('"' :: spell ascii s ++ ['"'])) = .ok (.text (String.ofList s)) := by
  have quoted : ('"' :: spell ascii s ++ ['"']).head? ≠ some '\uFEFF' := by simp
  have found : readValue (2 * ('"' :: spell ascii s ++ ['"']).length + 2) defaultNesting
      (skipGap ('"' :: spell ascii s ++ ['"'])) = .ok (.text (String.ofList s), []) := by
    have skipped : skipGap ('"' :: spell ascii s ++ ['"']) = '"' :: (spell ascii s ++ ['"']) := rfl
    rw [skipped, readValue, readText_spell]
    rfl
  rw [read, String.toList_ofList, readChars, if_neg quoted, found]
  rfl

end SymbolLookup.Json

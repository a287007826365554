import Mathlib.Data.List.Infix
import Mathlib.Data.List.TakeWhile
import SymbolLookup.Text.Reference
/-!
# Texts whose references are not resolved

Resolving references fails at decimal numbers of too many digits, and nowhere else.

## Main definitions

* `HoldsOverlong`: whether a text holds a decimal reference of more digits than a numeral may have.

## Main results

* `unescapeFrom_eq_error_iff`: just the references of these texts are not resolved.

## Design notes

What belongs to one reference holds no ampersand, so that no other reference is passed over with it.
-/

namespace SymbolLookup.Text

/-- Whether some characters are more decimal digits than a numeral may have. -/
def IsOverlong (digits : List Char) : Prop :=
  (∀ c ∈ digits, '0' ≤ c ∧ c ≤ '9') ∧ digitLimit < digits.length

/-- Whether a text holds a decimal reference of more digits than a numeral may have. -/
def HoldsOverlong (s : List Char) : Prop :=
  ∃ digits, IsOverlong digits ∧ '&' :: '#' :: digits <:+: s

/-- Whether such a reference begins behind an ampersand. -/
def BeginsOverlong (s : List Char) : Prop := ∃ digits, IsOverlong digits ∧ '#' :: digits <+: s

theorem holdsOverlong_cons {c : Char} {s : List Char} :
    HoldsOverlong (c :: s) ↔ c = '&' ∧ BeginsOverlong s ∨ HoldsOverlong s := by
  simp only [HoldsOverlong, BeginsOverlong, List.infix_cons_iff, List.cons_prefix_cons]
  constructor
  · rintro ⟨digits, hd, ⟨rfl, hp⟩ | hi⟩
    · exact .inl ⟨rfl, digits, hd, hp⟩
    · exact .inr ⟨digits, hd, hi⟩
  · rintro (⟨rfl, digits, hd, hp⟩ | ⟨digits, hd, hi⟩)
    · exact ⟨digits, hd, .inl ⟨rfl, hp⟩⟩
    · exact ⟨digits, hd, .inr hi⟩

theorem holdsOverlong_append {before s : List Char} (h : '&' ∉ before) :
    HoldsOverlong (before ++ s) ↔ HoldsOverlong s := by
  induction before with
  | nil => rfl
  | cons c before ih =>
    obtain ⟨hc, hb⟩ := not_or.1 (List.mem_cons.not.1 h)
    rw [List.cons_append, holdsOverlong_cons, ih hb]
    simp [Ne.symm hc]

/-! ## Digits -/

theorem exists_digit? {c : Char} (h : '0' ≤ c ∧ c ≤ '9') : (digit? c).isSome := by
  have h0 : 0x30 ≤ c.toNat := h.1
  have h9 : c.toNat ≤ 0x39 := h.2
  rw [digit?, Option.isSome_map, List.find?_isSome]
  exact ⟨0x30, by simp [zeros], by simp [h0, h9]⟩

theorem Reference.image_decimal_eq_error_iff {digits : List Char}
    (h : ∀ c ∈ digits, '0' ≤ c ∧ c ≤ '9') :
    (∃ fault, (decimal digits).image = .error fault) ↔ digitLimit < digits.length := by
  have hl : (digits.filterMap digit?).length = digits.length :=
    List.filterMap_length_eq_length.2 fun c hc => exists_digit? (h c hc)
  rw [image, ofDigits?, hl]
  split
  · rename_i n hn
    split at hn
    · simp; omega
    · cases hn
  · rename_i fault hn
    split at hn
    · cases hn
    · simp; omega

/-- Whether a reference of too many digits begins is told by all digits that stand there. -/
theorem beginsOverlong_iff {s : List Char} : BeginsOverlong s ↔ s.head? = some '#' ∧
    digitLimit < ((s.drop 1).takeWhile fun c => '0' ≤ c && c ≤ '9').length := by
  cases s with
  | nil => simp [BeginsOverlong]
  | cons c s =>
    rw [List.head?_cons, Option.some_inj, List.drop_one, List.tail_cons]
    constructor
    · rintro ⟨digits, ⟨hd, hl⟩, hp⟩
      obtain ⟨rfl, rest, rfl⟩ := List.cons_prefix_cons.1 hp
      refine ⟨rfl, Nat.lt_of_lt_of_le hl ?_⟩
      rw [List.takeWhile_append_of_pos fun c hc => by simpa using hd c hc, List.length_append]
      omega
    · rintro ⟨rfl, hl⟩
      refine ⟨_, ⟨fun c hc => ?_, hl⟩, List.cons_prefix_cons.2 ⟨rfl, List.takeWhile_prefix _⟩⟩
      simpa using List.mem_takeWhile_imp hc

/-! ## References -/

theorem take_takeSemicolon (s : List Char) : s.take (takeSemicolon s).length = takeSemicolon s := by
  cases s with
  | nil => rfl
  | cons c s =>
    unfold takeSemicolon
    split <;> simp_all

theorem not_mem_take_add {s : List Char} {taken more : Nat} (h : '&' ∉ s.take taken)
    (hm : '&' ∉ (s.drop taken).take more) : '&' ∉ s.take (taken + more) := by
  rw [List.take_add, List.mem_append]
  exact not_or.2 ⟨h, hm⟩

theorem not_mem_takeSemicolon (s : List Char) :
    '&' ∉ s.take (takeSemicolon s).length := by
  rw [take_takeSemicolon]
  unfold takeSemicolon
  split <;> simp

theorem not_mem_take_takeWhile {p : Char → Bool} (h : p '&' = false) (s : List Char) :
    '&' ∉ s.take (s.takeWhile p).length := by
  rw [← List.prefix_iff_eq_take.1 (List.takeWhile_prefix p)]
  intro hm
  rw [List.mem_takeWhile_imp hm] at h
  cases h

namespace Reference

/-- No ampersand belongs to what follows the ampersand of a reference. -/
theorem not_mem_take_of_after? {s : List Char} {reference : Reference} {taken : Nat}
    (h : after? s = some (reference, taken)) : '&' ∉ s.take taken := by
  unfold after? at h
  simp only at h
  split at h
  · rename_i hs
    obtain ⟨t, rfl⟩ := List.head?_eq_some_iff.1 hs
    have h1 : '&' ∉ ('#' :: t).take 1 := by simp
    split at h
    · cases h
      refine not_mem_take_add (not_mem_take_add h1 ?_) (not_mem_takeSemicolon _)
      exact not_mem_take_takeWhile (by decide) _
    · split at h
      · rename_i hx
        cases h
        refine not_mem_take_add (not_mem_take_add ?_ ?_) (not_mem_takeSemicolon _)
        · cases t with
          | nil => simp
          | cons x t =>
            obtain rfl | rfl : x = 'x' ∨ x = 'X' := by simpa using hx.1
            all_goals simp
        · exact not_mem_take_takeWhile (by decide) _
      · cases h
  · split at h
    · cases h
      rw [List.length_append]
      refine not_mem_take_add ?_ (not_mem_takeSemicolon _)
      have hn := not_mem_take_takeWhile (p := isNameChar) (by decide) (s.take nameLimit)
      rw [List.take_take, Nat.min_eq_left] at hn
      · exact hn
      · exact Nat.le_trans (List.takeWhile_prefix _).length_le (List.length_take_le _ _)
    · cases h

theorem image_eq_error_iff {s : List Char} {reference : Reference} {taken : Nat}
    (h : after? s = some (reference, taken)) :
    (∃ fault, reference.image = .error fault) ↔ BeginsOverlong s := by
  unfold after? at h
  simp only at h
  rw [beginsOverlong_iff]
  split at h
  · rename_i hs
    split at h
    · cases h
      rw [image_decimal_eq_error_iff fun c hc => by simpa using List.mem_takeWhile_imp hc]
      simp [hs]
    · rename_i hd
      split at h
      · cases h
        rw [not_not.1 hd]
        simp [image]
      · cases h
  · rename_i hs
    split at h
    · cases h
      simp [image, hs]
    · cases h

theorem not_beginsOverlong {s : List Char} (h : after? s = none) : ¬BeginsOverlong s := by
  rw [beginsOverlong_iff]
  rintro ⟨hs, hl⟩
  have hd : ((s.drop 1).takeWhile fun c => '0' ≤ c && c ≤ '9') ≠ [] := by
    intro hd
    rw [hd] at hl
    cases hl
  simp only [after?, if_pos hs, if_pos hd] at h
  cases h

end Reference

/-! ## Texts -/

theorem unescapeFrom_eq_drop (skip : Nat) (s : List Char) :
    unescapeFrom skip s = unescapeFrom 0 (s.drop skip) := by
  induction s generalizing skip with
  | nil => cases skip <;> rfl
  | cons c s ih =>
    cases skip with
    | zero => rfl
    | succ skip => rw [unescapeFrom, ih, List.drop_succ_cons]

theorem map_eq_error_iff {ε α β : Type} {outcome : Except ε α} {f : α → β} {fault : ε} :
    outcome.map f = .error fault ↔ outcome = .error fault := by
  cases outcome <;> simp [Except.map]

/-- Just the references of texts with an overlong one are not resolved. -/
theorem unescapeFrom_eq_error_iff (s : List Char) :
    (∃ fault, unescapeFrom 0 s = .error fault) ↔ HoldsOverlong s := by
  -- behind a reference it goes on with what the reference leaves over
  induction hn : s.length using Nat.strongRecOn generalizing s with
  | ind length ih =>
    cases s with
    | nil => simp [unescapeFrom, HoldsOverlong]
    | cons c s =>
      rw [List.length_cons] at hn
      rw [unescapeFrom, holdsOverlong_cons]
      split
      · rename_i hr
        simp only [map_eq_error_iff]
        rw [ih _ (by omega) s rfl]
        have hb : ¬(c = '&' ∧ BeginsOverlong s) := by
          rintro ⟨rfl, hb⟩
          rw [if_pos rfl] at hr
          exact Reference.not_beginsOverlong hr hb
        simp [hb]
      · rename_i reference taken hr
        obtain ⟨rfl, hr⟩ : c = '&' ∧ Reference.after? s = some (reference, taken) := by
          split at hr
          · exact ⟨‹_›, hr⟩
          · cases hr
        have hb := Reference.image_eq_error_iff hr
        split
        · rename_i fault hf
          simp [← hb, hf]
        · rename_i image hf
          have ht := holdsOverlong_append (s := s.drop taken) (Reference.not_mem_take_of_after? hr)
          rw [List.take_append_drop] at ht
          simp only [map_eq_error_iff]
          rw [unescapeFrom_eq_drop, ih _ (by simp; omega) _ rfl, ← ht]
          simp [← hb, hf]

end SymbolLookup.Text

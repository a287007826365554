import SymbolLookup.Json.Printer
import SymbolLookup.Json.Reader
/-!
# Reading JSON that was written

The reader takes back what the printer writes.

## Main definitions

* `Json.isPlain`: whether a value is made of texts and lists.

## Main results

* `Json.readText_flatMap`: every text is read as it was written, whatever its characters.
* `Json.read_render`: so is every plain value.

## Design notes

The bound on the nesting of the calls of the reader is twice the length of what was written: a list
takes two calls more than its items, and writes two brackets more.
-/

namespace SymbolLookup.Json

open Text

/-! ## Texts -/

/-- A character that is written as it is. -/
theorem readText_cons {opening : Nat} {before s : List Char} {c : Char} (hq : c ≠ '"')
    (hb : c ≠ '\\') (hc : ¬ c.toNat < 0x20) :
    readText opening before (c :: s) = readText opening (c :: before) s := by
  rw [readText]
  · rw [if_neg hc]
  all_goals simp [hq, hb]

/-- A control character is written by the digits of its code unit. -/
theorem codeUnit?_hexDigits {n : Nat} (hn : n < 0x20) : ∃ a b c d, hexDigits 4 n = [a, b, c, d] ∧
    codeUnit? a b c d = some n ∧ isHighHalf n = false ∧ isLowHalf n = false := by
  refine ⟨_, _, _, _, rfl, ?_, ?_, ?_⟩
  · revert n
    decide
  · simp [isHighHalf]
    omega
  · simp [isLowHalf]
    omega

/-- A code unit that is no half of a pair is read on its own. -/
theorem readText_codeUnit {opening n : Nat} {before s : List Char} {a b c d : Char}
    (h : codeUnit? a b c d = some n) (hh : isHighHalf n = false) (hs : s ≠ []) :
    readText opening before ('\\' :: 'u' :: a :: b :: c :: d :: s) =
      readText opening (ofCodeUnit n :: before) s := by
  rw [readText.eq_def]
  simp only [h]
  split <;> simp_all

/-- A character is taken back from how it is written inside a text. -/
theorem readText_escapeChar (opening : Nat) (before : List Char) (c : Char) {s : List Char}
    (hs : s ≠ []) :
    readText opening before (escapeChar c ++ s) = readText opening (c :: before) s := by
  unfold escapeChar
  split
  -- all characters but those with an escape of their own
  case h_8 hq hb _ _ _ _ _ =>
    split
    · rename_i hc
      obtain ⟨u₁, u₂, u₃, u₄, hd, hu, hh, hl⟩ := codeUnit?_hexDigits hc
      have hi : ofCodeUnit c.toNat = c := by simp [ofCodeUnit, hh, hl]
      rw [hd]
      simp only [List.cons_append, List.nil_append]
      rw [readText_codeUnit hu hh hs, hi]
    · exact readText_cons hq hb ‹_›
  all_goals simp [readText, escapeImage?]

/-- A text is taken back from how it is written between quotes. -/
theorem readText_flatMap (opening : Nat) (before s rest : List Char) :
    readText opening before (s.flatMap escapeChar ++ '"' :: rest) =
      .ok (before.reverse ++ s, rest) := by
  induction s generalizing before with
  | nil => simp [readText]
  | cons c s ih =>
    rw [List.flatMap_cons, List.append_assoc, readText_escapeChar _ _ _ (by simp), ih]
    simp

/-! ## Values -/

mutual

/-- Whether a value is made of texts and lists, nested no deeper than `nesting`. -/
def isPlain : Json → (nesting : Nat) → Bool
  | .text _, _ => true
  | .list items, nesting + 1 => allPlain items nesting
  | _, _ => false

/-- Whether all these values are so. -/
def allPlain : List Json → (nesting : Nat) → Bool
  | [], _ => true
  | item :: items, nesting => isPlain item nesting && allPlain items nesting

end

variable {nesting : Nat}

theorem allPlain_cons {item : Json} {items : List Json} :
    allPlain (item :: items) nesting ↔ item.isPlain nesting ∧ allPlain items nesting := by
  rw [allPlain, Bool.and_eq_true]

theorem renderChars_eq_cons {value : Json} (h : value.isPlain nesting) :
    ∃ c s, renderChars value = c :: s ∧ isGap c = false ∧ (c = '"' ∨ c = '[') := by
  cases value with
  | text value => exact ⟨_, _, rfl, rfl, .inl rfl⟩
  | list items => exact ⟨_, _, rfl, rfl, .inr rfl⟩
  | _ => cases h

theorem skipGap_renderChars {value : Json} (h : value.isPlain nesting) (rest : List Char) :
    skipGap (renderChars value ++ rest) = renderChars value ++ rest := by
  obtain ⟨c, s, hr, hg, -⟩ := renderChars_eq_cons h
  rw [hr, List.cons_append, skipGap, List.dropWhile_cons_of_neg (by simp [hg])]

theorem textChars_append (s rest : List Char) :
    textChars s ++ rest = '"' :: (s.flatMap escapeChar ++ '"' :: rest) := by
  simp [textChars]

theorem renderChars_text (value : String) : renderChars (.text value) = textChars value.toList :=
  rfl

theorem readValue_text (depth nesting : Nat) (value : String) (rest : List Char) :
    readValue (depth + 1) nesting (renderChars (.text value) ++ rest) =
      .ok (.text value, rest) := by
  rw [renderChars_text, textChars_append, readValue, readText_flatMap, Except.map,
    List.reverse_nil, List.nil_append, String.ofList_toList]

/-- The items of a list and the closing bracket, when there are others behind the first. -/
theorem renderItems_cons_cons (item next : Json) (items : List Json) :
    renderItems (item :: next :: items) =
      renderChars item ++ ',' :: ' ' :: renderItems (next :: items) := by
  rw [renderItems]
  simp

theorem renderItems_eq_cons {item : Json} (h : item.isPlain nesting) (items : List Json) :
    ∃ c s, renderItems (item :: items) = c :: s ∧ isGap c = false ∧ c ≠ ']' := by
  obtain ⟨c, s, hr, hg, hc⟩ := renderChars_eq_cons h
  have hn : c ≠ ']' := by rintro rfl; simp at hc
  cases items with
  | nil => exact ⟨c, s ++ [']'], by rw [renderItems, hr, List.cons_append], hg, hn⟩
  | cons next items =>
    exact ⟨c, _, by rw [renderItems_cons_cons, hr, List.cons_append], hg, hn⟩

theorem readValue_list {item : Json} {items : List Json} (h : allPlain (item :: items) nesting)
    {depth : Nat} {rest : List Char}
    (hr : readItems depth nesting (renderItems (item :: items) ++ rest) =
      .ok (item :: items, rest)) :
    readValue (depth + 1) (nesting + 1) (renderChars (.list (item :: items)) ++ rest) =
      .ok (.list (item :: items), rest) := by
  obtain ⟨c, s, hc, hg, hn⟩ := renderItems_eq_cons (allPlain_cons.1 h).1 items
  rw [renderChars, List.cons_append, readValue]
  rw [hc, List.cons_append] at hr ⊢
  rw [skipGap, List.dropWhile_cons_of_neg (by simp [hg])]
  split
  · rename_i he
    exact absurd (List.cons.inj he).1 hn
  · rw [hr]
    rfl

theorem readItems_singleton {item : Json} {depth : Nat} {rest : List Char}
    (hv : readValue depth nesting (renderChars item ++ ']' :: rest) = .ok (item, ']' :: rest)) :
    readItems (depth + 1) nesting (renderItems [item] ++ rest) = .ok ([item], rest) := by
  rw [renderItems, List.append_assoc, List.singleton_append, readItems, hv]
  rfl

theorem readItems_cons_cons {item next : Json} {items : List Json} (h : next.isPlain nesting)
    {depth : Nat} {rest : List Char}
    (hv : readValue depth nesting
        (renderChars item ++ ',' :: ' ' :: (renderItems (next :: items) ++ rest)) =
      .ok (item, ',' :: ' ' :: (renderItems (next :: items) ++ rest)))
    (hr : readItems depth nesting (renderItems (next :: items) ++ rest) =
      .ok (next :: items, rest)) :
    readItems (depth + 1) nesting (renderItems (item :: next :: items) ++ rest) =
      .ok (item :: next :: items, rest) := by
  obtain ⟨c, s, hc, hg, -⟩ := renderItems_eq_cons h items
  -- the blank behind a comma is skipped, and no other gap follows
  have hcomma (s : List Char) : skipGap (',' :: s) = ',' :: s := rfl
  have hblank : skipGap (' ' :: (renderItems (next :: items) ++ rest)) =
      renderItems (next :: items) ++ rest := by
    rw [hc, List.cons_append, skipGap, List.dropWhile_cons_of_pos rfl,
      List.dropWhile_cons_of_neg (by simp [hg])]
  rw [renderItems_cons_cons, List.append_assoc, List.cons_append, List.cons_append, readItems, hv]
  simp only [hcomma]
  rw [hblank, hr]
  rfl

/-- Plain values, and the items of lists of them, are taken back from how they are written. -/
theorem readValue_and_readItems (depth nesting : Nat) :
    (∀ (value : Json) (rest : List Char), value.isPlain nesting →
      2 * (renderChars value).length ≤ depth →
      readValue depth nesting (renderChars value ++ rest) = .ok (value, rest)) ∧
    ∀ (item : Json) (items : List Json) (rest : List Char), allPlain (item :: items) nesting →
      2 * (renderItems (item :: items)).length ≤ depth →
      readItems depth nesting (renderItems (item :: items) ++ rest) =
        .ok (item :: items, rest) := by
  -- the induction is on the bound of the reader, as values and items call each other
  induction depth generalizing nesting with
  | zero =>
    constructor
    · intro value rest h hd
      obtain ⟨c, s, hr, -⟩ := renderChars_eq_cons h
      simp [hr] at hd
    · intro item items rest h hd
      obtain ⟨c, s, hr, -⟩ := renderItems_eq_cons (allPlain_cons.1 h).1 items
      simp [hr] at hd
  | succ depth ih =>
    constructor
    · intro value rest h hd
      cases value with
      | text value => exact readValue_text depth nesting value rest
      | list items =>
        -- the items are nested one less deep
        cases nesting with
        | zero => cases h
        | succ nesting =>
          cases items with
          | nil => rfl
          | cons item items =>
            simp only [renderChars, List.length_cons] at hd
            exact readValue_list h ((ih nesting).2 item items rest h (by omega))
      | _ => cases h
    · obtain ⟨values, lists⟩ := ih nesting
      intro item items rest h hd
      obtain ⟨hi, hm⟩ := allPlain_cons.1 h
      cases items with
      | nil =>
        simp only [renderItems, List.length_append, List.length_singleton] at hd
        exact readItems_singleton (values item _ hi (by omega))
      | cons next items =>
        simp only [renderItems_cons_cons, List.length_append, List.length_cons] at hd
        exact readItems_cons_cons (allPlain_cons.1 hm).1 (values item _ hi (by omega))
          (lists next items rest hm (by omega))

/-- **What was written is read again.** A plain value is read from how it was written. -/
theorem read_render {value : Json} (h : value.isPlain nesting) :
    read value.render nesting = .ok value := by
  obtain ⟨c, s, hr, hg, hc⟩ := renderChars_eq_cons h
  have hb : (renderChars value).head? ≠ some '\uFEFF' := by
    rw [hr]
    obtain rfl | rfl := hc <;> simp
  have hv := (readValue_and_readItems (2 * (renderChars value).length + 2) nesting).1 value [] h
    (Nat.le_add_right _ _)
  have hs := skipGap_renderChars h []
  rw [List.append_nil] at hv hs
  rw [read, render, String.toList_ofList, readChars, if_neg hb, hs, hv]
  rfl

end SymbolLookup.Json

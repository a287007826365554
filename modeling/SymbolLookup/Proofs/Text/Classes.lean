import SymbolLookup.Proofs.Text.Surrounding
import SymbolLookup.Shard.Format
import SymbolLookup.Text.Numeral
/-!
# Classes of characters

Scripts are read in runs of characters of one class: blanks, digits, and what names are made of.

## Main results

* `isBlank_of_isDigit`, `isBlank_of_isWord`: no blank is a digit or stands in a name.
* `dropWhile_run`, `takeWhile_run`: a run ends where the next character is of another class.
* `afterChars?_eq_some_iff`, `afterSome?_eq_some_iff`: what stands before what is left of a text.
-/

namespace SymbolLookup

open Text

/-! ## Blanks, digits and names -/

section Classes

variable {p q : Char → Bool} {c : Char}

/-- Where no character of a class is of another one, none of the other is of the class. -/
theorem eq_false_of_apart (apart : p c = true → q c = false) (h : q c = true) : p c = false := by
  rw [← Bool.not_eq_true]
  exact fun hp => Bool.false_ne_true ((apart hp).symm.trans h)

theorem isBlank_of_isDigit (h : isDigit c = true) : isBlank c = false := by
  have zeros : ∀ first ∈ zeros, meetsBlank first (first + 9) = false := by decide
  rw [isDigit, digit?, Option.isSome_map, List.find?_isSome] at h
  obtain ⟨first, hz, hc⟩ := h
  rw [Bool.and_eq_true, decide_eq_true_eq, decide_eq_true_eq] at hc
  exact isBlankCode_of_run (zeros first hz) hc.1 hc.2

theorem isDigit_of_isBlank (h : isBlank c = true) : isDigit c = false :=
  eq_false_of_apart isBlank_of_isDigit h

theorem isBlank_of_isWord (h : isWord c = true) : isBlank c = false := by
  have words : ∀ run ∈ Table.word, meetsBlank run.1 run.2 = false := by decide +kernel
  rw [isWord, inRuns, List.any_eq_true] at h
  obtain ⟨run, hr, hc⟩ := h
  rw [Bool.and_eq_true, decide_eq_true_eq, decide_eq_true_eq] at hc
  exact isBlankCode_of_run (words run hr) hc.1 hc.2

theorem isWord_of_isBlank (h : isBlank c = true) : isWord c = false :=
  eq_false_of_apart isBlank_of_isWord h

theorem Text.IsBlankText.not_mem {gap : List Char} (hg : IsBlankText gap) {c : Char}
    (hc : isBlank c = false) : c ∉ gap :=
  fun hm => Bool.false_ne_true (hc.symm.trans (hg c hm))

end Classes

/-! ## Runs -/

section Runs

variable {p : Char → Bool} {run rest : List Char}

/-- A run of a class ends where the next character is not of it. -/
theorem dropWhile_run (hr : ∀ c ∈ run, p c = true) (he : ∀ c, rest.head? = some c → p c = false) :
    (run ++ rest).dropWhile p = rest :=
  (trimStartOf_append hr rest).trans (trimStartOf_eq_self he)

theorem takeWhile_run (hr : ∀ c ∈ run, p c = true) (he : ∀ c, rest.head? = some c → p c = false) :
    (run ++ rest).takeWhile p = run := by
  rw [List.takeWhile_append_of_pos hr]
  cases rest with
  | nil => simp
  | cons c rest => rw [List.takeWhile_cons_of_neg (by simp [he c rfl]), List.append_nil]

theorem afterSome?_run (hn : run ≠ []) (hr : ∀ c ∈ run, p c = true)
    (he : ∀ c, rest.head? = some c → p c = false) : afterSome? p (run ++ rest) = some rest := by
  obtain ⟨c, run, rfl⟩ := List.exists_cons_of_ne_nil hn
  rw [afterSome?, dropWhile_run hr he, if_pos]
  simpa using hr c List.mem_cons_self

/-- What is left behind a run begins with no character of its class. -/
theorem afterSome?_eq_some_iff {s : List Char} : afterSome? p s = some rest ↔
    ∃ run, run ≠ [] ∧ (∀ c ∈ run, p c = true) ∧ (∀ c, rest.head? = some c → p c = false) ∧
      s = run ++ rest := by
  constructor
  · intro h
    rw [afterSome?, Option.ite_none_right_eq_some, Option.some.injEq] at h
    obtain ⟨hp, rfl⟩ := h
    refine ⟨s.takeWhile p, ?_, fun c hc => List.mem_takeWhile_imp hc,
      fun c hc => eq_false_of_head?_trimStartOf hc, List.takeWhile_append_dropWhile.symm⟩
    cases s with
    | nil => cases hp
    | cons c s =>
      rw [List.takeWhile_cons_of_pos (by simpa using hp)]
      exact List.cons_ne_nil _ _
  · rintro ⟨run, hn, hr, he, rfl⟩
    exact afterSome?_run hn hr he

theorem afterChars?_eq_some_iff {beginning s : List Char} :
    afterChars? beginning s = some rest ↔ s = beginning ++ rest := by
  induction beginning generalizing s with
  | nil => simp [afterChars?, eq_comm]
  | cons b beginning ih =>
    cases s with
    | nil => simp [afterChars?]
    | cons c s =>
      rw [afterChars?]
      split
      · simp [ih, ‹b = c›]
      · simp [Ne.symm ‹b ≠ c›]

/-- Blanks do not reach into what no blank begins. -/
theorem head?_blanks_append {gap : List Char} (hg : IsBlankText gap) {c : Char} {s : List Char}
    (hb : p c = false) (hp : ∀ d, isBlank d = true → p d = false) :
    ∀ d, (gap ++ c :: s).head? = some d → p d = false := by
  intro d hd
  cases gap with
  | nil =>
    cases hd
    exact hb
  | cons e gap =>
    cases hd
    exact hp _ (hg _ List.mem_cons_self)

end Runs

end SymbolLookup

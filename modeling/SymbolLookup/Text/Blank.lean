/-!
# Blanks

Which characters count as blank, and how a text loses the blanks around it.

## Main definitions

* `isBlank`: separators and the controls that move the writing position.
* `IsBlankText`: whether a text is made of blanks.
* `trim`: a text without the blanks at its two ends.
* `trimEndOf`: a text without a given character at its end.
-/

namespace SymbolLookup.Text

/-- Whether the code point of `c` lies in one of the runs, each given by its first and last. -/
def inRuns (runs : List (Nat × Nat)) (c : Char) : Bool :=
  runs.any fun run => run.1 ≤ c.toNat && c.toNat ≤ run.2

/-- The runs of blank code points. -/
def blanks : List (Nat × Nat) :=
  [(0x09, 0x0D), (0x1C, 0x20), (0x85, 0x85), (0xA0, 0xA0), (0x1680, 0x1680), (0x2000, 0x200A),
    (0x2028, 0x2029), (0x202F, 0x202F), (0x205F, 0x205F), (0x3000, 0x3000)]

/-- Spaces of any width, tabs, line and paragraph breaks, and the four information separators. -/
def isBlank (c : Char) : Bool := inRuns blanks c

/-- Whether all characters of a text are blank. -/
def IsBlankText (s : List Char) : Prop := ∀ c ∈ s, isBlank c = true

instance (s : List Char) : Decidable (IsBlankText s) :=
  decidable_of_iff (s.all isBlank = true) List.all_eq_true

@[simp] theorem isBlankText_nil : IsBlankText [] := List.forall_mem_nil _

/-- The text from its first character that `p` refuses. -/
def trimStartOf (p : Char → Bool) (s : List Char) : List Char := s.dropWhile p

/-- The text up to its last character that `p` refuses. -/
def trimEndOf (p : Char → Bool) (s : List Char) : List Char := (s.reverse.dropWhile p).reverse

/-- A text without the blanks at its two ends. -/
def trim (s : List Char) : List Char := trimEndOf isBlank (trimStartOf isBlank s)

/-- What stands after leading characters of a class does not depend on them. -/
theorem trimStartOf_append {p : Char → Bool} {w : List Char} (h : ∀ c ∈ w, p c = true)
    (s : List Char) : trimStartOf p (w ++ s) = trimStartOf p s := by
  induction w with
  | nil => rfl
  | cons c w ih =>
    have hc : p c = true := h c List.mem_cons_self
    simpa [trimStartOf, hc] using ih fun d hd => h d (List.mem_cons_of_mem c hd)

/-- What stands before trailing characters of a class does not depend on them. -/
theorem trimEndOf_append {p : Char → Bool} {w : List Char} (h : ∀ c ∈ w, p c = true)
    (s : List Char) : trimEndOf p (s ++ w) = trimEndOf p s := by
  have hr : ∀ c ∈ w.reverse, p c = true := fun c hc => h c (List.mem_reverse.1 hc)
  have := trimStartOf_append hr s.reverse
  simpa [trimEndOf, trimStartOf] using congrArg List.reverse this

variable {p : Char → Bool} {s : List Char} {c : Char}

theorem eq_false_of_head?_trimStartOf (h : (trimStartOf p s).head? = some c) : p c = false := by
  have := List.head?_dropWhile_not p s
  rw [trimStartOf] at h
  rw [h] at this
  exact this

theorem trimStartOf_eq_self (h : ∀ c, s.head? = some c → p c = false) : trimStartOf p s = s := by
  cases s with
  | nil => rfl
  | cons c s => simp [trimStartOf, h c rfl]

theorem trimEndOf_isPrefix (p : Char → Bool) (s : List Char) : trimEndOf p s <+: s := by
  rw [← List.reverse_suffix, trimEndOf, List.reverse_reverse]
  exact List.dropWhile_suffix p

theorem eq_false_of_getLast?_trimEndOf (h : (trimEndOf p s).getLast? = some c) : p c = false := by
  rw [trimEndOf, List.getLast?_reverse] at h
  exact eq_false_of_head?_trimStartOf h

theorem trimEndOf_eq_self (h : ∀ c, s.getLast? = some c → p c = false) : trimEndOf p s = s := by
  have hs := trimStartOf_eq_self (s := s.reverse) (p := p) (by simpa using h)
  rw [trimStartOf] at hs
  rw [trimEndOf, hs, List.reverse_reverse]

/-- A text without the blanks around it begins with none. -/
theorem isBlank_of_head?_trim (h : (trim s).head? = some c) : isBlank c = false := by
  obtain ⟨rest, hr⟩ := trimEndOf_isPrefix isBlank (trimStartOf isBlank s)
  apply eq_false_of_head?_trimStartOf (s := s)
  rw [← hr, List.head?_append, trim] at *
  simp [h]

/-- A text without the blanks around it ends with none. -/
theorem isBlank_of_getLast?_trim (h : (trim s).getLast? = some c) : isBlank c = false :=
  eq_false_of_getLast?_trimEndOf h

/-- A text with no blanks around it stays as it is. -/
theorem trim_eq_self (hs : ∀ c, s.head? = some c → isBlank c = false)
    (he : ∀ c, s.getLast? = some c → isBlank c = false) : trim s = s := by
  rw [trim, trimStartOf_eq_self hs, trimEndOf_eq_self he]

end SymbolLookup.Text

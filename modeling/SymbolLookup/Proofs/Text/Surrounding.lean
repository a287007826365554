import Mathlib.Data.List.Basic
import Mathlib.Data.List.TakeWhile
import SymbolLookup.Proofs.Text.Ascii
/-!
# Blanks around a text

Blanks around a text leave no trace in its search key, and the key has none around it.

## Main definitions

* `isBlankCode`, `AllBlank`: blanks by their code points.

## Main results

* `canonical_surrounded`: blanks around a text stay around its canonical spelling.
* `isBlankText_canonical`: no other texts have a blank canonical spelling.
* `normalizeChars_surrounded`: the search key does not depend on the blanks around a text.
* `isBlank_of_normalizeChars`: the search key has no blanks around it.
* `normalizeChars_eq_nil_iff`: only blank texts have the empty key.

## Design notes

A blank is no mark, is joined to nothing, and is no part of what is taken apart, though some blanks
stand for others. So nothing that canonical composition does reaches across a blank: marks at the
beginning of a text stay marks without a letter when a blank is put before them.
-/

namespace SymbolLookup

namespace Text

/-! ## Blank code points -/

/-- Whether a code point is that of a blank. -/
def isBlankCode (n : Nat) : Bool := blanks.any fun run => run.1 ≤ n && n ≤ run.2

theorem isBlank_eq (c : Char) : isBlank c = isBlankCode c.toNat := rfl

theorem isBlankCode_of_large {n : Nat} (h : 0x3000 < n) : isBlankCode n = false := by
  rw [isBlankCode, List.any_eq_false]
  have last : ∀ run ∈ blanks, run.2 ≤ 0x3000 := by decide
  intro run hr hn
  rw [Bool.and_eq_true, decide_eq_true_eq, decide_eq_true_eq] at hn
  have := last run hr
  omega

/-- Code points that are no characters are not blank, and neither is what stands for them. -/
theorem isBlank_ofNat (n : Nat) : isBlank (Char.ofNat n) = isBlankCode n := by
  by_cases hv : n.isValidChar
  · have same : (Char.ofNat n).toNat = n := by
      rw [Char.ofNat, dif_pos hv]
      rfl
    rw [isBlank_eq, same]
  · have large : 0x3000 < n := by
      rw [Nat.isValidChar, not_or] at hv
      omega
    rw [isBlankCode_of_large large, Char.ofNat, dif_neg hv]
    rfl

/-- Whether a blank code point lies between two code points. -/
def meetsBlank (first last : Nat) : Bool := blanks.any fun run => run.1 ≤ last && first ≤ run.2

theorem isBlankCode_of_run {first last n : Nat} (h : meetsBlank first last = false)
    (hf : first ≤ n) (hl : n ≤ last) : isBlankCode n = false := by
  rw [meetsBlank, List.any_eq_false] at h
  rw [isBlankCode, List.any_eq_false]
  intro run hr hn
  rw [Bool.and_eq_true, decide_eq_true_eq, decide_eq_true_eq] at hn
  apply h run hr
  rw [Bool.and_eq_true, decide_eq_true_eq, decide_eq_true_eq]
  omega

/-! ## The tables -/

theorem meetsBlank_of_combining : ∀ run ∈ Table.combining, meetsBlank run.1 run.2.1 = false := by
  decide +kernel

theorem isBlankCode_of_singletons : ∀ row ∈ Table.singletons,
    isBlankCode row.2 = isBlankCode row.1 := by
  decide +kernel

theorem isBlankCode_of_composites : ∀ row ∈ Table.composites ++ Table.separated,
    isBlankCode row.1 = false ∧ isBlankCode row.2.1 = false ∧ isBlankCode row.2.2 = false := by
  decide +kernel

theorem meetsBlank_of_foldings : ∀ run ∈ Table.foldings,
    meetsBlank run.2.2.2 (run.2.2.2 + (run.2.1 - run.1)) = false := by
  decide +kernel

theorem isBlankCode_of_longFoldings : ∀ row ∈ Table.longFoldings,
    row.2 ≠ [] ∧ ∀ n ∈ row.2, isBlankCode n = false := by
  decide +kernel

/-! ## Marks and composites -/

variable {n a b whole : Nat}

theorem combiningClass_of_isBlankCode (h : isBlankCode n = true) : combiningClass n = 0 := by
  unfold combiningClass
  split
  · rfl
  · split
    · rename_i run hr
      have hn := List.find?_some hr
      rw [Bool.and_eq_true, decide_eq_true_eq, decide_eq_true_eq] at hn
      have clear := meetsBlank_of_combining run (List.mem_of_find?_eq_some hr)
      rw [isBlankCode_of_run clear hn.1 hn.2] at h
      cases h
    · rfl

/-- A syllable is made of two letters, or of a syllable and a letter. -/
theorem Jamo.join?_cases {j : Jamo} (h : j.join? a b = some whole) :
    (j.lead ≤ a ∧ a < j.lead + j.leads ∧ j.vowel ≤ b ∧ b < j.vowel + j.vowels ∧
      j.syllable ≤ whole) ∨
    j.syllable ≤ a ∧ j.trail < b ∧ b < j.trail + j.trails ∧ j.syllable ≤ whole := by
  unfold join? at h
  split at h
  · rename_i hv
    cases h
    exact .inl ⟨hv.1, hv.2.1, hv.2.2.1, hv.2.2.2, by omega⟩
  · split at h
    · rename_i ht
      cases h
      exact .inr ⟨ht.1, ht.2.2.2.1, ht.2.2.2.2, by omega⟩
    · cases h

/-- No Hangul letter and no syllable is blank. -/
theorem isBlankCode_of_join? (h : hangul.join? a b = some whole) :
    isBlankCode a = false ∧ isBlankCode b = false ∧ isBlankCode whole = false := by
  have letter {n : Nat} (hf : 0x1100 ≤ n) (hl : n ≤ 0x11FF) : isBlankCode n = false :=
    isBlankCode_of_run (by decide) hf hl
  have syllable {n : Nat} (hf : 0xAC00 ≤ n) : isBlankCode n = false :=
    isBlankCode_of_large (by omega)
  obtain hv | ht := Jamo.join?_cases h
  · simp only [hangul] at hv
    exact ⟨letter (by omega) (by omega), letter (by omega) (by omega), syllable (by omega)⟩
  · simp only [hangul] at ht
    exact ⟨syllable (by omega), letter (by omega) (by omega), syllable (by omega)⟩

/-- Nothing that is joined is blank. -/
theorem isBlankCode_of_joined? (h : joined? a b = some whole) :
    isBlankCode a = false ∧ isBlankCode b = false ∧ isBlankCode whole = false := by
  unfold joined? at h
  split at h
  · cases h
  · rcases Option.or_eq_some_iff.1 h with h | ⟨-, h⟩
    · exact isBlankCode_of_join? h
    · obtain ⟨row, hr, rfl⟩ := Option.map_eq_some_iff.1 h
      have hn := List.find?_some hr
      rw [Bool.and_eq_true, beq_iff_eq, beq_iff_eq] at hn
      obtain ⟨rfl, rfl⟩ := hn
      obtain ⟨hw, ha, hb⟩ := isBlankCode_of_composites row
        (List.mem_append_left _ (List.mem_of_find?_eq_some hr))
      exact ⟨ha, hb, hw⟩

theorem joined?_left_of_isBlankCode (h : isBlankCode a = true) : joined? a b = none := by
  rw [Option.eq_none_iff_forall_ne_some]
  intro whole hw
  rw [(isBlankCode_of_joined? hw).1] at h
  cases h

theorem joined?_right_of_isBlankCode (h : isBlankCode b = true) : joined? a b = none := by
  rw [Option.eq_none_iff_forall_ne_some]
  intro whole hw
  rw [(isBlankCode_of_joined? hw).2.1] at h
  cases h

/-! ## Taking apart -/

/-- What stands for one other code point is blank if that is; what stands for two is not, and
neither is the first of them. -/
theorem apart?_cases (n : Nat) : apart? n = none ∨
    (∃ m, apart? n = some [m] ∧ isBlankCode m = isBlankCode n) ∨
    ∃ a b, apart? n = some [a, b] ∧ isBlankCode n = false ∧ isBlankCode a = false := by
  unfold apart?
  split
  · rename_i row hr
    obtain rfl : row.1 = n := by simpa using List.find?_some hr
    exact .inr (.inl ⟨row.2, rfl,
      isBlankCode_of_singletons row (List.mem_of_find?_eq_some hr)⟩)
  · generalize hf : (Table.composites.find? fun row => row.1 == n).or
      (Table.separated.find? fun row => row.1 == n) = found
    cases found with
    | none => exact .inl rfl
    | some row =>
      have hm : row ∈ Table.composites ++ Table.separated ∧ row.1 = n := by
        rcases Option.or_eq_some_iff.1 hf with hf | ⟨-, hf⟩
        · exact ⟨List.mem_append_left _ (List.mem_of_find?_eq_some hf),
            by simpa using List.find?_some hf⟩
        · exact ⟨List.mem_append_right _ (List.mem_of_find?_eq_some hf),
            by simpa using List.find?_some hf⟩
      obtain ⟨hm, rfl⟩ := hm
      obtain ⟨hn, ha, -⟩ := isBlankCode_of_composites row hm
      exact .inr (.inr ⟨row.2.1, row.2.2, rfl, hn, ha⟩)

theorem expand_of_isBlankCode (h : isBlankCode n = true) (steps : Nat) :
    ∃ m, expand steps n = [m] ∧ isBlankCode m = true := by
  induction steps generalizing n with
  | zero => exact ⟨n, rfl, h⟩
  | succ steps ih =>
    rw [expand]
    obtain hn | ⟨m, hm, he⟩ | ⟨_, _, -, hn, -⟩ := apart?_cases n
    · rw [hn]
      exact ⟨n, rfl, h⟩
    · rw [hm]
      obtain ⟨k, hk, hb⟩ := ih (he.trans h)
      exact ⟨k, by simp [hk], hb⟩
    · rw [hn] at h
      cases h

theorem exists_mem_expand (h : isBlankCode n = false) (steps : Nat) :
    ∃ m ∈ expand steps n, isBlankCode m = false := by
  induction steps generalizing n with
  | zero => exact ⟨n, List.mem_singleton_self n, h⟩
  | succ steps ih =>
    rw [expand]
    obtain hn | ⟨m, hm, he⟩ | ⟨a, b, hm, -, ha⟩ := apart?_cases n
    · rw [hn]
      exact ⟨n, List.mem_singleton_self n, h⟩
    · rw [hm]
      obtain ⟨k, hk, hb⟩ := ih (he.trans h)
      exact ⟨k, by simpa using hk, hb⟩
    · rw [hm]
      obtain ⟨k, hk, hb⟩ := ih ha
      exact ⟨k, List.mem_flatMap.2 ⟨a, List.mem_cons_self, hk⟩, hb⟩

theorem decomposition_of_isBlankCode (h : isBlankCode n = true) :
    ∃ m, decomposition n = [m] ∧ isBlankCode m = true := by
  unfold decomposition
  split
  · exact ⟨n, rfl, h⟩
  · have letters : hangul.letters? n = none := by
      rw [Jamo.letters?, if_neg]
      rintro ⟨hs, -⟩
      rw [isBlankCode_of_large (Nat.lt_of_lt_of_le (by decide) hs)] at h
      cases h
    rw [letters]
    exact expand_of_isBlankCode h _

/-- A syllable begins with a leading consonant. -/
theorem Jamo.mem_of_letters? {j : Jamo} {letters : List Nat} (h : j.letters? n = some letters) :
    n < j.syllable + j.leads * j.perLead ∧
      j.lead + (n - j.syllable) / j.perLead ∈ letters := by
  unfold letters? at h
  split at h
  · rename_i hs
    refine ⟨hs.2, ?_⟩
    dsimp only at h
    split at h <;> cases h <;> exact List.mem_cons_self
  · cases h

theorem exists_mem_decomposition (h : isBlankCode n = false) :
    ∃ m ∈ decomposition n, isBlankCode m = false := by
  unfold decomposition
  split
  · exact ⟨n, List.mem_singleton_self n, h⟩
  · cases hl : hangul.letters? n with
    | none => exact exists_mem_expand h _
    | some letters =>
      obtain ⟨hn, hm⟩ := Jamo.mem_of_letters? hl
      have clear : meetsBlank 0x1100 0x11FF = false := by decide
      refine ⟨_, hm, isBlankCode_of_run clear ?_ ?_⟩
      · exact Nat.le_add_right 0x1100 _
      · simp only [hangul, Jamo.perLead] at hn ⊢
        omega

/-- Whether all code points of a text are blank. -/
def AllBlank (s : List Nat) : Prop := ∀ n ∈ s, isBlankCode n = true

section Stages

variable {s w : List Nat}

theorem allBlank_cons : AllBlank (n :: s) ↔ isBlankCode n = true ∧ AllBlank s :=
  List.forall_mem_cons

theorem allBlank_append : AllBlank (s ++ w) ↔ AllBlank s ∧ AllBlank w := List.forall_mem_append

/-- Just blank texts are blank when they are taken apart. -/
theorem allBlank_decompose : AllBlank (decompose s) ↔ AllBlank s := by
  induction s with
  | nil => rfl
  | cons n s ih =>
    rw [decompose, List.flatMap_cons, allBlank_append, allBlank_cons]
    refine and_congr ⟨fun h => ?_, fun h => ?_⟩ ih
    · cases hn : isBlankCode n with
      | true => rfl
      | false =>
        obtain ⟨m, hm, hb⟩ := exists_mem_decomposition hn
        exact hb.symm.trans (h m hm)
    · obtain ⟨m, hm, hb⟩ := decomposition_of_isBlankCode h
      rw [hm]
      exact List.forall_mem_singleton.2 hb

/-! ## Marks in order -/

theorem insertMark_of_starter (h : combiningClass n = 0) (s : List Nat) :
    insertMark n s = n :: s := by
  cases s with
  | nil => rfl
  | cons m s =>
    rw [insertMark, if_neg]
    rintro ⟨-, hm⟩
    omega

/-- No mark moves behind a text that begins with a blank. -/
theorem insertMark_append (h : AllBlank w) (n : Nat) (s : List Nat) :
    insertMark n (s ++ w) = insertMark n s ++ w := by
  induction s with
  | nil =>
    cases w with
    | nil => rfl
    | cons m w =>
      have starter := combiningClass_of_isBlankCode (allBlank_cons.1 h).1
      have stays : insertMark n (m :: w) = n :: m :: w := if_neg fun hm => hm.1 starter
      exact stays
  | cons m s ih =>
    rw [List.cons_append, insertMark, insertMark, ih]
    split <;> rfl

theorem reorder_surrounded {v : List Nat} (hv : AllBlank v) (hw : AllBlank w) (s : List Nat) :
    reorder (v ++ s ++ w) = v ++ reorder s ++ w := by
  have behind (s : List Nat) : reorder (s ++ w) = reorder s ++ w := by
    induction s with
    | nil =>
      induction w with
      | nil => rfl
      | cons n w ih =>
        obtain ⟨hn, hw⟩ := allBlank_cons.1 hw
        have starter := combiningClass_of_isBlankCode hn
        exact (insertMark_of_starter starter _).trans (congrArg (n :: ·) (ih hw))
    | cons n s ih => exact (congrArg (insertMark n) ih).trans (insertMark_append hw n _)
  induction v with
  | nil => exact behind s
  | cons n v ih =>
    obtain ⟨hn, hv⟩ := allBlank_cons.1 hv
    have starter := combiningClass_of_isBlankCode hn
    exact (insertMark_of_starter starter _).trans (congrArg (n :: ·) (ih hv))

theorem insertMark_perm (n : Nat) (s : List Nat) : (insertMark n s).Perm (n :: s) := by
  induction s with
  | nil => exact .refl _
  | cons m s ih =>
    rw [insertMark]
    split
    · exact (ih.cons m).trans (.swap n m s)
    · exact .refl _

theorem reorder_perm (s : List Nat) : (reorder s).Perm s := by
  induction s with
  | nil => exact .refl _
  | cons n s ih => exact (insertMark_perm n _).trans (ih.cons n)

/-! ## Joining -/

/-- Nothing is joined to a blank. -/
theorem joinTo_of_isBlankCode (h : isBlankCode n = true) (held s : List Nat) :
    joinTo n held s = n :: held.reverse ++ compose s := by
  induction s generalizing held with
  | nil => simp [joinTo, compose]
  | cons m s ih =>
    rw [joinTo, joined?_left_of_isBlankCode h, ite_self, compose]
    by_cases hm : combiningClass m = 0
    · simp [hm]
    · simp [hm, ih]

theorem compose_blank_append {v : List Nat} (h : AllBlank v) (s : List Nat) :
    compose (v ++ s) = v ++ compose s := by
  induction v with
  | nil => rfl
  | cons n v ih =>
    obtain ⟨hn, hv⟩ := allBlank_cons.1 h
    rw [List.cons_append, compose, if_pos (combiningClass_of_isBlankCode hn),
      joinTo_of_isBlankCode hn, ih hv]
    rfl

/-- A blank is joined to nothing. -/
theorem joinTo_append_blank (h : AllBlank w) (base : Nat) (held s : List Nat) :
    joinTo base held (s ++ w) = joinTo base held s ++ w := by
  induction s generalizing base held with
  | nil =>
    cases w with
    | nil => simp [joinTo]
    | cons n w =>
      obtain ⟨hn, hw⟩ := allBlank_cons.1 h
      have alone : compose w = w := by simpa [compose] using compose_blank_append hw []
      simp [joinTo, joined?_right_of_isBlankCode hn, combiningClass_of_isBlankCode hn,
        joinTo_of_isBlankCode hn, alone]
  | cons n s ih =>
    rw [List.cons_append, joinTo, joinTo]
    simp only [ih]
    split
    · rfl
    · split <;> simp

theorem compose_surrounded {v : List Nat} (hv : AllBlank v) (hw : AllBlank w) (s : List Nat) :
    compose (v ++ s ++ w) = v ++ compose s ++ w := by
  have behind : compose (s ++ w) = compose s ++ w := by
    induction s with
    | nil => simpa [compose] using compose_blank_append hw []
    | cons n s ih =>
      rw [List.cons_append, compose, compose, joinTo_append_blank hw, ih]
      split <;> rfl
  rw [List.append_assoc, compose_blank_append hv, behind, List.append_assoc]

/-- What comes of joining is not blank, so nothing that was joined is lost from sight. -/
theorem allBlank_of_joinTo {base : Nat} {held : List Nat} (h : AllBlank (joinTo base held s)) :
    isBlankCode base = true ∧ AllBlank held ∧ AllBlank s := by
  induction s generalizing base held with
  | nil =>
    rw [joinTo, allBlank_cons] at h
    exact ⟨h.1, fun n hn => h.2 n (List.mem_reverse.2 hn), List.forall_mem_nil _⟩
  | cons n s ih =>
    rw [joinTo] at h
    split at h
    · rename_i whole hw
      have hj : joined? base n = some whole := by
        split at hw
        · exact hw
        · cases hw
      have clear := (isBlankCode_of_joined? hj).2.2
      rw [(ih h).1] at clear
      cases clear
    · split at h
      · rw [allBlank_append, allBlank_cons] at h
        obtain ⟨⟨hb, hh⟩, hs⟩ := h
        obtain ⟨hn, -, hs⟩ := ih hs
        exact ⟨hb, fun m hm => hh m (List.mem_reverse.2 hm), allBlank_cons.2 ⟨hn, hs⟩⟩
      · obtain ⟨hb, hh, hs⟩ := ih h
        obtain ⟨hn, hh⟩ := allBlank_cons.1 hh
        exact ⟨hb, hh, allBlank_cons.2 ⟨hn, hs⟩⟩

theorem allBlank_of_compose (h : AllBlank (compose s)) : AllBlank s := by
  induction s with
  | nil => exact h
  | cons n s ih =>
    rw [compose] at h
    split at h
    · obtain ⟨hn, -, hs⟩ := allBlank_of_joinTo h
      exact allBlank_cons.2 ⟨hn, hs⟩
    · obtain ⟨hn, hs⟩ := allBlank_cons.1 h
      exact allBlank_cons.2 ⟨hn, ih hs⟩

end Stages

/-! ## Texts -/

section Texts

variable {s w₁ w₂ : List Char}

theorem allBlank_map_toNat : AllBlank (s.map Char.toNat) ↔ IsBlankText s := by
  rw [AllBlank, IsBlankText, List.forall_mem_map]
  rfl

theorem isBlankText_map_ofNat {s : List Nat} : IsBlankText (s.map Char.ofNat) ↔ AllBlank s := by
  rw [AllBlank, IsBlankText, List.forall_mem_map]
  simp only [isBlank_ofNat]

/-- Blanks around a text stay around its canonical spelling, though they may become others. -/
theorem canonical_surrounded (h₁ : IsBlankText w₁) (h₂ : IsBlankText w₂) (s : List Char) :
    ∃ v₁ v₂, IsBlankText v₁ ∧ IsBlankText v₂ ∧
      canonical (w₁ ++ s ++ w₂) = v₁ ++ canonical s ++ v₂ := by
  have a₁ := allBlank_decompose.2 (allBlank_map_toNat.2 h₁)
  have a₂ := allBlank_decompose.2 (allBlank_map_toNat.2 h₂)
  refine ⟨_, _, isBlankText_map_ofNat.2 a₁, isBlankText_map_ofNat.2 a₂, ?_⟩
  have apart : decompose ((w₁ ++ s ++ w₂).map Char.toNat) =
      decompose (w₁.map Char.toNat) ++ decompose (s.map Char.toNat) ++
        decompose (w₂.map Char.toNat) := by
    simp [decompose]
  rw [canonical, apart, reorder_surrounded a₁ a₂, compose_surrounded a₁ a₂, canonical,
    List.map_append, List.map_append]

/-- Just blank texts have a blank canonical spelling. -/
theorem isBlankText_canonical : IsBlankText (canonical s) ↔ IsBlankText s := by
  rw [canonical, isBlankText_map_ofNat]
  constructor
  · intro h
    have ordered := allBlank_of_compose h
    exact allBlank_map_toNat.1 (allBlank_decompose.1 fun n hn =>
      ordered n ((reorder_perm _).mem_iff.2 hn))
  · intro h
    obtain ⟨v₁, v₂, hv₁, hv₂, he⟩ := canonical_surrounded h isBlankText_nil []
    rw [List.append_nil, List.append_nil] at he
    rw [← isBlankText_map_ofNat, ← canonical, he]
    exact List.forall_mem_append.2 ⟨List.forall_mem_append.2 ⟨hv₁, isBlankText_nil⟩, hv₂⟩

/-! ## Trimming -/

theorem trimStartOf_isBlank_eq_nil : trimStartOf isBlank s = [] ↔ IsBlankText s :=
  List.dropWhile_eq_nil_iff

theorem trim_eq_nil_iff : trim s = [] ↔ IsBlankText s := by
  constructor
  · intro h
    rw [trim, trimEndOf, List.reverse_eq_nil_iff] at h
    have behind := trimStartOf_isBlank_eq_nil.1 h
    rw [← trimStartOf_isBlank_eq_nil]
    cases hs : trimStartOf isBlank s with
    | nil => rfl
    | cons c rest =>
      -- what is left at the beginning is no blank
      have clear := eq_false_of_head?_trimStartOf (p := isBlank) (s := s) (by rw [hs]; rfl)
      rw [hs] at behind
      rw [behind c (by simp)] at clear
      cases clear
  · intro h
    rw [trim, trimStartOf_isBlank_eq_nil.2 h]
    rfl

/-- A text is trimmed alike whatever blanks are around it. -/
theorem trim_surrounded (h₁ : IsBlankText w₁) (h₂ : IsBlankText w₂) (s : List Char) :
    trim (w₁ ++ s ++ w₂) = trim s := by
  rw [trim, List.append_assoc, trimStartOf_append h₁, trim, trimStartOf, List.dropWhile_append]
  split
  · rename_i hs
    have blank : s.dropWhile isBlank = [] := List.isEmpty_iff.1 hs
    rw [List.dropWhile_eq_nil_iff.2 h₂, trimStartOf, blank]
  · exact trimEndOf_append h₂ _

/-! ## Folding -/

theorem imageInRuns_clear {c image : Nat} (h : imageInRuns Table.foldings c = some image) :
    isBlankCode image = false := by
  obtain ⟨run, hr, rfl⟩ := Option.map_eq_some_iff.1 h
  have hn := List.find?_some hr
  rw [Bool.and_eq_true, Bool.and_eq_true, decide_eq_true_eq, decide_eq_true_eq] at hn
  have clear := meetsBlank_of_foldings run (List.mem_of_find?_eq_some hr)
  exact isBlankCode_of_run clear (Nat.le_add_right _ _) (by omega)

/-- What a character that is no blank is folded to has no blanks, and it is not nothing. -/
theorem foldChar_clear {c : Char} (h : isBlank c = false) :
    foldChar c ≠ [] ∧ ∀ d ∈ foldChar c, isBlank d = false := by
  unfold foldChar imageIn
  split
  · rename_i hc
    simpa [isBlank_toLower hc] using h
  · split
    · rename_i image hi
      simpa [isBlank_ofNat] using imageInRuns_clear hi
    · split
      · rename_i row hr
        obtain ⟨some, clear⟩ := isBlankCode_of_longFoldings row (List.mem_of_find?_eq_some hr)
        simpa [isBlank_ofNat, some] using clear
      · simpa using h

theorem caseFold_eq_nil_iff (h : ∀ c, s.head? = some c → isBlank c = false) :
    caseFold s = [] ↔ s = [] := by
  cases s with
  | nil => exact ⟨fun _ => rfl, fun _ => rfl⟩
  | cons c s =>
    have some := (foldChar_clear (h c rfl)).1
    simp [caseFold, some]

/-- Folding leaves a text without blanks around it if there were none. -/
theorem isBlank_of_caseFold (hs : ∀ c, s.head? = some c → isBlank c = false)
    (he : ∀ c, s.getLast? = some c → isBlank c = false) {c : Char}
    (h : (caseFold s).head? = some c ∨ (caseFold s).getLast? = some c) : isBlank c = false := by
  rcases h with h | h
  · cases s with
    | nil => cases h
    | cons d s =>
      obtain ⟨some, clear⟩ := foldChar_clear (hs d rfl)
      obtain ⟨first, rest, hf⟩ := List.exists_cons_of_ne_nil some
      rw [caseFold, List.flatMap_cons, hf] at h
      cases h
      exact clear _ (hf ▸ List.mem_cons_self)
  · obtain rfl | ⟨s, d, rfl⟩ := List.eq_nil_or_concat s
    · cases h
    · obtain ⟨some, clear⟩ := foldChar_clear (he d (by simp))
      rw [caseFold, List.concat_eq_append, List.flatMap_append, List.flatMap_singleton,
        List.getLast?_append_of_ne_nil _ some] at h
      exact clear c (List.mem_of_getLast? h)

end Texts

end Text

open Text

/-! ## Search keys -/

/-- The search key does not depend on the blanks around a text. -/
theorem normalizeChars_surrounded {w₁ w₂ : List Char} (h₁ : IsBlankText w₁) (h₂ : IsBlankText w₂)
    (s : List Char) : normalizeChars (w₁ ++ s ++ w₂) = normalizeChars s := by
  obtain ⟨v₁, v₂, hv₁, hv₂, he⟩ := canonical_surrounded h₁ h₂ s
  rw [normalizeChars, he, trim_surrounded hv₁ hv₂, normalizeChars]

/-- The search key has no blanks around it. -/
theorem isBlank_of_normalizeChars {s : List Char} {c : Char}
    (h : (normalizeChars s).head? = some c ∨ (normalizeChars s).getLast? = some c) :
    isBlank c = false :=
  isBlank_of_caseFold (fun _ => isBlank_of_head?_trim) (fun _ => isBlank_of_getLast?_trim) h

/-- Just the texts that are trimmed to nothing have the empty key. -/
theorem normalizeChars_eq_nil_iff {s : List Char} : normalizeChars s = [] ↔ trim s = [] := by
  rw [normalizeChars, caseFold_eq_nil_iff fun _ => isBlank_of_head?_trim, trim_eq_nil_iff,
    trim_eq_nil_iff, isBlankText_canonical]

end SymbolLookup

import SymbolLookup.Key
/-!
# Search keys of ASCII texts

Of a text of ASCII characters, the search key is the text without the blanks around it and in lower
case, and that is its own search key.

## Main definitions

* `IsAscii`: whether all characters of a text are ASCII.

## Main results

* `canonical_of_isAscii`: canonical composition leaves such a text as it is.
* `normalize_normalize_of_isAscii`: its key is its own key.
-/

namespace SymbolLookup

namespace Text

/-- Whether all characters of a text are ASCII. -/
def IsAscii (s : List Char) : Prop := ∀ c ∈ s, c.toNat < 0x80

/-! ## Canonical composition -/

/-- Below U+0300 no code point is a mark. -/
theorem combiningClass_of_lt {c : Nat} (h : c < 0x300) : combiningClass c = 0 := if_pos h

theorem decompose_of_lt {s : List Nat} (h : ∀ c ∈ s, c < 0xC0) : decompose s = s := by
  induction s with
  | nil => rfl
  | cons c s ih =>
    have hc : decomposition c = [c] := if_pos (h c List.mem_cons_self)
    rw [decompose, List.flatMap_cons, hc]
    exact congrArg (c :: ·) (ih fun d hd => h d (List.mem_cons_of_mem c hd))

/-- Texts without marks are in order. -/
theorem reorder_of_lt {s : List Nat} (h : ∀ c ∈ s, c < 0x300) : reorder s = s := by
  induction s with
  | nil => rfl
  | cons c s ih =>
    have hs := ih fun d hd => h d (List.mem_cons_of_mem c hd)
    rw [reorder, List.foldr_cons]
    change insertMark c (reorder s) = c :: s
    rw [hs]
    cases s with
    | nil => rfl
    | cons d s =>
      have hd : combiningClass d = 0 := combiningClass_of_lt (h d (by simp))
      rw [insertMark, if_neg fun hn => hn.1 hd]

/-- Below U+0300 no code point is joined to the one before it. -/
theorem joinTo_of_lt {base : Nat} {s : List Nat} (h : ∀ c ∈ s, c < 0x300) :
    joinTo base [] s = base :: s := by
  induction s generalizing base with
  | nil => rfl
  | cons c s ih =>
    have hc : c < 0x300 := h c List.mem_cons_self
    have hj : joined? base c = none := if_pos hc
    have hs : joinTo c [] s = c :: s := ih fun d hd => h d (List.mem_cons_of_mem c hd)
    simp [joinTo, hj, combiningClass_of_lt hc, hs]

theorem compose_of_lt {s : List Nat} (h : ∀ c ∈ s, c < 0x300) : compose s = s := by
  cases s with
  | nil => rfl
  | cons c s =>
    rw [compose, if_pos (combiningClass_of_lt (h c List.mem_cons_self))]
    exact joinTo_of_lt fun d hd => h d (List.mem_cons_of_mem c hd)

theorem canonical_of_isAscii {s : List Char} (h : IsAscii s) : canonical s = s := by
  have hn : ∀ c ∈ s.map Char.toNat, c < 0x80 := by
    intro n hm
    obtain ⟨c, hc, rfl⟩ := List.mem_map.1 hm
    exact h c hc
  rw [canonical, decompose_of_lt fun c hc => Nat.lt_trans (hn c hc) (by decide),
    reorder_of_lt fun c hc => Nat.lt_trans (hn c hc) (by decide),
    compose_of_lt fun c hc => Nat.lt_trans (hn c hc) (by decide), List.map_map]
  simp [Function.comp_def]

/-! ## Trimming and folding -/

theorem caseFold_of_isAscii {s : List Char} (h : IsAscii s) : caseFold s = s.map Char.toLower := by
  induction s with
  | nil => rfl
  | cons c s ih =>
    have hc : foldChar c = [c.toLower] := if_pos (h c List.mem_cons_self)
    rw [caseFold, List.flatMap_cons, hc]
    exact congrArg (c.toLower :: ·) (ih fun d hd => h d (List.mem_cons_of_mem c hd))

/-- What holds of all ASCII characters by their code points holds of each. -/
theorem of_lt_ascii {p : Char → Prop} (hp : ∀ n < 0x80, p (Char.ofNat n)) {c : Char}
    (h : c.toNat < 0x80) : p c := by
  simpa using hp c.toNat h

theorem toLower_lt {c : Char} (h : c.toNat < 0x80) : c.toLower.toNat < 0x80 :=
  of_lt_ascii (p := fun c => c.toLower.toNat < 0x80) (by decide) h

theorem toLower_toLower {c : Char} (h : c.toNat < 0x80) : c.toLower.toLower = c.toLower :=
  of_lt_ascii (p := fun c => c.toLower.toLower = c.toLower) (by decide) h

theorem isBlank_toLower {c : Char} (h : c.toNat < 0x80) : isBlank c.toLower = isBlank c :=
  of_lt_ascii (p := fun c => isBlank c.toLower = isBlank c) (by decide) h

theorem IsAscii.map_toLower {s : List Char} (h : IsAscii s) : IsAscii (s.map Char.toLower) := by
  intro c hc
  obtain ⟨d, hd, rfl⟩ := List.mem_map.1 hc
  exact toLower_lt (h d hd)

theorem IsAscii.trim {s : List Char} (h : IsAscii s) : IsAscii (trim s) := by
  intro c hc
  have hp := (trimEndOf_isPrefix isBlank (trimStartOf isBlank s)).subset hc
  exact h c ((List.dropWhile_suffix isBlank).subset hp)

/-- Lower case leaves the blanks of a text where they are. -/
theorem trim_map_toLower {s : List Char} (h : IsAscii s) :
    Text.trim ((Text.trim s).map Char.toLower) = (Text.trim s).map Char.toLower := by
  apply trim_eq_self
  · intro c hc
    rw [List.head?_map] at hc
    obtain ⟨d, hd, rfl⟩ := Option.map_eq_some_iff.1 hc
    rw [isBlank_toLower (h.trim d (List.mem_of_head? hd))]
    exact isBlank_of_head?_trim hd
  · intro c hc
    rw [List.getLast?_map] at hc
    obtain ⟨d, hd, rfl⟩ := Option.map_eq_some_iff.1 hc
    rw [isBlank_toLower (h.trim d (List.mem_of_getLast? hd))]
    exact isBlank_of_getLast?_trim hd

end Text

open Text

/-- The search key of an ASCII text. -/
theorem normalizeChars_of_isAscii {s : List Char} (h : IsAscii s) :
    normalizeChars s = (trim s).map Char.toLower := by
  rw [normalizeChars, canonical_of_isAscii h, caseFold_of_isAscii h.trim]

/-- The search key of an ASCII text is its own search key. -/
theorem normalize_normalize_of_isAscii {text : String} (h : IsAscii text.toList) :
    normalize (normalize text) = normalize text := by
  have ha := h.trim.map_toLower
  rw [normalize, normalize, String.toList_ofList, normalizeChars_of_isAscii h,
    normalizeChars_of_isAscii ha, trim_map_toLower h, List.map_map]
  congr 1
  exact List.map_congr_left fun c hc => toLower_toLower (h.trim c hc)

end SymbolLookup

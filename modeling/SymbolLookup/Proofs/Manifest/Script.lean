import SymbolLookup.Manifest
import SymbolLookup.Proofs.Json.Spelling
import SymbolLookup.Proofs.Source.Naming
import SymbolLookup.Proofs.Text.Classes
/-!
# Scripts of a manifest

What is found in a script is what was declared there, whatever the texts in it look like.

## Main definitions

* `WritesEntry`, `WritesTable`: how numbered texts and the body of a declaration are written.
* `WritesDeclaration`, `WritesScript`: how a declaration and a script of declarations are written.

## Main results

* `findAll_numbered`: the numbered texts in the body of a declaration.
* `findAll_declaration`: the declarations in a script.

## Design notes

Blanks may stand wherever the reader passes over them, and a script may spell each table in its own
way. A text ends at its closing quote, since every quote in it has a backslash before it and every
backslash that begins an escape has its letter behind it. So nothing in a text is taken for a number
or a declaration. A body ends at the first brace, as no text has one.
-/

namespace SymbolLookup

open Text

/-! ## Finding -/

section Finding

variable {α : Type} {find? : List Char → Option (α × List Char)}

theorem findAll_eq_drop (skip : Nat) (s : List Char) :
    findAll find? skip s = findAll find? 0 (s.drop skip) := by
  induction skip generalizing s with
  | zero => rfl
  | succ skip ih =>
    cases s with
    | nil => rfl
    | cons c s => rw [findAll, ih, List.drop_succ_cons]

/-- What is found at the start of a text is not looked into. -/
theorem findAll_append {written rest : List Char} {found : α} (hw : written ≠ [])
    (h : find? (written ++ rest) = some (found, rest)) :
    findAll find? 0 (written ++ rest) = found :: findAll find? 0 rest := by
  obtain ⟨c, written, rfl⟩ := List.exists_cons_of_ne_nil hw
  rw [List.cons_append] at h ⊢
  rw [findAll, h]
  have behind : (written ++ rest).length - rest.length = written.length := by simp
  simp only
  rw [behind, findAll_eq_drop, List.drop_left]

/-- Characters with which nothing begins are passed over. -/
theorem findAll_pass {passed : List Char} (h : ∀ c ∈ passed, ∀ s, find? (c :: s) = none)
    (rest : List Char) : findAll find? 0 (passed ++ rest) = findAll find? 0 rest := by
  induction passed with
  | nil => rfl
  | cons c passed ih =>
    rw [List.cons_append, findAll, h c List.mem_cons_self]
    exact ih fun d hd => h d (List.mem_cons_of_mem c hd)

end Finding

/-! ## Quoted texts -/

/-- Whether the search for a closing quote goes on behind some characters. -/
def Quotable (s : List Char) : Prop :=
  ∀ rest, takeQuoted (s ++ rest) = (takeQuoted rest).map fun r => (s ++ r.1, r.2)

theorem Quotable.append {s t : List Char} (hs : Quotable s) (ht : Quotable t) :
    Quotable (s ++ t) := by
  intro rest
  rw [List.append_assoc, hs, ht, Option.map_map]
  simp [Function.comp_def]

theorem quotable_nil : Quotable [] := fun rest => by simp

theorem quotable_escape (c : Char) : Quotable ['\\', c] := fun rest => by
  simp [takeQuoted]

theorem quotable_char {c : Char} (hq : c ≠ '"') (hb : c ≠ '\\') : Quotable [c] := by
  intro rest
  rw [List.singleton_append, takeQuoted]
  · rfl
  all_goals simp [hq, hb]

theorem quotable_of_plain {s : List Char} (h : ∀ c ∈ s, c ≠ '"' ∧ c ≠ '\\') : Quotable s := by
  induction s with
  | nil => exact quotable_nil
  | cons c s ih =>
    obtain ⟨hq, hb⟩ := h c List.mem_cons_self
    exact (quotable_char hq hb).append (ih fun d hd => h d (List.mem_cons_of_mem c hd))

section Spelling

variable {c : Char} {s : List Char}

/-- Hexadecimal digits neither close a text nor a body, and begin no escape. -/
theorem plain_of_mem_hexDigits {width n : Nat} (h : c ∈ hexDigits width n) :
    c ≠ '"' ∧ c ≠ '\\' ∧ c ≠ '}' := by
  obtain ⟨d, hd, rfl⟩ := Json.exists_of_mem_hexDigits h
  have digit : ∀ d < 16, Nat.digitChar d ≠ '"' ∧ Nat.digitChar d ≠ '\\' ∧
      Nat.digitChar d ≠ '}' := by decide
  exact digit d hd

theorem quotable_unitChars (n : Nat) : Quotable (Json.unitChars n) := by
  have digits : Quotable (hexDigits 4 n) := by
    refine quotable_of_plain fun c hc => ?_
    obtain ⟨hq, hb, -⟩ := plain_of_mem_hexDigits hc
    exact ⟨hq, hb⟩
  exact (quotable_escape 'u').append digits

theorem quotable_escapeChar (c : Char) : Quotable (Json.escapeChar c) := by
  unfold Json.escapeChar
  split
  case h_8 hq hb _ _ _ _ _ =>
    split
    · exact quotable_unitChars _
    · exact quotable_char hq hb
  all_goals exact quotable_escape _

theorem quotable_spellChar (ascii : Bool) (c : Char) : Quotable (Json.spellChar ascii c) := by
  cases ascii with
  | false => exact quotable_escapeChar c
  | true =>
    show Quotable (Json.asciiChar c)
    unfold Json.asciiChar
    split
    · exact quotable_escapeChar c
    · split
      · exact quotable_unitChars _
      · exact (quotable_unitChars _).append (quotable_unitChars _)

theorem quotable_spell (ascii : Bool) (s : List Char) : Quotable (Json.spell ascii s) := by
  induction s with
  | nil => exact quotable_nil
  | cons c s ih => exact (quotable_spellChar ascii c).append ih

/-- The closing quote of a text is found. -/
theorem takeQuoted_spell (ascii : Bool) (s rest : List Char) :
    takeQuoted (Json.spell ascii s ++ '"' :: rest) = some (Json.spell ascii s, rest) := by
  rw [quotable_spell, takeQuoted]
  simp

theorem not_mem_unitChars (n : Nat) : '}' ∉ Json.unitChars n := by
  intro h
  rcases List.mem_cons.1 h with h | h
  · exact absurd h (by decide)
  · rcases List.mem_cons.1 h with h | h
    · exact absurd h (by decide)
    · exact (plain_of_mem_hexDigits h).2.2 rfl

theorem not_mem_escapeChar (h : c ≠ '}') : '}' ∉ Json.escapeChar c := by
  unfold Json.escapeChar
  split
  case h_8 =>
    split
    · exact not_mem_unitChars _
    · simpa using h.symm
  all_goals decide

theorem not_mem_spellChar (ascii : Bool) (h : c ≠ '}') : '}' ∉ Json.spellChar ascii c := by
  cases ascii with
  | false => exact not_mem_escapeChar h
  | true =>
    show '}' ∉ Json.asciiChar c
    unfold Json.asciiChar
    split
    · exact not_mem_escapeChar h
    · split
      · exact not_mem_unitChars _
      · exact List.not_mem_append (not_mem_unitChars _) (not_mem_unitChars _)

/-- No text without a brace is written with one. -/
theorem not_mem_spell (ascii : Bool) (h : '}' ∉ s) : '}' ∉ Json.spell ascii s := by
  intro hm
  obtain ⟨c, hc, hm⟩ := List.mem_flatMap.1 hm
  exact not_mem_spellChar ascii (fun he => h (he ▸ hc)) hm

end Spelling

/-! ## Numbered texts -/

/-- How a numbered text is written. -/
inductive WritesEntry (ascii : Bool) : Nat × String → List Char → Prop where
  | mk {ordinal : Nat} {value : String} {before behind : List Char} (hb : IsBlankText before)
      (hn : IsBlankText behind) : WritesEntry ascii (ordinal, value)
        (Nat.toDigits 10 ordinal ++ (before ++ ':' :: (behind ++ '"' ::
          (Json.spell ascii value.toList ++ ['"']))))

/-- How the body of a declaration is written: numbered texts with commas between them. -/
inductive WritesTable (ascii : Bool) : List (Nat × String) → List Char → Prop where
  | empty {gap : List Char} (hg : IsBlankText gap) : WritesTable ascii [] gap
  | last {entry : Nat × String} {before s behind : List Char} (hb : IsBlankText before)
      (he : WritesEntry ascii entry s) (hn : IsBlankText behind) :
      WritesTable ascii [entry] (before ++ (s ++ behind))
  | more {entry next : Nat × String} {entries : List (Nat × String)}
      {before s behind rest : List Char} (hb : IsBlankText before) (he : WritesEntry ascii entry s)
      (hn : IsBlankText behind) (hr : WritesTable ascii (next :: entries) rest) :
      WritesTable ascii (entry :: next :: entries) (before ++ (s ++ (behind ++ ',' :: rest)))

variable {ascii : Bool} {entry : Nat × String} {entries : List (Nat × String)} {s : List Char}

/-- A numbered text as the reader finds it: its digits, and what stands between its quotes. -/
def asFound (ascii : Bool) (entry : Nat × String) : List Char × List Char :=
  (Nat.toDigits 10 entry.1, Json.spell ascii entry.2.toList)

theorem WritesEntry.ne_nil (h : WritesEntry ascii entry s) : s ≠ [] := by
  cases h
  exact List.append_ne_nil_of_left_ne_nil Nat.toDigits_ne_nil _

/-- A numbered text is found where it is written. -/
theorem WritesEntry.numbered? (h : WritesEntry ascii entry s) (rest : List Char) :
    numbered? (s ++ rest) = some (asFound ascii entry, rest) := by
  obtain ⟨hb, hn⟩ := h
  rename_i ordinal value before behind
  have digits : ∀ c ∈ Nat.toDigits 10 ordinal, isDigit c = true :=
    fun c hc => isDigit_of_mem_toDigits hc
  have ended (s : List Char) : ∀ c, (before ++ ':' :: s).head? = some c → isDigit c = false :=
    head?_blanks_append hb (by decide) fun c hc => isDigit_of_isBlank hc
  have colon (s : List Char) : (before ++ ':' :: s).dropWhile isBlank = ':' :: s :=
    dropWhile_run hb (by rintro c ⟨⟩; decide)
  have quote (s : List Char) : (behind ++ '"' :: s).dropWhile isBlank = '"' :: s :=
    dropWhile_run hn (by rintro c ⟨⟩; decide)
  simp only [List.append_assoc, List.cons_append, List.nil_append, SymbolLookup.numbered?,
    takeWhile_run digits (ended _), afterSome?_run Nat.toDigits_ne_nil digits (ended _), colon,
    quote, Option.bind_eq_bind, Option.bind_some, afterChars?, if_true, takeQuoted_spell, asFound]

/-- No numbered text begins at a character that is no digit. -/
theorem numbered?_of_not_isDigit {c : Char} (h : isDigit c = false) (s : List Char) :
    numbered? (c :: s) = none := by
  have none : afterSome? isDigit (c :: s) = none := if_neg (by simp [h])
  simp only [numbered?, none, Option.bind_eq_bind, Option.bind_none]

theorem findAll_numbered_blanks {gap : List Char} (hg : IsBlankText gap) (rest : List Char) :
    findAll numbered? 0 (gap ++ rest) = findAll numbered? 0 rest :=
  findAll_pass (fun c hc => numbered?_of_not_isDigit (isDigit_of_isBlank (hg c hc))) rest

/-- The numbered texts in the body of a declaration. -/
theorem findAll_numbered (h : WritesTable ascii entries s) :
    findAll numbered? 0 s = entries.map (asFound ascii) := by
  induction h with
  | empty hg => simpa [findAll] using findAll_numbered_blanks hg []
  | last hb he hn =>
    have behind := findAll_numbered_blanks hn []
    rw [List.append_nil] at behind
    rw [findAll_numbered_blanks hb, findAll_append he.ne_nil (he.numbered? _), behind]
    rfl
  | more hb he hn hr ih =>
    have comma (s : List Char) : findAll numbered? 0 (',' :: s) = findAll numbered? 0 s := by
      rw [findAll, numbered?_of_not_isDigit (by decide)]
    rw [findAll_numbered_blanks hb, findAll_append he.ne_nil (he.numbered? _),
      findAll_numbered_blanks hn, comma, ih]
    rfl

/-! ## Bodies -/

/-- A numbered text is written without a brace, if its text has none. -/
theorem WritesEntry.not_mem (h : WritesEntry ascii entry s) (hv : '}' ∉ entry.2.toList) :
    '}' ∉ s := by
  obtain ⟨hb, hn⟩ := h
  rename_i ordinal value before behind
  have digits : '}' ∉ Nat.toDigits 10 ordinal :=
    fun hm => absurd (isDigit_of_mem_toDigits hm) (by decide)
  have first := hb.not_mem (c := '}') (by decide)
  have second := hn.not_mem (c := '}') (by decide)
  simp [digits, first, second, not_mem_spell ascii hv]

theorem WritesTable.not_mem (h : WritesTable ascii entries s)
    (hv : ∀ entry ∈ entries, '}' ∉ entry.2.toList) : '}' ∉ s := by
  induction h with
  | empty hg => exact hg.not_mem (by decide)
  | last hb he hn =>
    have first := hb.not_mem (c := '}') (by decide)
    have second := hn.not_mem (c := '}') (by decide)
    simp [first, second, he.not_mem (hv _ List.mem_cons_self)]
  | more hb he hn hr ih =>
    obtain ⟨hv, hvs⟩ := List.forall_mem_cons.1 hv
    have first := hb.not_mem (c := '}') (by decide)
    have second := hn.not_mem (c := '}') (by decide)
    simp [first, second, he.not_mem hv, ih hvs]

/-- The body of a declaration ends at the first brace. -/
theorem takeBody_append {body gap : List Char} (hb : '}' ∉ body) (hg : IsBlankText gap)
    (rest : List Char) : takeBody (body ++ '}' :: (gap ++ ';' :: rest)) = some (body, rest) := by
  induction body with
  | nil =>
    have blanks : (gap ++ ';' :: rest).dropWhile isBlank = ';' :: rest :=
      dropWhile_run hg (by rintro c ⟨⟩; decide)
    rw [List.nil_append, takeBody, if_pos rfl, blanks]
    rfl
  | cons c body ih =>
    obtain ⟨hc, hb⟩ := not_or.1 (List.mem_cons.not.1 hb)
    rw [List.cons_append, takeBody, if_neg (Ne.symm hc), ih hb]
    rfl

/-! ## Declarations -/

/-- How a declaration is written. -/
inductive WritesDeclaration (name : String) (body : List Char) : List Char → Prop where
  | mk {gap before behind ending : List Char} (hn : gap ≠ [])
      (hg : IsBlankText gap) (hb : IsBlankText before) (hs : IsBlankText behind)
      (he : IsBlankText ending) : WritesDeclaration name body
        ('v' :: 'a' :: 'r' :: (gap ++ (name.toList ++ (before ++ '=' :: (behind ++ '{' ::
          (body ++ '}' :: (ending ++ [';'])))))))

/-- Whether a text may be the name of a declaration. -/
def IsName (name : String) : Prop := name.toList ≠ [] ∧ ∀ c ∈ name.toList, isWord c = true

/-- A declaration is found where it is written. -/
theorem WritesDeclaration.declaration? {name : String} {body : List Char}
    (h : WritesDeclaration name body s) (hn : IsName name) (hb : '}' ∉ body) (rest : List Char) :
    declaration? (s ++ rest) = some ((name, body), rest) := by
  obtain ⟨hne, hg, hb', hs, he⟩ := h
  rename_i gap before behind ending
  obtain ⟨c, word, hw⟩ := List.exists_cons_of_ne_nil hn.1
  have first : isWord c = true := hn.2 c (by simp [hw])
  have named (s : List Char) : ∀ d, (name.toList ++ s).head? = some d → isBlank d = false := by
    rw [hw]
    rintro d ⟨⟩
    exact isBlank_of_isWord first
  have ended (s : List Char) : ∀ d, (before ++ '=' :: s).head? = some d → isWord d = false :=
    head?_blanks_append hb' (by decide +kernel) fun d hd => isWord_of_isBlank hd
  have equals (s : List Char) : (before ++ '=' :: s).dropWhile isBlank = '=' :: s :=
    dropWhile_run hb' (by rintro d ⟨⟩; decide)
  have brace (s : List Char) : (behind ++ '{' :: s).dropWhile isBlank = '{' :: s :=
    dropWhile_run hs (by rintro d ⟨⟩; decide)
  simp only [SymbolLookup.declaration?, List.cons_append, List.append_assoc, List.nil_append,
    afterChars?, if_true, Option.bind_eq_bind, Option.bind_some, afterSome?_run hne hg (named _),
    takeWhile_run hn.2 (ended _), afterSome?_run hn.1 hn.2 (ended _), equals, brace,
    takeBody_append hb he, String.ofList_toList]

/-- How a script is written: declarations with blanks around them. -/
inductive WritesScript : List (String × List (Nat × String)) → List Char → Prop where
  | blank {gap : List Char} (hg : IsBlankText gap) : WritesScript [] gap
  | declare {ascii : Bool} {name : String} {entries : List (Nat × String)}
      {tables : List (String × List (Nat × String))} {gap body s rest : List Char}
      (hg : IsBlankText gap) (ht : WritesTable ascii entries body)
      (hd : WritesDeclaration name body s) (hr : WritesScript tables rest) :
      WritesScript ((name, entries) :: tables) (gap ++ (s ++ rest))

theorem findAll_declaration_blanks {gap : List Char} (hg : IsBlankText gap) (rest : List Char) :
    findAll declaration? 0 (gap ++ rest) = findAll declaration? 0 rest := by
  refine findAll_pass (fun c hc s => ?_) rest
  have other : ¬ 'v' = c := by
    rintro rfl
    exact hg.not_mem (by decide) hc
  simp only [declaration?, afterChars?, if_neg other, Option.bind_eq_bind, Option.bind_none]

/-- Whether a declaration was found with the numbered texts of a table. -/
def Finds (table : String × List (Nat × String)) (found : String × List Char) : Prop :=
  found.1 = table.1 ∧ ∃ ascii, findAll numbered? 0 found.2 = table.2.map (asFound ascii)

/-- The declarations in a script, each with the numbered texts in its body. -/
theorem findAll_declaration {tables : List (String × List (Nat × String))}
    (h : WritesScript tables s) (hn : ∀ table ∈ tables, IsName table.1)
    (hb : ∀ table ∈ tables, ∀ entry ∈ table.2, '}' ∉ entry.2.toList) :
    List.Forall₂ Finds tables (findAll declaration? 0 s) := by
  induction h with
  | @blank gap hg =>
    have nothing := findAll_declaration_blanks hg []
    rw [List.append_nil] at nothing
    rw [nothing]
    exact .nil
  | @declare ascii name entries tables gap body s rest hg ht hd hr ih =>
    obtain ⟨hn, hns⟩ := List.forall_mem_cons.1 hn
    obtain ⟨hb, hbs⟩ := List.forall_mem_cons.1 hb
    have found := hd.declaration? hn (ht.not_mem hb) rest
    have written : s ≠ [] := by
      cases hd
      exact List.cons_ne_nil _ _
    rw [findAll_declaration_blanks hg, findAll_append written found]
    exact .cons ⟨rfl, ascii, findAll_numbered ht⟩ (ih hns hbs)

end SymbolLookup

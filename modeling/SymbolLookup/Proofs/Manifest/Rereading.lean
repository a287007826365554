import Mathlib.Data.List.Forall2
import SymbolLookup.Proofs.Manifest.Script
import SymbolLookup.Proofs.Shard.Unreadable
import SymbolLookup.Proofs.Source.Arrangement
/-!
# Reading manifests that were written

The sections that a manifest was written of are found again in it.

## Main definitions

* `Section`: a section of the documentation.
* `Section.IsReadable`: whether the numerals of a section are short enough to be read.
* `Manifest.Writes`: whether a script is the manifest of some sections.
* `Manifest.ofSections`: the manifest of some sections.
* `Manifest.write`: some sections as a script.

## Main results

* `Manifest.read_eq_ok`: the sections of readable manifests are found again.
* `Manifest.read_eq_error`: other manifests are not read.

## Design notes

A section is joined by its ordinal from three tables. The ordinals and the numbers in decimal
references may not have more digits than a numeral that is read.
-/

namespace SymbolLookup

open Text

/-- What a text with character references means; a text of which this cannot be told stays as it
is. -/
def resolved (text : String) : String :=
  match resolve text with
  | .ok value => value
  | .error _ => text

theorem resolve_eq_ok {text : String} (h : ¬HoldsOverlong text.toList) :
    resolve text = .ok (resolved text) := by
  obtain ⟨⟨value, hv⟩, -⟩ | ⟨-, ho⟩ := failsIf_resolve text
  · rw [resolved, hv]
  · exact absurd ho h

/-- What stands between the quotes of a text means what the text means. -/
theorem scriptText_spell (ascii : Bool) (value : String) :
    scriptText (Json.spell ascii value.toList) = resolve value := by
  rw [scriptText, Json.read_spell, String.ofList_toList]

/-! ## Tables -/

/-- Whether the numerals of a numbered text are short enough to be read. -/
def CanRead (entry : Nat × String) : Prop :=
  entry.1 < 10 ^ digitLimit ∧ ¬HoldsOverlong entry.2.toList

/-- What a numbered text says. -/
def said (entry : Nat × String) : Int × String := ((entry.1 : Int), resolved entry.2)

section Tables

variable {before : Numbered} {ascii : Bool} {entry : Nat × String} {entries : List (Nat × String)}

theorem length_digits_le_iff (n : Nat) :
    ((Nat.toDigits 10 n).filterMap digit?).length ≤ digitLimit ↔ n < 10 ^ digitLimit := by
  rw [length_filterMap_digit?_toDigits, length_toDigits_le_iff]

theorem tableFrom_of_canRead (h : CanRead entry) (rest : List (List Char × List Char)) :
    tableFrom before (asFound ascii entry :: rest) =
      tableFrom (Keyed.put (said entry).1 (said entry).2 before) rest := by
  have number : ofDigits? ((Nat.toDigits 10 entry.1).filterMap digit?) = .ok entry.1 := by
    rw [ofDigits?, if_pos ((length_digits_le_iff _).2 h.1), ofDigits_toDigits]
  rw [asFound, tableFrom, scriptText_spell, resolve_eq_ok h.2, number]
  rfl

theorem tableFrom_of_not_canRead (h : ¬CanRead entry) (rest : List (List Char × List Char)) :
    ∃ fault, tableFrom before (asFound ascii entry :: rest) = .error (.numeral fault) := by
  rw [asFound, tableFrom, scriptText_spell]
  obtain ⟨⟨value, hv⟩, hs⟩ | ⟨⟨fault, hv⟩, -⟩ := failsIf_resolve entry.2
  · have long : ¬entry.1 < 10 ^ digitLimit := fun hl => h ⟨hl, hs⟩
    rw [hv, ofDigits?, if_neg (mt (length_digits_le_iff _).1 long)]
    exact ⟨_, rfl⟩
  · rw [hv]
    exact ⟨_, rfl⟩

/-- Numbered texts with numbers of their own are put into a table as they stand. -/
theorem tableFrom_eq_ok (hr : ∀ entry ∈ entries, CanRead entry)
    (hn : (Keyed.keys before ++ entries.map fun entry => (said entry).1).Nodup) :
    tableFrom before (entries.map (asFound ascii)) = .ok (before ++ entries.map said) := by
  induction entries generalizing before with
  | nil => simp [tableFrom]
  | cons entry entries ih =>
    obtain ⟨hr, hrs⟩ := List.forall_mem_cons.1 hr
    have fresh : (said entry).1 ∉ Keyed.keys before := not_mem_of_nodup_append hn
    rw [List.map_cons, tableFrom_of_canRead hr, Keyed.put_of_not_mem _ fresh,
      ih hrs (by simpa [Keyed.keys] using hn)]
    simp

/-- A table is found unless a numeral in it is too long. -/
theorem failsIf_tableFrom (before : Numbered) (ascii : Bool) (entries : List (Nat × String)) :
    FailsIf (tableFrom before (entries.map (asFound ascii)))
      (∃ entry ∈ entries, ¬CanRead entry) := by
  induction entries generalizing before with
  | nil => exact .inl ⟨⟨before, rfl⟩, by simp⟩
  | cons entry entries ih =>
    by_cases hr : CanRead entry
    · rw [List.map_cons, tableFrom_of_canRead hr, List.exists_mem_cons_iff,
        or_iff_right (not_not_intro hr)]
      exact ih _
    · exact .inr ⟨tableFrom_of_not_canRead hr _, entry, List.mem_cons_self, hr⟩

variable {tables : List (String × List (Nat × String))} {found : List (String × List Char)}
  {known : List (String × Numbered)}

/-- Tables with names of their own are found as they stand. -/
theorem tablesFrom_eq_ok (h : List.Forall₂ Finds tables found)
    (hr : ∀ table ∈ tables, ∀ entry ∈ table.2, CanRead entry)
    (hn : ∀ table ∈ tables, (table.2.map (·.1)).Nodup)
    (hk : (Keyed.keys known ++ tables.map (·.1)).Nodup) :
    tablesFrom known found =
      .ok (known ++ tables.map fun table => (table.1, table.2.map said)) := by
  induction h generalizing known with
  | nil => simp [tablesFrom]
  | @cons table declared tables found hf _ ih =>
    obtain ⟨hr, hrs⟩ := List.forall_mem_cons.1 hr
    obtain ⟨hn, hns⟩ := List.forall_mem_cons.1 hn
    obtain ⟨name, body⟩ := declared
    obtain ⟨rfl, ascii, hf⟩ := hf
    have numbers : (table.2.map fun entry => (said entry).1).Nodup := by
      have ints : (table.2.map fun entry => (said entry).1) =
          (table.2.map (·.1)).map fun n : Nat => (n : Int) := by
        rw [List.map_map]
        rfl
      rw [ints]
      exact List.Nodup.map (fun _ _ => Int.ofNat.inj) hn
    have whole : tableFrom [] (findAll numbered? 0 body) = .ok (table.2.map said) := by
      rw [hf, tableFrom_eq_ok hr (by simpa [Keyed.keys] using numbers), List.nil_append]
    have fresh : table.1 ∉ Keyed.keys known := not_mem_of_nodup_append hk
    rw [tablesFrom, whole]
    simp only
    rw [Keyed.put_of_not_mem _ fresh, ih hrs hns (by simpa [Keyed.keys] using hk)]
    simp

/-- Tables are found unless a numeral in one of them is too long. -/
theorem failsIf_tablesFrom (known : List (String × Numbered))
    (h : List.Forall₂ Finds tables found) :
    FailsIf (tablesFrom known found) (∃ table ∈ tables, ∃ entry ∈ table.2, ¬CanRead entry) := by
  induction h generalizing known with
  | nil => exact .inl ⟨⟨known, rfl⟩, by simp⟩
  | @cons table declared tables found hf _ ih =>
    obtain ⟨name, body⟩ := declared
    obtain ⟨rfl, ascii, hf⟩ := hf
    rw [tablesFrom, hf, List.exists_mem_cons_iff]
    obtain ⟨⟨whole, hw⟩, hr⟩ | ⟨⟨fault, hw⟩, hr⟩ := failsIf_tableFrom [] ascii table.2
    · rw [hw, or_iff_right hr]
      exact ih _
    · rw [hw]
      exact .inr ⟨⟨fault, rfl⟩, .inl hr⟩

end Tables

/-! ## Sections -/

/-- A section of the documentation. -/
structure Section where
  ordinal : Nat
  name : String
  alphabet : Option String := none
  label : Option String := none
  deriving DecidableEq, Repr

namespace Section

/-- The texts of a section. -/
def texts (part : Section) : List String :=
  part.name :: (part.alphabet.toList ++ part.label.toList)

/-- Whether the numerals of a section are short enough to be read. -/
def IsReadable (part : Section) : Prop :=
  part.ordinal < 10 ^ digitLimit ∧ ∀ text ∈ part.texts, ¬HoldsOverlong text.toList

/-- The index that a section names. -/
def index (part : Section) : String := resolved part.name

/-- The texts of the sections that have one, under keys. -/
def keyed {κ : Type} (key : Section → κ) (text? : Section → Option String)
    (sections : List Section) : List (κ × String) :=
  sections.filterMap fun part => (text? part).map fun text => (key part, text)

/-- The tables that a manifest declares. -/
def tables (sections : List Section) : List (String × List (Nat × String)) :=
  [("indexSectionsWithContent", keyed ordinal alphabet sections),
    ("indexSectionNames", keyed ordinal (fun part => some part.name) sections),
    ("indexSectionLabels", keyed ordinal label sections)]

section Keyed

variable {κ : Type} {key : Section → κ} {text? : Section → Option String}
  {sections : List Section} {part : Section}

theorem mem_keyed {entry : κ × String} : entry ∈ keyed key text? sections ↔
    ∃ part ∈ sections, key part = entry.1 ∧ text? part = some entry.2 := by
  rw [keyed, List.mem_filterMap]
  refine exists_congr fun part => and_congr_right fun _ => ?_
  rw [Option.map_eq_some_iff]
  constructor
  · rintro ⟨text, ht, rfl⟩
    exact ⟨rfl, ht⟩
  · rintro ⟨hk, ht⟩
    exact ⟨entry.2, ht, Prod.ext hk rfl⟩

theorem keyed_cons (first : Section) (sections : List Section) :
    keyed key text? (first :: sections) =
      ((text? first).map fun text => (key first, text)).toList ++ keyed key text? sections := by
  rw [keyed, List.filterMap_cons, keyed]
  cases text? first <;> rfl

theorem keys_keyed_sublist (sections : List Section) :
    (Keyed.keys (keyed key text? sections)).Sublist (sections.map key) := by
  induction sections with
  | nil => exact List.Sublist.refl []
  | cons part sections ih =>
    rw [keyed_cons]
    cases text? part with
    | none => exact ih.cons _
    | some text => exact ih.cons_cons _

/-- Under the key of a section stands the text of the section. -/
theorem get?_keyed [DecidableEq κ] (h : (sections.map key).Nodup) (hp : part ∈ sections) :
    Keyed.get? (key part) (keyed key text? sections) = text? part := by
  have keys : (Keyed.keys (keyed key text? sections)).Nodup := h.sublist (keys_keyed_sublist _)
  cases ht : text? part with
  | some text => exact (Keyed.get?_eq_some_iff keys).2 (mem_keyed.2 ⟨part, hp, rfl, ht⟩)
  | none =>
    rw [Keyed.get?_eq_none]
    intro hm
    obtain ⟨entry, he, hk⟩ := List.mem_map.1 hm
    obtain ⟨other, ho, hk', ht'⟩ := mem_keyed.1 he
    -- no other section has that key
    cases List.inj_on_of_nodup_map h ho hp (hk'.trans hk)
    cases ht.symm.trans ht'

/-- Every section has a text there. -/
theorem keyed_some (key : Section → κ) (text : Section → String) (sections : List Section) :
    keyed key (fun part => some (text part)) sections =
      sections.map fun part => (key part, text part) := by
  simp [keyed]

theorem map_said_keyed : (keyed ordinal text? sections).map said =
    keyed (fun part => (part.ordinal : Int)) (fun part => (text? part).map resolved) sections := by
  rw [keyed, keyed, List.map_filterMap]
  refine List.filterMap_congr fun part _ => ?_
  rw [Option.map_map, Option.map_map]
  rfl

end Keyed

section Tables

variable {sections : List Section} {part : Section}

/-- The texts of the tables are those of the sections. -/
theorem exists_of_mem_tables {table : String × List (Nat × String)}
    (ht : table ∈ tables sections) {entry : Nat × String} (he : entry ∈ table.2) :
    ∃ part ∈ sections, part.ordinal = entry.1 ∧ entry.2 ∈ part.texts := by
  simp only [tables, List.mem_cons, List.not_mem_nil, or_false] at ht
  obtain rfl | rfl | rfl := ht
  all_goals
    obtain ⟨part, hp, ho, hv⟩ := mem_keyed.1 he
    refine ⟨part, hp, ho, ?_⟩
  · simp [texts, hv]
  · simp [texts, Option.some.inj hv]
  · simp [texts, hv]

/-- Every text of a section is in one of the tables. -/
theorem exists_mem_tables (hp : part ∈ sections) {text : String} (ht : text ∈ part.texts) :
    ∃ table ∈ tables sections, (part.ordinal, text) ∈ table.2 := by
  have kept {text? : Section → Option String} (hv : text? part = some text) :
      (part.ordinal, text) ∈ keyed ordinal text? sections := mem_keyed.2 ⟨part, hp, rfl, hv⟩
  simp only [tables, List.exists_mem_cons_iff]
  rcases List.mem_cons.1 ht with rfl | ht
  · exact .inr (.inl (kept rfl))
  · rcases List.mem_append.1 ht with ht | ht
    · exact .inl (kept (Option.mem_toList.1 ht))
    · exact .inr (.inr (.inl (kept (Option.mem_toList.1 ht))))

/-- The names of the tables are names of declarations. -/
theorem isName_of_mem_tables {table : String × List (Nat × String)} (ht : table ∈ tables sections) :
    IsName table.1 := by
  have names : ∀ name ∈ ["indexSectionsWithContent", "indexSectionNames", "indexSectionLabels"],
      name.toList ≠ [] ∧ name.toList.all isWord = true := by decide +kernel
  have listed : table.1 ∈ (tables sections).map (·.1) := List.mem_map_of_mem ht
  obtain ⟨hne, words⟩ := names _ listed
  exact ⟨hne, List.all_eq_true.1 words⟩

theorem nodup_names_tables (sections : List Section) : ((tables sections).map (·.1)).Nodup := by
  show ["indexSectionsWithContent", "indexSectionNames", "indexSectionLabels"].Nodup
  decide

theorem nodup_ordinals_tables (h : (sections.map ordinal).Nodup)
    {table : String × List (Nat × String)} (ht : table ∈ tables sections) :
    (table.2.map (·.1)).Nodup := by
  simp only [tables, List.mem_cons, List.not_mem_nil, or_false] at ht
  obtain rfl | rfl | rfl := ht <;> exact h.sublist (keys_keyed_sublist _)

/-- A section that is not readable has a text that cannot be read under its ordinal. -/
theorem exists_not_canRead (h : ¬part.IsReadable) :
    ∃ text ∈ part.texts, ¬CanRead (part.ordinal, text) := by
  by_cases ho : part.ordinal < 10 ^ digitLimit
  · rw [IsReadable, not_and, not_forall] at h
    obtain ⟨text, ht⟩ := h ho
    obtain ⟨ht, hl⟩ := Classical.not_imp.1 ht
    exact ⟨text, ht, fun hc => hl hc.2⟩
  · exact ⟨part.name, List.mem_cons_self, fun hc => ho hc.1⟩

end Tables

end Section

/-! ## Manifests -/

namespace Manifest

/-- Whether a script is the manifest of some sections, with its tables in any order. -/
def Writes (sections : List Section) (script : String) : Prop :=
  ∃ tables, tables.Perm (Section.tables sections) ∧ WritesScript tables script.toList

/-- The manifest of some sections. -/
def ofSections (sections : List Section) : Manifest where
  sections :=
    Section.keyed Section.index (fun part => some ((part.alphabet.map resolved).getD "")) sections
  labels := Section.keyed Section.index (fun part => part.label.map resolved) sections

variable {sections : List Section} {part : Section} {script : String} {manifest : Manifest}

/-- An index with a new name is added behind the others. -/
theorem addSection_of_fresh (contents labels : Numbered) {entry : Int × String}
    (hs : entry.2 ∉ Keyed.keys manifest.sections) (hl : entry.2 ∉ Keyed.keys manifest.labels) :
    addSection contents labels manifest entry =
      { sections := manifest.sections ++ [(entry.2, (Keyed.get? entry.1 contents).getD "")]
        labels := manifest.labels ++
          ((Keyed.get? entry.1 labels).map fun label => (entry.2, label)).toList } := by
  rw [addSection, Keyed.put_of_not_mem _ hs]
  cases Keyed.get? entry.1 labels with
  | none => simp
  | some label => simp [Keyed.put_of_not_mem _ hl]

/-- Indexes with names of their own are added as they stand. -/
theorem foldl_addSection (contents labels : Numbered) {entries : Numbered}
    (hs : (Keyed.keys manifest.sections ++ entries.map (·.2)).Nodup)
    (hl : ∀ name ∈ Keyed.keys manifest.labels, name ∈ Keyed.keys manifest.sections) :
    entries.foldl (addSection contents labels) manifest =
      { sections := manifest.sections ++ entries.map fun entry =>
          (entry.2, (Keyed.get? entry.1 contents).getD "")
        labels := manifest.labels ++ entries.filterMap fun entry =>
          (Keyed.get? entry.1 labels).map fun label => (entry.2, label) } := by
  induction entries generalizing manifest with
  | nil => simp
  | cons entry entries ih =>
    have fresh : entry.2 ∉ Keyed.keys manifest.sections := not_mem_of_nodup_append hs
    rw [List.foldl_cons, addSection_of_fresh _ _ fresh (fun hm => fresh (hl _ hm)), ih]
    · rw [List.filterMap_cons, List.map_cons]
      cases Keyed.get? entry.1 labels <;> simp
    · simpa [Keyed.keys] using hs
    · intro name hm
      simp only [Keyed.keys, List.map_append, List.mem_append] at hm ⊢
      rcases hm with hm | hm
      · exact .inl (hl name hm)
      · cases hg : Keyed.get? entry.1 labels <;> simp_all

/-- The tables of a manifest are found with all their numbered texts. -/
theorem Writes.finds (hw : Writes sections script)
    (hb : ∀ part ∈ sections, ∀ text ∈ part.texts, '}' ∉ text.toList) :
    ∃ tables, tables.Perm (Section.tables sections) ∧
      List.Forall₂ Finds tables (findAll declaration? 0 script.toList) := by
  obtain ⟨tables, hp, hs⟩ := hw
  refine ⟨tables, hp, findAll_declaration hs (fun table ht => ?_) fun table ht entry he => ?_⟩
  · exact Section.isName_of_mem_tables (hp.mem_iff.1 ht)
  · obtain ⟨part, hm, -, ht⟩ := Section.exists_of_mem_tables (hp.mem_iff.1 ht) he
    exact hb part hm _ ht

/-- The tables that a readable manifest declares. -/
theorem declarations_eq_ok (hw : Writes sections script)
    (ho : (sections.map Section.ordinal).Nodup)
    (hb : ∀ part ∈ sections, ∀ text ∈ part.texts, '}' ∉ text.toList)
    (hr : ∀ part ∈ sections, part.IsReadable) :
    ∃ tables, declarations script = .ok tables ∧ ∀ name, Keyed.get? name tables =
      Keyed.get? name ((Section.tables sections).map fun table => (table.1, table.2.map said)) := by
  obtain ⟨tables, hp, found⟩ := hw.finds hb
  have names : (tables.map (·.1)).Nodup :=
    (hp.map _).nodup_iff.2 (Section.nodup_names_tables sections)
  have keys : (Keyed.keys (tables.map fun table => (table.1, table.2.map said))).Nodup := by
    simpa [Keyed.keys, Function.comp_def] using names
  refine ⟨_, ?_, fun name => Keyed.get?_perm keys (hp.map _) name⟩
  rw [declarations, tablesFrom_eq_ok found, List.nil_append]
  · intro table ht entry he
    obtain ⟨part, hm, hn, ht⟩ := Section.exists_of_mem_tables (hp.mem_iff.1 ht) he
    exact ⟨hn ▸ (hr part hm).1, (hr part hm).2 _ ht⟩
  · exact fun table ht => Section.nodup_ordinals_tables ho (hp.mem_iff.1 ht)
  · simpa [Keyed.keys] using names

/-- The sections of a readable manifest are found again. -/
theorem read_eq_ok (hw : Writes sections script) (hs : sections ≠ [])
    (ho : (sections.map Section.ordinal).Nodup)
    (hb : ∀ part ∈ sections, ∀ text ∈ part.texts, '}' ∉ text.toList)
    (hr : ∀ part ∈ sections, part.IsReadable) (hn : (sections.map Section.index).Nodup) :
    read script = .ok (ofSections sections) := by
  obtain ⟨tables, declared, table⟩ := declarations_eq_ok hw ho hb hr
  have ordinals : (sections.map fun part => (part.ordinal : Int)).Nodup := by
    have ints := ho.map fun _ _ => Int.ofNat.inj
    rwa [List.map_map] at ints
  have found (text? : Section → Option String) {part : Section} (hp : part ∈ sections) :
      Keyed.get? (part.ordinal : Int)
        ((Section.keyed Section.ordinal text? sections).map said) = (text? part).map resolved := by
    rw [Section.map_said_keyed]
    exact Section.get?_keyed ordinals hp
  have contents : Keyed.get? "indexSectionsWithContent" tables =
      some ((Section.keyed Section.ordinal Section.alphabet sections).map said) := by
    rw [table]
    rfl
  have labels : Keyed.get? "indexSectionLabels" tables =
      some ((Section.keyed Section.ordinal Section.label sections).map said) := by
    rw [table]
    rfl
  have all : (Section.keyed Section.ordinal (fun part => some part.name) sections).map said =
      sections.map fun part => ((part.ordinal : Int), part.index) :=
    Section.map_said_keyed.trans (Section.keyed_some _ Section.index sections)
  have names : Keyed.get? "indexSectionNames" tables =
      some (sections.map fun part => ((part.ordinal : Int), part.index)) := by
    rw [table, ← all]
    rfl
  rw [read, declared]
  simp only [names, contents, labels, Option.getD_some]
  split
  · rename_i none
    exact absurd (List.map_eq_nil_iff.1 none) hs
  · rw [foldl_addSection]
    · simp only [List.nil_append, List.map_map, List.filterMap_map]
      refine congrArg Except.ok (congr (congrArg Manifest.mk ?_) ?_)
      · rw [Section.keyed_some]
        refine List.map_congr_left fun part hp => ?_
        simp only [Function.comp_apply, found Section.alphabet hp]
      · refine List.filterMap_congr fun part hp => ?_
        simp only [Function.comp_apply, found Section.label hp]
    · simpa [Keyed.keys, Function.comp_def] using hn
    · exact fun _ hm => absurd hm List.not_mem_nil

/-- A manifest with a numeral that is too long is not read. -/
theorem read_eq_error (hw : Writes sections script)
    (hb : ∀ part ∈ sections, ∀ text ∈ part.texts, '}' ∉ text.toList)
    (hr : ∃ part ∈ sections, ¬part.IsReadable) :
    ∃ fault, read script = .error (.numeral fault) := by
  obtain ⟨tables, hp, found⟩ := hw.finds hb
  obtain ⟨part, hm, hr⟩ := hr
  obtain ⟨text, ht, long⟩ := Section.exists_not_canRead hr
  obtain ⟨table, hl, he⟩ := Section.exists_mem_tables hm ht
  obtain ⟨-, short⟩ | ⟨⟨fault, hf⟩, -⟩ := failsIf_tablesFrom [] found
  · exact absurd ⟨table, hp.mem_iff.2 hl, _, he, long⟩ short
  · refine ⟨fault, ?_⟩
    rw [read, declarations, hf]

/-- **A manifest gives its sections back.** Take sections with ordinals of their own, whose texts
have no closing brace, and a script that declares them. If all numerals are short enough to be read
and the sections name different indexes, the manifest that is read knows just these indexes. It
gives each of them the alphabet of its section, which is empty where there is none, and it has the
labels of those sections that have one, all with their references resolved. If a numeral is too
long, that is why the script is not read. -/
theorem read_written (hw : Writes sections script) (hs : sections ≠ [])
    (ho : (sections.map Section.ordinal).Nodup)
    (hb : ∀ part ∈ sections, ∀ text ∈ part.texts, '}' ∉ text.toList) :
    ((∀ part ∈ sections, part.IsReadable) → (sections.map Section.index).Nodup →
      (∀ part ∈ sections, ∀ text ∈ part.texts, resolve text = .ok (resolved text)) ∧
      ∃ manifest, read script = .ok manifest ∧
        Keyed.keys manifest.sections = sections.map Section.index ∧
        (∀ part ∈ sections,
          Keyed.get? part.index manifest.sections =
            some ((part.alphabet.map resolved).getD "") ∧
          Keyed.get? part.index manifest.labels = part.label.map resolved) ∧
        (∀ name ∈ Keyed.keys manifest.labels,
          ∃ part ∈ sections, part.index = name ∧ part.label ≠ none) ∧
        ∀ index, manifest.partition? index ≠ none ↔ index ∈ sections.map Section.index) ∧
    ((∃ part ∈ sections, ¬part.IsReadable) → ∃ fault, read script = .error (.numeral fault)) := by
  refine ⟨fun hr hn => ⟨fun part hp text ht => resolve_eq_ok ((hr part hp).2 text ht),
    ofSections sections, read_eq_ok hw hs ho hb hr hn, ?_, fun part hp => ⟨?_, ?_⟩,
    fun name hm => ?_, fun index => ?_⟩, read_eq_error hw hb⟩
  · simp [ofSections, Section.keyed_some, Keyed.keys, Function.comp_def]
  · exact Section.get?_keyed hn hp
  · exact Section.get?_keyed hn hp
  · obtain ⟨entry, he, rfl⟩ := List.mem_map.1 hm
    obtain ⟨part, hp, hk, ht⟩ := Section.mem_keyed.1 he
    refine ⟨part, hp, hk, fun none => ?_⟩
    rw [none] at ht
    cases ht
  · have keys : Keyed.keys (ofSections sections).sections = sections.map Section.index := by
      simp [ofSections, Section.keyed_some, Keyed.keys, Function.comp_def]
    rw [partition?, ne_eq, Option.map_eq_none_iff, Keyed.get?_eq_none, not_not, keys]

end Manifest

/-! ## Writing -/

/-- A numbered text. -/
def entryChars (ascii : Bool) (entry : Nat × String) : List Char :=
  Nat.toDigits 10 entry.1 ++ ':' :: ' ' :: '"' :: (Json.spell ascii entry.2.toList ++ ['"'])

/-- Numbered texts with commas between them. -/
def bodyChars (ascii : Bool) : (entries : List (Nat × String)) → List Char
  | [] => []
  | [entry] => entryChars ascii entry
  | entry :: next :: entries => entryChars ascii entry ++ ',' :: bodyChars ascii (next :: entries)

/-- A declaration. -/
def declarationChars (ascii : Bool) (table : String × List (Nat × String)) : List Char :=
  'v' :: 'a' :: 'r' :: ' ' :: (table.1.toList ++ ' ' :: '=' :: ' ' :: '{' ::
    (bodyChars ascii table.2 ++ ['}', ';']))

/-- The manifest of some sections as a script, each declaration on a line of its own. -/
def Manifest.write (ascii : Bool) (sections : List Section) : String :=
  String.ofList <|
    (Section.tables sections).flatMap fun table => '\n' :: declarationChars ascii table

section Writing

variable (ascii : Bool)

theorem writesEntry_entryChars (entry : Nat × String) :
    WritesEntry ascii entry (entryChars ascii entry) := by
  have blank : IsBlankText [' '] := by decide
  exact .mk isBlankText_nil blank

theorem writesTable_bodyChars (entries : List (Nat × String)) :
    WritesTable ascii entries (bodyChars ascii entries) := by
  induction entries with
  | nil => exact .empty isBlankText_nil
  | cons entry entries ih =>
    cases entries with
    | nil =>
      have last := WritesTable.last isBlankText_nil (writesEntry_entryChars ascii entry)
        isBlankText_nil
      rwa [List.nil_append, List.append_nil] at last
    | cons next entries =>
      exact .more isBlankText_nil (writesEntry_entryChars ascii entry) isBlankText_nil ih

theorem writesDeclaration_declarationChars (table : String × List (Nat × String)) :
    WritesDeclaration table.1 (bodyChars ascii table.2) (declarationChars ascii table) := by
  have blank : IsBlankText [' '] := by decide
  exact .mk (List.cons_ne_nil ' ' []) blank blank blank isBlankText_nil

theorem writesScript_flatMap (tables : List (String × List (Nat × String))) :
    WritesScript tables (tables.flatMap fun table => '\n' :: declarationChars ascii table) := by
  have line : IsBlankText ['\n'] := by decide
  induction tables with
  | nil => exact .blank isBlankText_nil
  | cons table tables ih =>
    exact .declare line (writesTable_bodyChars ascii table.2)
      (writesDeclaration_declarationChars ascii table) ih

/-- All sections may be written as a script. -/
theorem Manifest.writes_write (sections : List Section) : Writes sections (write ascii sections) :=
  ⟨_, .refl _, by
    rw [write, String.toList_ofList]
    exact writesScript_flatMap ascii _⟩

end Writing

theorem digitLimit_lt_of_holdsOverlong {s : List Char} (h : HoldsOverlong s) :
    digitLimit < s.length := by
  obtain ⟨digits, ⟨-, hl⟩, hi⟩ := h
  have length := hi.length_le
  simp only [List.length_cons] at length
  omega

/-- A section with quotes, backslashes, opening braces, a reference and what looks like a
declaration in its texts, and one with a name alone. -/
theorem Manifest.read_written_of_awkward :
    let first : Section :=
      { ordinal := 0, name := "all", alphabet := "a\"\\\x7b12: \"b", label := "var x = \x7b &lt;é" }
    let second : Section := { ordinal := 12, name := "functions" }
    let script := write true [first, second]
    ∃ manifest, read script = .ok manifest ∧
      Keyed.keys manifest.sections = ["all", "functions"] ∧
      Keyed.get? "all" manifest.sections = some "a\"\\\x7b12: \"b" ∧
      Keyed.get? "all" manifest.labels = some "var x = \x7b <é" ∧
      Keyed.get? "functions" manifest.sections = some "" ∧
      Keyed.get? "functions" manifest.labels = none := by
  intro first second script
  have short : ∀ part ∈ [first, second], part.ordinal < 13 ∧
      ∀ text ∈ part.texts, text.toList.length ≤ digitLimit ∧ '}' ∉ text.toList := by decide
  have power : 13 ≤ 10 ^ digitLimit :=
    Nat.le_trans (by decide : 13 ≤ 10 ^ 2) (Nat.pow_le_pow_right (by decide) (by decide))
  have readable : ∀ part ∈ [first, second], part.IsReadable := by
    intro part hp
    obtain ⟨ho, ht⟩ := short part hp
    refine ⟨Nat.lt_of_lt_of_le ho power, fun text hm hl => ?_⟩
    exact absurd (digitLimit_lt_of_holdsOverlong hl) (Nat.not_lt_of_le (ht text hm).1)
  have unbraced : ∀ part ∈ [first, second], ∀ text ∈ part.texts, '}' ∉ text.toList :=
    fun part hp text ht => ((short part hp).2 text ht).2
  have indexes : [first, second].map Section.index = ["all", "functions"] := by decide +kernel
  obtain ⟨found, -⟩ :=
    read_written (writes_write true [first, second]) (by decide) (by decide) unbraced
  obtain ⟨-, manifest, hr, keys, texts, -, -⟩ := found readable (by rw [indexes]; decide)
  obtain ⟨first_alphabet, first_label⟩ := texts first List.mem_cons_self
  obtain ⟨second_alphabet, second_label⟩ :=
    texts second (List.mem_cons_of_mem _ List.mem_cons_self)
  have all : first.index = "all" := by decide +kernel
  have functions : second.index = "functions" := by decide +kernel
  have alphabet : (first.alphabet.map resolved).getD "" = "a\"\\\x7b12: \"b" := by decide +kernel
  have label : first.label.map resolved = some "var x = \x7b <é" := by decide +kernel
  rw [all, alphabet] at first_alphabet
  rw [all, label] at first_label
  rw [functions] at second_alphabet second_label
  exact ⟨manifest, hr, keys.trans indexes, first_alphabet, first_label, second_alphabet,
    second_label⟩

/-- An ordinal of one digit more than is read. -/
theorem Manifest.not_read_of_long_ordinal :
    let sections : List Section := [{ ordinal := 10 ^ digitLimit, name := "a" }]
    let script := write true sections
    sections ≠ [] ∧ (sections.map Section.ordinal).Nodup ∧
      (∀ part ∈ sections, ∀ text ∈ part.texts, '}' ∉ text.toList) ∧
      (∀ part ∈ sections, ∀ text ∈ part.texts, resolve text = .ok (resolved text)) ∧
      (sections.map Section.index).Nodup ∧ Writes sections script ∧
      ∃ fault, read script = .error (.numeral fault) := by
  intro sections script
  have texts : ∀ part ∈ sections, part.texts = ["a"] := by
    intro part hp
    rw [List.mem_singleton.1 hp]
    rfl
  have unbraced : ∀ part ∈ sections, ∀ text ∈ part.texts, '}' ∉ text.toList := by
    intro part hp text ht
    rw [texts part hp, List.mem_singleton] at ht
    rw [ht]
    decide
  refine ⟨List.cons_ne_nil _ _, List.nodup_singleton _, unbraced, fun part hp text ht => ?_,
    List.nodup_singleton _, writes_write true sections,
    read_eq_error (writes_write true sections) unbraced ?_⟩
  · rw [texts part hp, List.mem_singleton] at ht
    rw [ht]
    refine resolve_eq_ok fun hl => ?_
    exact absurd (digitLimit_lt_of_holdsOverlong hl) (by decide)
  · exact ⟨_, List.mem_cons_self, fun hr => Nat.lt_irrefl _ hr.1⟩

end SymbolLookup

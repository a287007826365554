import Mathlib.Data.List.Count
import Mathlib.Data.List.Nodup
import SymbolLookup.Proofs.Shard.Rereading
/-!
# Accounting for the parts of a document

Every part of a document that was read either is a record, and adds an entry for each of its
occurrences, or is reported and adds nothing.

## Main definitions

* `Occurrence.Written`, `Record.Written`: the shapes in which occurrences and records are written.
* `Anchor.Cuts`, `Entry.TakenFrom`: what is taken from an occurrence.
* `Part.Accounts`: what becomes of a part of a document.

## Main results

* `Record.ofPart_eq_ok_iff`: just what is written in one of the shapes is a record.
* `Shard.accounts_of_read`: a shard that was read accounts for every part of its document.

## Design notes

A part that is no record may still begin with proper occurrences. None of them is added, because all
occurrences of a part are looked at before the first entry is made.
-/

namespace SymbolLookup

open Text

/-! ## Shapes -/

/-- Whether a part of a document writes an occurrence. -/
inductive Occurrence.Written : Format → Part → Occurrence → Prop where
  /-- A script writes the link, a flag and the label. -/
  | script (link : String) (flag : Part) (label : String) :
      Written .script (.list [.text link, flag, .text label]) ⟨label, link, flag.isTrue⟩
  /-- Data writes the label and the link. -/
  | data (format label link : String) :
      Written (.data format) (.list [.text label, .text link]) ⟨label, link, true⟩

/-- Whether a part of a document writes a record. -/
inductive Record.Written : Format → Part → Record → Prop where
  /-- A script writes an id, and then the name with the occurrences behind it. -/
  | script {id : Part} {name : String} {parts : List Part} {occurrences : List Occurrence}
      (some : parts ≠ []) (h : List.Forall₂ (Occurrence.Written .script) parts occurrences) :
      Written .script (.list [id, .list (.text name :: parts)]) ⟨name, occurrences⟩
  /-- Data writes the name and its only occurrence. -/
  | single {format name : String} {part : Part} {occurrence : Occurrence}
      (h : Occurrence.Written (.data format) part occurrence) :
      Written (.data format) (.list [.text name, part]) ⟨name, [occurrence]⟩
  /-- Data writes the name and the list of its occurrences. -/
  | several {format name : String} {parts : List Part} {occurrences : List Occurrence}
      (some : parts ≠ []) (h : List.Forall₂ (Occurrence.Written (.data format)) parts occurrences) :
      Written (.data format) (.list [.text name, .list parts]) ⟨name, occurrences⟩

theorem Occurrence.ofScript_eq_ok_iff {part : Part} {occurrence : Occurrence} :
    ofScript part = .ok occurrence ↔ Written .script part occurrence := by
  constructor
  · intro h
    unfold ofScript at h
    split at h
    · cases h
      exact .script _ _ _
    · cases h
  · rintro ⟨⟩
    rfl

theorem Occurrence.ofData_eq_ok_iff {part : Part} {occurrence : Occurrence} {format : String} :
    ofData part = .ok occurrence ↔ Written (.data format) part occurrence := by
  constructor
  · intro h
    unfold ofData at h
    split at h
    · cases h
      exact .data _ _ _
    · cases h
  · rintro ⟨⟩
    rfl

namespace Record

theorem ofScript_eq_ok_iff {part : Part} {record : Record} :
    ofScript part = .ok record ↔ Written .script part record := by
  constructor
  · intro h
    unfold ofScript at h
    split at h
    · obtain ⟨occurrences, hm, rfl⟩ := exists_of_map_eq_ok h
      refine .script (by simp) ?_
      exact (mapM_eq_ok_iff.1 hm).imp fun _ _ => Occurrence.ofScript_eq_ok_iff.1
    · cases h
    · cases h
  · rintro @⟨id, name, parts, occurrences, hne, h⟩
    obtain ⟨first, more, rfl⟩ := List.exists_cons_of_ne_nil hne
    rw [ofScript, mapM_eq_ok_iff.2 (h.imp fun _ _ => Occurrence.ofScript_eq_ok_iff.2)]
    rfl

/-- Occurrences of data are lists, so the list of them is not taken for one of them. -/
theorem not_all_isText {format : String} {first : Part} {more : List Part}
    {occurrences : List Occurrence}
    (h : List.Forall₂ (Occurrence.Written (.data format)) (first :: more) occurrences) :
    ¬(first :: more).all Part.isText := by
  cases h with
  | cons hf _ =>
    cases hf
    simp [Part.isText]

theorem ofData_eq_ok_iff {part : Part} {record : Record} {format : String} :
    ofData part = .ok record ↔ Written (.data format) part record := by
  constructor
  · intro h
    unfold ofData at h
    split at h
    · obtain ⟨occurrences, hm, rfl⟩ := exists_of_map_eq_ok h
      have hw : List.Forall₂ (Occurrence.Written (.data format)) _ occurrences :=
        (mapM_eq_ok_iff.1 hm).imp fun _ _ => Occurrence.ofData_eq_ok_iff.1
      split at hw
      · cases hw with
        | cons hf hr =>
          cases hr
          exact .single hf
      · exact .several (by simp) hw
    · cases h
    · cases h
  · rintro (_ | ⟨⟨⟩⟩ | @⟨_, _, parts, _, hne, h⟩)
    · rfl
    · obtain ⟨first, more, rfl⟩ := List.exists_cons_of_ne_nil hne
      rw [ofData, if_neg (not_all_isText h),
        mapM_eq_ok_iff.2 (h.imp fun _ _ => Occurrence.ofData_eq_ok_iff.2)]
      rfl

/-- Just what is written in one of the shapes is a record. -/
theorem ofPart_eq_ok_iff {format : Format} {part : Part} {record : Record} :
    ofPart format part = .ok record ↔ Written format part record := by
  cases format with
  | script => exact ofScript_eq_ok_iff
  | data => exact ofData_eq_ok_iff

theorem Written.occurrences_ne_nil {format : Format} {part : Part} {record : Record}
    (h : Written format part record) : record.occurrences ≠ [] := by
  cases h with
  | script hne h | several hne h =>
    rintro rfl
    exact hne (List.forall₂_nil_right_iff.1 h)
  | single => simp

end Record

/-! ## Entries -/

/-- Whether a link writes an anchor: it is cut at its first mark of a fragment, if it has any. -/
def Anchor.Cuts (anchor : Anchor) (link : String) : Prop :=
  '#' ∉ anchor.path.toList ∧
    (link = anchor.path ∧ anchor.fragment = "" ∨ link = anchor.path ++ "#" ++ anchor.fragment)

theorem dropWhile_mark (s : List Char) :
    s.dropWhile (· ≠ '#') = [] ∨ s.dropWhile (· ≠ '#') = '#' :: (s.dropWhile (· ≠ '#')).drop 1 := by
  induction s with
  | nil => exact .inl rfl
  | cons c s ih =>
    rw [List.dropWhile_cons]
    split
    · exact ih
    · rename_i hc
      obtain rfl : c = '#' := by simpa using hc
      exact .inr rfl

theorem Anchor.cuts_parse (link : String) : (Anchor.parse link).Cuts link := by
  have hs : link.toList.takeWhile (· ≠ '#') ++ link.toList.dropWhile (· ≠ '#') = link.toList :=
    List.takeWhile_append_dropWhile
  rw [parse_eq]
  constructor
  · intro hm
    have := List.mem_takeWhile_imp (by simpa using hm)
    simp at this
  · obtain hd | hd := dropWhile_mark link.toList
    · rw [hd, List.append_nil] at hs
      simp only [hs, hd, String.ofList_toList, List.drop_nil, String.ofList_nil, and_self, true_or]
    · right
      rw [← String.toList_inj]
      calc link.toList
          _ = link.toList.takeWhile (· ≠ '#') ++ link.toList.dropWhile (· ≠ '#') := hs.symm
          _ = link.toList.takeWhile (· ≠ '#') ++ '#' :: (link.toList.dropWhile (· ≠ '#')).drop 1 :=
            congrArg _ hd
          _ = _ := by simp

/-- Whether an entry tells what an occurrence of a name tells, with the references of the name and
of the label resolved. -/
structure Entry.TakenFrom (name : String) (occurrence : Occurrence) (entry : Entry) : Prop where
  name_eq : unescape name = .ok entry.name
  label_eq : unescape occurrence.label = .ok entry.label
  anchor_cuts : entry.anchor.Cuts occurrence.link
  sortKey_eq : entry.sortKey = normalize entry.name
  inFrame_eq : entry.inFrame = occurrence.inFrame

theorem resolve_eq_ok_iff {text means : String} :
    resolve text = .ok means ↔ unescape text = .ok means := by
  rw [resolve]
  cases unescape text <;> simp [Except.mapError]

theorem takenFrom_of_entriesOf {name means : String} (hn : unescape name = .ok means)
    {position : Nat} {occurrences : List Occurrence} {entries : List Entry}
    (h : entriesOf means position occurrences = .ok entries) :
    List.Forall₂ (Entry.TakenFrom name) occurrences entries := by
  induction occurrences generalizing position entries with
  | nil =>
    cases h
    exact .nil
  | cons occurrence occurrences ih =>
    rw [entriesOf_cons] at h
    obtain ⟨label, hl, h⟩ := exists_of_bind_eq_ok h
    obtain ⟨others, hr, rfl⟩ := exists_of_map_eq_ok h
    exact .cons ⟨hn, resolve_eq_ok_iff.1 hl, Anchor.cuts_parse _, rfl, rfl⟩ (ih hr)

/-- What becomes of a part of a document: how often it is reported, and the entries it adds. -/
inductive Part.Accounts (format : Format) (part : Part) : (reports : Nat) → List Entry → Prop where
  | stray (none : ∀ record, ¬Record.Written format part record) : Accounts format part 1 []
  | record {record : Record} {entries : List Entry} (written : Record.Written format part record)
      (some : entries ≠ [])
      (taken : List.Forall₂ (Entry.TakenFrom record.name) record.occurrences entries) :
      Accounts format part 0 entries

/-! ## Parts of a document -/

/-- Whether a part of a document is a record. -/
def Part.isRecord (format : Format) (part : Part) : Bool := (Record.ofPart format part).isOk

namespace Shard

/-- The places of the parts that are no records, the first part at the place `place`. -/
def strays (format : Format) (place : Nat) (parts : List Part) : List Nat :=
  ((parts.zipIdx place).filter fun (part, _) => !part.isRecord format).map (·.2)

variable {format : Format} {place : Nat} {part : Part} {parts : List Part}

theorem strays_cons : strays format place (part :: parts) =
    if part.isRecord format then strays format (place + 1) parts
    else place :: strays format (place + 1) parts := by
  cases h : part.isRecord format <;> simp [strays, List.zipIdx_cons, h]

theorem strays_sublist (format : Format) (parts : List Part) :
    (strays format 0 parts).Sublist (List.range parts.length) := by
  have h := (List.filter_sublist (l := parts.zipIdx)
    (p := fun (part, _) => !part.isRecord format)).map (·.2)
  rwa [List.zipIdx_map_snd, ← List.range_eq_range'] at h

theorem mem_strays (h : parts[place]? = some part) :
    place ∈ strays format 0 parts ↔ ¬part.isRecord format := by
  simp [strays, List.mem_zipIdx_iff_getElem?, h]

theorem count_strays (h : parts[place]? = some part) :
    (strays format 0 parts).count place = if part.isRecord format then 0 else 1 := by
  have hd : (strays format 0 parts).Nodup := List.nodup_range.sublist (strays_sublist format parts)
  split
  · rename_i ho
    exact List.count_eq_zero.2 fun hm => (mem_strays h).1 hm ho
  · rename_i ho
    exact List.count_eq_one_of_mem hd ((mem_strays h).2 ho)

theorem addRecord_eq (shard : Shard) (record : Record) :
    shard.addRecord record = (resolve record.name).bind fun name =>
      (entriesOf name shard.entries.length record.occurrences).map fun entries =>
        { shard with entries := shard.entries ++ entries } := by
  rw [addRecord]
  cases resolve record.name <;> rfl

theorem accounts_of_addRecord {record : Record}
    (hw : Record.ofPart format part = .ok record) {shard after : Shard}
    (h : shard.addRecord record = .ok after) :
    ∃ entries, part.Accounts format 0 entries ∧ after =
      { shard with entries := shard.entries ++ entries } := by
  rw [addRecord_eq] at h
  obtain ⟨name, hn, h⟩ := exists_of_bind_eq_ok h
  obtain ⟨entries, he, rfl⟩ := exists_of_map_eq_ok h
  have ht := takenFrom_of_entriesOf (resolve_eq_ok_iff.1 hn) he
  have hw := Record.ofPart_eq_ok_iff.1 hw
  refine ⟨entries, .record hw ?_ ht, rfl⟩
  rintro rfl
  exact hw.occurrences_ne_nil (List.forall₂_nil_right_iff.1 ht)

/-- What the parts of a document add to a shard is added part by part. -/
theorem accounts_of_addParts {shard after : Shard}
    (h : shard.addParts format place parts = .ok after) :
    ∃ pieces, List.Forall₂ (fun part piece => part.Accounts format
          (if part.isRecord format then 0 else 1) piece) parts pieces ∧
      after.entries = shard.entries ++ pieces.flatten ∧
      after.diagnostics.map Diagnostic.record =
        shard.diagnostics.map Diagnostic.record ++ (strays format place parts).map some := by
  fun_induction addParts format shard place parts with
  | case1 =>
    cases h
    exact ⟨[], .nil, by simp [strays]⟩
  | case2 shard place part parts fault hp ih =>
    obtain ⟨pieces, ha, he, hd⟩ := ih h
    have hn : part.isRecord format = false := by rw [Part.isRecord, hp]; rfl
    have hs : part.Accounts format 1 [] := .stray fun record hw => by
      rw [Record.ofPart_eq_ok_iff.2 hw] at hp
      cases hp
    refine ⟨[] :: pieces, .cons (by simpa [hn] using hs) ha, he, ?_⟩
    rw [hd, strays_cons, hn]
    simp [addDiagnostic]
  | case3 => cases h
  | case4 shard place part parts record hp next ha ih =>
    have hi : part.isRecord format = true := by rw [Part.isRecord, hp]; rfl
    obtain ⟨entries, hr, rfl⟩ := accounts_of_addRecord hp ha
    obtain ⟨pieces, ha, he, hd⟩ := ih h
    refine ⟨entries :: pieces, .cons (by simpa [hi] using hr) ha, ?_, ?_⟩
    · rw [he, List.flatten_cons, List.append_assoc]
    · rw [hd, strays_cons, if_pos hi]

end Shard

/-! ## Documents -/

theorem position_of_placed {position place : Nat} {entries : List Entry} {entry : Entry}
    (h : Placed position entries) (he : entries[place]? = some entry) :
    entry.position = position + place := by
  induction entries generalizing position place with
  | nil => simp at he
  | cons first entries ih =>
    obtain ⟨hp, -, hs⟩ := h
    cases place with
    | zero =>
      obtain rfl : first = entry := by simpa using he
      exact hp
    | succ place =>
      have := ih hs (by simpa using he)
      omega

/-- **Every part of a document is accounted for.** When a document is read, each of its parts is
either reported once and adds no entry, or never reported and adds an entry for each occurrence of
its record. The reports are in the order of the parts, and so are the entries, each of which stands
at its place. -/
theorem Shard.accounts_of_read {bucket text : String} {asked : Option String}
    {interpreter : Interpreter} {shard : Shard}
    (h : Shard.read bucket text asked interpreter = .ok shard) :
    ∃ (parts : List Part) (pieces : List (List Entry)),
      decode bucket text (Format.choose asked text) interpreter = .ok parts ∧
      pieces.length = parts.length ∧ shard.entries = pieces.flatten ∧
      (∀ (place : Nat) part piece, parts[place]? = some part → pieces[place]? = some piece →
        part.Accounts (Format.choose asked text)
          ((shard.diagnostics.map Diagnostic.record).count (some place)) piece) ∧
      (∃ places : List Nat, shard.diagnostics.map Diagnostic.record = places.map some ∧
        places.Pairwise (· < ·) ∧ ∀ place ∈ places, place < parts.length) ∧
      ∀ (position : Nat) entry, shard.entries[position]? = some entry →
        entry.position = position := by
  have hp := Shard.placed_of_read h
  unfold Shard.read at h
  simp only at h
  split at h
  · cases h
  rename_i parts hd
  obtain ⟨pieces, ha, he, hr⟩ := accounts_of_addParts h
  have hr : shard.diagnostics.map Diagnostic.record =
      (strays (Format.choose asked text) 0 parts).map some := by simpa using hr
  have hs := strays_sublist (Format.choose asked text) parts
  refine ⟨parts, pieces, hd, ha.length_eq.symm, by simpa using he, ?_, ?_, ?_⟩
  · intro place part piece hpart hpiece
    rw [hr, List.count_map_of_injective _ some (fun _ _ => Option.some.inj), count_strays hpart]
    obtain ⟨hi, rfl⟩ := List.getElem?_eq_some_iff.1 hpart
    obtain ⟨hj, rfl⟩ := List.getElem?_eq_some_iff.1 hpiece
    exact ha.get hi hj
  · refine ⟨_, hr, List.pairwise_lt_range.sublist hs, fun place hm => ?_⟩
    exact List.mem_range.1 (hs.subset hm)
  · intro position entry hm
    have := position_of_placed hp hm
    omega

/-- The text of a script of two parts; the last occurrence of the second one is empty. -/
def mixedText : String := "var s=[[1,['a',['x#y',0,'A']]],[2,['b',['x',1,'B'],'']]]"

/-- What is read from the script of two parts. -/
def Shard.mixed : Shard where
  bucket := "symbols_0"
  entries := [{ name := "a", label := "A", anchor := ⟨"x", "y"⟩, position := 0, inFrame := false }]
  diagnostics := [⟨"symbols_0", "expected occurrence [url, flag, label]", some 1⟩]

/-- A part whose last occurrence is malformed adds nothing. -/
theorem Shard.accounts_of_mixed :
    Shard.read "symbols_0" mixedText = .ok Shard.mixed ∧
      ∃ parts, decode "symbols_0" mixedText .script = .ok parts ∧
        ∀ (place : Nat) part, parts[place]? = some part → ∃ piece, part.Accounts .script
          ((Shard.mixed.diagnostics.map Diagnostic.record).count (some place)) piece := by
  have h : Shard.read "symbols_0" mixedText = .ok Shard.mixed := by decide +kernel
  have hf : Format.choose none mixedText = .script := by decide +kernel
  obtain ⟨parts, pieces, hd, hl, -, ha, -⟩ := Shard.accounts_of_read h
  rw [hf] at hd ha
  refine ⟨h, parts, hd, fun place part hp => ?_⟩
  obtain ⟨hi, -⟩ := List.getElem?_eq_some_iff.1 hp
  exact ⟨_, ha place part _ hp (List.getElem?_eq_getElem (hl.symm ▸ hi))⟩

end SymbolLookup

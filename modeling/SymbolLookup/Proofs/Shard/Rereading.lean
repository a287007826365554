import Mathlib.Data.List.TakeDrop
import Mathlib.Data.List.TakeWhile
import SymbolLookup.Proofs.Json.Recovery
import SymbolLookup.Proofs.Lists
import SymbolLookup.Shard.Reader
import SymbolLookup.Shard.Writer
/-!
# Reading shards that were written

A shard is written with its names and labels as they are, and read with the character references of
names and labels resolved.

## Main definitions

* `reread`: what is read for some entries when they were written.
* `Shard.Sound`: what all shards that were read have in common.
* `Shard.Returns`: whether a shard comes back when it is written and read.

## Main results

* `Shard.read_write`: what is read when a shard was written, whichever shard that is.
* `Shard.returns_iff`: a shard that was read comes back if and only if its names and labels mean
  themselves.

## Design notes

Writing puts neighbours of the same name into one record. This is undone by reading, which resolves
the name of a record once for all its occurrences.
-/

namespace SymbolLookup

open Text

/-- What is read for an entry when it was written, at the place `position`. -/
def Entry.again (position : Nat) (entry : Entry) : Except Fault (List Entry) :=
  (resolve entry.name).bind fun name =>
    entriesOf name position [{ label := entry.label, link := entry.anchor.link }]

theorem Entry.again_eq (position : Nat) (entry : Entry) :
    entry.again position =
      (resolve entry.name).bind fun name => (resolve entry.label).map fun label =>
        [{ name, label, anchor := Anchor.parse entry.anchor.link, position }] := by
  rw [again]
  cases resolve entry.name with
  | error => rfl
  | ok name =>
    simp only [Except.bind, entriesOf_cons]
    cases resolve entry.label <;> rfl

/-- What is read for some entries when they were written, the first one at the place `position`. -/
def reread : (position : Nat) → List Entry → Except Fault (List Entry)
  | _, [] => .ok []
  | position, entry :: entries =>
    (entry.again position).bind fun first => (reread (position + 1) entries).map (first ++ ·)

/-! ## Runs -/

/-- Whether some entries have a name in common. -/
def IsRun (run : String × List Entry) : Prop :=
  run.2 ≠ [] ∧ ∀ entry ∈ run.2, entry.name = run.1

theorem addToRuns_flatMap (entry : Entry) (runs : List (String × List Entry)) :
    (addToRuns entry runs).flatMap (·.2) = entry :: runs.flatMap (·.2) := by
  cases runs with
  | nil => rfl
  | cons run runs =>
    rw [addToRuns]
    split <;> rfl

theorem isRun_of_mem_addToRuns {entry : Entry} {runs : List (String × List Entry)}
    (h : ∀ run ∈ runs, IsRun run) : ∀ run ∈ addToRuns entry runs, IsRun run := by
  have hs : IsRun (entry.name, [entry]) := ⟨by simp, by simp⟩
  cases runs with
  | nil => simpa [addToRuns] using hs
  | cons first runs =>
    obtain ⟨hf, hr⟩ := List.forall_mem_cons.1 h
    rw [addToRuns]
    split
    · rename_i hn
      rw [List.forall_mem_cons]
      exact ⟨⟨by simp, List.forall_mem_cons.2 ⟨hn.symm, hf.2⟩⟩, hr⟩
    · rw [List.forall_mem_cons]
      exact ⟨hs, h⟩

namespace Shard

variable (shard : Shard)

/-- The runs hold the entries of a shard, in its order. -/
theorem runs_flatMap : shard.runs.flatMap (·.2) = shard.entries := by
  unfold runs
  induction shard.entries with
  | nil => rfl
  | cons entry entries ih => rw [List.foldr_cons, addToRuns_flatMap, ih]

theorem isRun_of_mem_runs : ∀ run ∈ shard.runs, IsRun run := by
  unfold runs
  induction shard.entries with
  | nil => simp
  | cons entry entries ih => exact isRun_of_mem_addToRuns ih

end Shard

/-! ## Documents -/

/-- The record that is written for a run. -/
def Record.ofRun (run : String × List Entry) : Record :=
  ⟨run.1, run.2.map fun entry => { label := entry.label, link := entry.anchor.link }⟩

/-- The part that is written for a record. -/
def Record.toJson (record : Record) : Json :=
  .list [.text record.name, .list <| record.occurrences.map fun occurrence =>
    .list [.text occurrence.label, .text occurrence.link]]

theorem Shard.toJson_eq (shard : Shard) :
    shard.toJson = .list (shard.runs.map fun run => (Record.ofRun run).toJson) := by
  simp [Shard.toJson, Record.toJson, Record.ofRun, Function.comp_def]

theorem allPlain_map {α : Type} {f : α → Json} {nesting : Nat}
    (h : ∀ item, (f item).isPlain nesting) (items : List α) :
    Json.allPlain (items.map f) nesting := by
  induction items with
  | nil => rfl
  | cons item items ih => exact Json.allPlain_cons.2 ⟨h item, ih⟩

theorem Record.isPlain_toJson (record : Record) (nesting : Nat) :
    record.toJson.isPlain (nesting + 3) := by
  have plain (occurrence : Occurrence) : Json.isPlain
      (.list [.text occurrence.label, .text occurrence.link]) (nesting + 1) := rfl
  have h := allPlain_map plain record.occurrences
  simpa [Record.toJson, Json.isPlain, Json.allPlain] using h

/-- Every interpreter has room for what is written of a shard. -/
theorem Shard.isPlain_toJson (shard : Shard) (interpreter : Interpreter) :
    shard.toJson.isPlain interpreter.nesting := by
  obtain ⟨nesting, hn⟩ := Nat.exists_eq_add_of_le' interpreter.four_le_nesting
  rw [hn, Shard.toJson_eq, Json.isPlain]
  exact allPlain_map (fun run => (Record.ofRun run).isPlain_toJson nesting) _

theorem ofJsonItems_eq_map (items : List Json) :
    Part.ofJsonItems items = items.map Part.ofJson := by
  induction items with
  | nil => rfl
  | cons item items ih => rw [Part.ofJsonItems, ih, List.map_cons]

theorem Record.ofData_toJson {record : Record} (h : record.occurrences ≠ [])
    (hf : ∀ occurrence ∈ record.occurrences, occurrence.inFrame = true) :
    Record.ofData (Part.ofJson record.toJson) = .ok record := by
  obtain ⟨name, occurrences⟩ := record
  have back : ∀ occurrence ∈ occurrences,
      Occurrence.ofData (.list [.text occurrence.label, .text occurrence.link]) =
        .ok occurrence := by
    intro occurrence ho
    obtain ⟨label, link, inFrame⟩ := occurrence
    obtain rfl : inFrame = true := hf _ ho
    rfl
  have hm := mapM_map_eq_ok back
  cases occurrences with
  | nil => exact absurd rfl h
  | cons first more =>
    have hp : Part.ofJson (Record.toJson ⟨name, first :: more⟩) =
        .list [.text name, .list ((first :: more).map fun occurrence =>
          .list [.text occurrence.label, .text occurrence.link])] := by
      simp [Record.toJson, Part.ofJson, ofJsonItems_eq_map, Function.comp_def]
    rw [List.map_cons] at hm hp
    rw [hp, Record.ofData, if_neg (by simp [Part.isText]), hm]
    rfl

theorem Format.detect_write (shard : Shard) : Format.detect shard.write = .data "json" := by
  rw [Format.detect, Shard.write, Json.render, String.toList_ofList, Shard.toJson_eq,
    Json.renderChars]
  rfl

theorem decode_write (shard : Shard) (bucket : String) (interpreter : Interpreter) :
    decode bucket shard.write (.data "json") interpreter =
      .ok (shard.runs.map fun run => Part.ofJson (Record.ofRun run).toJson) := by
  rw [decode, Shard.write]
  simp only [Json.read_render (shard.isPlain_toJson interpreter)]
  rw [Shard.toJson_eq, Part.ofJson, ofJsonItems_eq_map, List.map_map]
  rfl

/-! ## What is read again -/

theorem reread_append (position : Nat) (entries others : List Entry) :
    reread position (entries ++ others) = (reread position entries).bind fun again =>
      (reread (position + entries.length) others).map (again ++ ·) := by
  induction entries generalizing position with
  | nil =>
    rw [List.nil_append, reread, List.length_nil, Nat.add_zero]
    cases reread position others <;> rfl
  | cons entry entries ih =>
    have hp : position + 1 + entries.length = position + (entries.length + 1) := by omega
    rw [List.cons_append, reread, reread, ih, List.length_cons, hp]
    generalize reread (position + 1) entries = own
    generalize reread (position + (entries.length + 1)) others = more
    cases entry.again position <;> cases own <;> cases more <;>
      simp [Except.bind, Except.map, List.append_assoc]

theorem Entry.length_again {position : Nat} {entry : Entry} {again : List Entry}
    (h : entry.again position = .ok again) : again.length = 1 := by
  rw [again_eq] at h
  obtain ⟨name, -, h⟩ := exists_of_bind_eq_ok h
  obtain ⟨label, -, rfl⟩ := exists_of_map_eq_ok h
  rfl

theorem length_reread {position : Nat} {entries again : List Entry}
    (h : reread position entries = .ok again) : again.length = entries.length := by
  induction entries generalizing position again with
  | nil => cases h; rfl
  | cons entry entries ih =>
    rw [reread] at h
    obtain ⟨first, hf, h⟩ := exists_of_bind_eq_ok h
    obtain ⟨others, hr, rfl⟩ := exists_of_map_eq_ok h
    rw [List.length_append, Entry.length_again hf, ih hr, List.length_cons, Nat.add_comm]

/-- The entries that are read for a run are those that are read for its entries. -/
theorem entriesOf_ofRun {name again : String} (hr : resolve name = .ok again)
    {entries : List Entry} (hn : ∀ entry ∈ entries, entry.name = name) (position : Nat) :
    entriesOf again position (Record.ofRun (name, entries)).occurrences =
      reread position entries := by
  unfold Record.ofRun
  induction entries generalizing position with
  | nil => rfl
  | cons entry entries ih =>
    obtain ⟨rfl, hs⟩ := List.forall_mem_cons.1 hn
    simp only [List.map_cons, entriesOf_cons, reread, Entry.again_eq, hr, ih hs, Except.bind]
    cases resolve entry.label <;> rfl

namespace Shard

theorem addRecord_ofRun (shard : Shard) {run : String × List Entry} (h : IsRun run) :
    shard.addRecord (Record.ofRun run) =
      (reread shard.entries.length run.2).map fun entries =>
        { shard with entries := shard.entries ++ entries } := by
  obtain ⟨name, entries⟩ := run
  obtain ⟨hne, hn⟩ := h
  unfold addRecord
  cases hr : resolve (Record.ofRun (name, entries)).name with
  | error fault =>
    -- the name of the run is that of its first entry
    cases entries with
    | nil => exact absurd rfl hne
    | cons entry entries =>
      obtain rfl : entry.name = name := hn entry List.mem_cons_self
      have hr : resolve entry.name = .error fault := hr
      simp [reread, Entry.again, hr, Except.bind, Except.map]
  | ok again =>
    have hr : resolve name = .ok again := hr
    simp only [entriesOf_ofRun hr hn]

theorem addParts_runs (shard : Shard) (place : Nat) {runs : List (String × List Entry)}
    (h : ∀ run ∈ runs, IsRun run) :
    shard.addParts (.data "json") place
        (runs.map fun run => Part.ofJson (Record.ofRun run).toJson) =
      (reread shard.entries.length (runs.flatMap (·.2))).map fun entries =>
        { shard with entries := shard.entries ++ entries } := by
  induction runs generalizing shard place with
  | nil => simp [addParts, reread, Except.map]
  | cons run runs ih =>
    obtain ⟨hr, hs⟩ := List.forall_mem_cons.1 h
    have hp : Record.ofPart (.data "json") (Part.ofJson (Record.ofRun run).toJson) =
        .ok (Record.ofRun run) :=
      Record.ofData_toJson (by simpa [Record.ofRun] using hr.1) (by simp [Record.ofRun])
    rw [List.map_cons, addParts, hp]
    simp only
    rw [addRecord_ofRun shard hr, List.flatMap_cons, reread_append]
    cases he : reread shard.entries.length run.2 with
    | error fault => rfl
    | ok again =>
      simp only [Except.map, Except.bind]
      rw [ih _ _ hs, List.length_append, length_reread he]
      cases reread (shard.entries.length + run.2.length) (runs.flatMap (·.2)) <;>
        simp [Except.map]

/-- What is read when a shard was written, whichever shard that is. -/
theorem read_write (shard : Shard) (bucket : String) (interpreter : Interpreter) :
    Shard.read bucket shard.write none interpreter =
      (reread 0 shard.entries).map fun entries => { bucket, entries } := by
  rw [Shard.read]
  simp only [Format.choose, Format.detect_write, decode_write]
  rw [addParts_runs _ _ shard.isRun_of_mem_runs, runs_flatMap]
  rfl

end Shard

/-! ## Shards that were read -/

namespace Anchor

theorem parse_eq (link : String) : Anchor.parse link =
    ⟨String.ofList (link.toList.takeWhile (· ≠ '#')),
      String.ofList ((link.toList.dropWhile (· ≠ '#')).drop 1)⟩ := by
  rw [parse, List.span_eq_takeWhile_dropWhile]

/-- An anchor whose path has no mark of a fragment is read from its link. -/
theorem parse_link {anchor : Anchor} (h : ∀ c ∈ anchor.path.toList, c ≠ '#') :
    Anchor.parse anchor.link = anchor := by
  obtain ⟨path, fragment⟩ := anchor
  have hp : ∀ c ∈ path.toList, decide (c ≠ '#') = true := by simpa using h
  unfold link
  split
  · rename_i he
    obtain rfl : fragment = "" := he
    rw [parse_eq, List.takeWhile_eq_self_iff.2 hp, List.dropWhile_eq_nil_iff.2 hp]
    simp
  · have hl : (path ++ "#" ++ fragment).toList = path.toList ++ '#' :: fragment.toList := by simp
    rw [parse_eq, hl, List.takeWhile_append_of_pos hp, List.dropWhile_append_of_pos hp]
    simp

theorem parse_link_parse (link : String) : Anchor.parse (Anchor.parse link).link =
    Anchor.parse link := by
  apply parse_link
  rw [parse_eq]
  intro c hc
  have := List.mem_takeWhile_imp (by simpa using hc)
  simpa using this

end Anchor

/-- Whether some entries stand at their places, the first one at the place `position`, and their
anchors are read from their links. -/
def Placed : (position : Nat) → List Entry → Prop
  | _, [] => True
  | position, entry :: entries =>
    entry.position = position ∧ Anchor.parse entry.anchor.link = entry.anchor ∧
      Placed (position + 1) entries

theorem placed_append {position : Nat} {entries others : List Entry} :
    Placed position (entries ++ others) ↔
      Placed position entries ∧ Placed (position + entries.length) others := by
  induction entries generalizing position with
  | nil => simp [Placed]
  | cons entry entries ih =>
    have hp : position + 1 + entries.length = position + (entries.length + 1) := by omega
    rw [List.cons_append, Placed, Placed, ih, List.length_cons, hp]
    simp only [and_assoc]

theorem placed_entriesOf {name : String} {position : Nat} {occurrences : List Occurrence}
    {entries : List Entry} (h : entriesOf name position occurrences = .ok entries) :
    Placed position entries := by
  induction occurrences generalizing position entries with
  | nil =>
    cases h
    trivial
  | cons occurrence occurrences ih =>
    rw [entriesOf_cons] at h
    obtain ⟨label, -, h⟩ := exists_of_bind_eq_ok h
    obtain ⟨others, hr, rfl⟩ := exists_of_map_eq_ok h
    exact ⟨rfl, Anchor.parse_link_parse _, ih hr⟩

theorem Shard.placed_addRecord {shard after : Shard} {record : Record}
    (hp : Placed 0 shard.entries) (h : shard.addRecord record = .ok after) :
    Placed 0 after.entries := by
  unfold addRecord at h
  split at h
  · cases h
  · obtain ⟨entries, he, rfl⟩ := exists_of_map_eq_ok h
    refine placed_append.2 ⟨hp, ?_⟩
    rw [Nat.zero_add]
    exact placed_entriesOf he

theorem Shard.placed_addParts {format : Format} {shard after : Shard} {place : Nat}
    {parts : List Part} (hp : Placed 0 shard.entries)
    (h : shard.addParts format place parts = .ok after) : Placed 0 after.entries := by
  fun_induction addParts format shard place parts with
  | case1 =>
    cases h
    exact hp
  | case2 _ _ _ _ _ _ ih => exact ih hp h
  | case3 => cases h
  | case4 _ _ _ _ _ _ _ ha ih => exact ih (placed_addRecord hp ha) h

/-- The entries of a shard that was read stand at their places. -/
theorem Shard.placed_of_read {bucket text : String} {asked : Option String}
    {interpreter : Interpreter} {shard : Shard}
    (h : Shard.read bucket text asked interpreter = .ok shard) : Placed 0 shard.entries := by
  unfold Shard.read at h
  simp only at h
  split at h
  · cases h
  · have hp : Placed 0 ({ bucket } : Shard).entries := trivial
    exact placed_addParts hp h

/-! ## Shards that come back -/

/-- What an entry tells of its symbol, and its place. -/
def Entry.tells (entry : Entry) : String × String × Anchor × Nat :=
  (entry.name, entry.label, entry.anchor, entry.position)

/-- Whether the name and the label of an entry mean themselves. -/
def Entry.MeansItself (entry : Entry) : Prop :=
  resolve entry.name = .ok entry.name ∧ resolve entry.label = .ok entry.label

theorem Entry.again_iff {position : Nat} {entry : Entry} (hp : entry.position = position)
    (ha : Anchor.parse entry.anchor.link = entry.anchor) :
    (∃ again, entry.again position = .ok again ∧ again.map tells = [entry.tells]) ↔
      entry.MeansItself := by
  rw [again_eq, MeansItself]
  cases resolve entry.name with
  | error => simp [Except.bind]
  | ok name =>
    cases resolve entry.label with
    | error => simp [Except.bind, Except.map]
    | ok label => simp [Except.bind, Except.map, tells, ha, hp]

/-- Entries at their places come back if and only if they mean themselves. -/
theorem reread_iff {position : Nat} {entries : List Entry} (h : Placed position entries) :
    (∃ again, reread position entries = .ok again ∧
        again.map Entry.tells = entries.map Entry.tells) ↔
      ∀ entry ∈ entries, entry.MeansItself := by
  -- one entry is read for each, so the entries are compared one by one
  induction entries generalizing position with
  | nil => simp [reread]
  | cons entry entries ih =>
    obtain ⟨hp, ha, hs⟩ := h
    rw [List.forall_mem_cons, ← Entry.again_iff hp ha, ← ih hs, reread]
    constructor
    · rintro ⟨again, hr, ht⟩
      obtain ⟨first, hf, hr⟩ := exists_of_bind_eq_ok hr
      obtain ⟨others, ho, rfl⟩ := exists_of_map_eq_ok hr
      rw [List.map_append, List.map_cons, ← List.singleton_append] at ht
      obtain ⟨hm, hn⟩ := List.append_inj ht (by simp [Entry.length_again hf])
      exact ⟨⟨first, hf, hm⟩, others, ho, hn⟩
    · rintro ⟨⟨first, hf, ht⟩, others, ho, hm⟩
      refine ⟨first ++ others, by rw [hf, ho]; rfl, ?_⟩
      rw [List.map_append, ht, hm, List.singleton_append, List.map_cons]

/-- **A shard comes back as it means itself.** When a shard that was read is written and read once
more, by whatever interpreters, without complaint the same entries come back in the same order if
and only if all names and labels mean themselves. -/
theorem Shard.returns_iff {bucket text : String} {asked : Option String}
    {interpreter other : Interpreter} {shard : Shard}
    (h : Shard.read bucket text asked interpreter = .ok shard) :
    (∃ again, Shard.read bucket shard.write none other = .ok again ∧ again.diagnostics = [] ∧
        again.entries.map Entry.tells = shard.entries.map Entry.tells) ↔
      ∀ entry ∈ shard.entries, entry.MeansItself := by
  rw [← reread_iff (placed_of_read h), read_write]
  constructor
  · rintro ⟨again, hr, -, ht⟩
    obtain ⟨entries, he, rfl⟩ := exists_of_map_eq_ok hr
    exact ⟨entries, he, ht⟩
  · rintro ⟨entries, he, ht⟩
    exact ⟨{ bucket, entries }, by rw [he]; rfl, rfl, ht⟩

/-- A shard of one entry. -/
def Shard.single (entry : Entry) : Shard := { bucket := "symbols_0", entries := [entry] }

theorem Shard.read_write_single {entry : Entry} {again : List Entry}
    (h : entry.again 0 = .ok again) :
    Shard.read "symbols_0" (Shard.single entry).write =
      .ok { bucket := "symbols_0", entries := again } := by
  rw [read_write]
  simp [single, reread, h, Except.bind, Except.map]

/-- An entry with a plain name. -/
def Entry.plain : Entry :=
  { name := "plain", label := "A", anchor := { path := "a.html" }, position := 0 }

/-- A plain name comes back. -/
theorem Shard.returns_of_plain :
    Shard.read "symbols_0" (Shard.single .plain).write = .ok (Shard.single .plain) ∧
      ∃ again, Shard.read "symbols_0" (Shard.single .plain).write = .ok again ∧
        again.diagnostics = [] ∧
        again.entries.map Entry.tells = (Shard.single .plain).entries.map Entry.tells := by
  have again : Entry.plain.again 0 = .ok [.plain] := by decide +kernel
  have h : Shard.read "symbols_0" (Shard.single .plain).write = .ok (Shard.single .plain) :=
    read_write_single again
  refine ⟨h, (returns_iff h).2 ?_⟩
  intro entry he
  obtain rfl := List.mem_singleton.1 he
  exact ⟨by decide +kernel, by decide +kernel⟩

/-- An entry whose name holds a character reference once it is read. -/
def Entry.escaped : Entry :=
  { name := "&amp;amp;", label := "A", anchor := { path := "a.html" }, position := 0 }

/-- A name that looks like a character reference once it is read does not come back. -/
theorem Shard.not_returns_of_reference :
    ∃ shard again,
      Shard.read "symbols_0" "[[\"&amp;amp;\", [[\"A\", \"a.html\"]]]]" = .ok shard ∧
        Shard.read "symbols_0" shard.write = .ok again ∧
        again.entries.map Entry.tells ≠ shard.entries.map Entry.tells := by
  have hw : (Shard.single .escaped).write = "[[\"&amp;amp;\", [[\"A\", \"a.html\"]]]]" := by
    decide +kernel
  let once : Entry :=
    { name := "&amp;", label := "A", anchor := { path := "a.html" }, position := 0 }
  let twice : Entry :=
    { name := "&", label := "A", anchor := { path := "a.html" }, position := 0 }
  have first : Entry.escaped.again 0 = .ok [once] := by decide +kernel
  have second : once.again 0 = .ok [twice] := by decide +kernel
  refine ⟨.single once, .single twice, ?_, read_write_single second, by decide +kernel⟩
  rw [← hw]
  exact read_write_single first

end SymbolLookup

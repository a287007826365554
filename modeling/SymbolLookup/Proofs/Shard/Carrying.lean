import Mathlib.Data.List.Chain
import SymbolLookup.Proofs.Shard.Rereading
/-!
# What written shards carry

The data document of a shard says all that its entries tell of their symbols, character by
character. What reading makes of character references is another matter: it comes after the records
are taken from the document.

## Main definitions

* `Entry.statement`, `Record.statements`: what an entry tells, and what a record says.

## Main results

* `Shard.isChain_runs`: neighbouring runs differ in their names.
* `Shard.carries_write`: the records of a written shard say what its entries tell, in their order.
-/

namespace SymbolLookup

/-- What an entry tells of its symbol: the name, the label and where it is documented. -/
def Entry.statement (entry : Entry) : String × String × Anchor :=
  (entry.name, entry.label, entry.anchor)

/-- What a record says of its symbol, occurrence by occurrence. -/
def Record.statements (record : Record) : List (String × String × Anchor) :=
  record.occurrences.map fun occurrence =>
    (record.name, occurrence.label, Anchor.parse occurrence.link)

theorem isChain_addToRuns {entry : Entry} {runs : List (String × List Entry)}
    (h : runs.IsChain fun run next => run.1 ≠ next.1) :
    (addToRuns entry runs).IsChain fun run next => run.1 ≠ next.1 := by
  cases runs with
  | nil => exact .singleton _
  | cons run runs =>
    rw [addToRuns]
    split
    · -- the run keeps its name, and only its name counts
      cases runs with
      | nil => exact .singleton _
      | cons next runs => exact List.isChain_cons_cons.2 (List.isChain_cons_cons.1 h)
    · exact List.isChain_cons_cons.2 ⟨Ne.symm ‹_›, h⟩

/-- Neighbouring runs differ in their names. -/
theorem Shard.isChain_runs (shard : Shard) :
    shard.runs.IsChain fun run next => run.1 ≠ next.1 := by
  unfold runs
  induction shard.entries with
  | nil => exact .nil
  | cons entry entries ih => exact isChain_addToRuns ih

/-- The record of a run says what the entries of the run tell. -/
theorem Record.statements_ofRun {run : String × List Entry} (h : IsRun run)
    (ha : ∀ entry ∈ run.2, Anchor.parse entry.anchor.link = entry.anchor) :
    (Record.ofRun run).statements = run.2.map Entry.statement := by
  rw [Record.statements, Record.ofRun, List.map_map]
  refine List.map_congr_left fun entry he => ?_
  show (run.1, entry.label, Anchor.parse entry.anchor.link) = entry.statement
  rw [ha entry he, Entry.statement, h.2 entry he]

namespace Shard

variable {shard : Shard}

theorem flatMap_statements (ha : ∀ entry ∈ shard.entries,
    Anchor.parse entry.anchor.link = entry.anchor) :
    (shard.runs.map Record.ofRun).flatMap Record.statements =
      shard.entries.map Entry.statement := by
  rw [← shard.runs_flatMap] at ha ⊢
  rw [List.flatMap_map, List.map_flatMap]
  refine List.flatMap_congr fun run hr => ?_
  exact Record.statements_ofRun (shard.isRun_of_mem_runs run hr) fun entry he =>
    ha entry (List.mem_flatMap.2 ⟨run, hr, he⟩)

/-- The parts of a written shard are the records of its runs. -/
theorem mapM_ofData_runs (shard : Shard) :
    (shard.runs.map fun run => Part.ofJson (Record.ofRun run).toJson).mapM Record.ofData =
      .ok (shard.runs.map Record.ofRun) := by
  rw [mapM_eq_ok_iff, List.forall₂_map_left_iff, List.forall₂_map_right_iff, List.forall₂_same]
  intro run hr
  apply Record.ofData_toJson
  · simpa [Record.ofRun] using (shard.isRun_of_mem_runs run hr).1
  · simp [Record.ofRun]

/-- **A written shard says all that its entries tell.** Its document is taken apart into parts that
are records, no two neighbours of one name, and these say what the entries tell, in their order,
whatever characters names, labels and links are made of. -/
theorem carries_write (h : ∀ entry ∈ shard.entries, ∃ link, entry.anchor = Anchor.parse link)
    (bucket : String) (interpreter : Interpreter) :
    ∃ parts records, decode bucket shard.write (.data "json") interpreter = .ok parts ∧
      parts.mapM Record.ofData = .ok records ∧
      (records.IsChain fun record next => record.name ≠ next.name) ∧
      records.flatMap Record.statements = shard.entries.map Entry.statement := by
  refine ⟨_, _, decode_write shard bucket interpreter, shard.mapM_ofData_runs, ?_,
    flatMap_statements ?_⟩
  · exact (List.isChain_map _).2 shard.isChain_runs
  · intro entry he
    obtain ⟨link, hl⟩ := h entry he
    rw [hl, Anchor.parse_link_parse]

/-- Names, labels and links with quotes, backslashes, control characters and references; two runs of
one name; and links without, with an empty and with a doubled mark of a fragment. -/
def awkwardRows : List (String × String × String) :=
  [("\"\\\n", "&amp;\u0000", "a.html"), ("\"\\\n", "", "#"), ("", "[", ""),
    ("\"\\\n", "\u2028😀", "a\"#b#c")]

/-- A shard of awkward texts. -/
def awkward : Shard where
  bucket := "symbols_0"
  entries := awkwardRows.zipIdx.map fun row =>
    { name := row.1.1, label := row.1.2.1, anchor := Anchor.parse row.1.2.2, position := row.2 }

/-- All of it is said. -/
theorem carries_write_of_awkward :
    (∀ entry ∈ awkward.entries, ∃ link, entry.anchor = Anchor.parse link) ∧
      awkward.runs.length = 3 ∧
      ∃ parts records, decode "symbols_0" awkward.write (.data "json") = .ok parts ∧
        parts.mapM Record.ofData = .ok records ∧
        (records.IsChain fun record next => record.name ≠ next.name) ∧
        records.flatMap Record.statements = awkward.entries.map Entry.statement := by
  have h : ∀ entry ∈ awkward.entries, ∃ link, entry.anchor = Anchor.parse link := by
    intro entry he
    obtain ⟨row, -, rfl⟩ := List.mem_map.1 he
    exact ⟨_, rfl⟩
  exact ⟨h, by decide +kernel, carries_write h "symbols_0" {}⟩

end Shard

end SymbolLookup

import SymbolLookup.Proofs.Bundle.Packing
import SymbolLookup.Proofs.Desk.Exchange
/-!
# Bundles in the place of their sources

Nobody who looks something up can tell a bundle from the source of which it was packed.

## Main definitions

* `Opening.settle`: the mode and the index that an opening comes to.
* `Supply.Indistinct`: whether desks over two supplies cannot be told apart by their answers.

## Main results

* `Source.SameStock.indistinct`: sources that tell the same of their buckets are indistinct.
* `pack_indistinct`: a source that is packed and the bundle in the file are indistinct.

## Design notes

A desk may be opened for an index that its source does not have, if the source has none at all. The
alphabets of such an index may differ, which makes no difference as it has no buckets.
-/

namespace SymbolLookup

/-! ## Opening desks -/

/-- The mode and the index that an opening comes to among some indexes. -/
def Opening.settle (opening : Opening) (indexes : List String) : Except Fault (Mode × String) := do
  let mode ← Mode.check (orElse opening.mode opening.settings.mode)
  let index ← chooseIndex (orElse opening.index opening.settings.index) indexes
  if opening.loadsAtOnce ≤ 0 then throw .noWorkers
  return (mode, index)

theorem Mode.check_eq_error {name : String} {fault : Fault} (h : Mode.check name = .error fault) :
    ∃ cause, fault = .config cause := by
  unfold check at h
  simp only at h
  split at h <;> cases h
  exact ⟨_, rfl⟩

theorem chooseIndex_eq_error {wanted : String} {available : List String} {fault : Fault}
    (h : chooseIndex wanted available = .error fault) : ∃ cause, fault = .config cause := by
  unfold chooseIndex at h
  split at h
  · cases h
  · split at h <;> cases h
    exact ⟨_, rfl⟩

/-- The index is one of those there are, if there are any. -/
theorem chooseIndex_eq_ok {wanted index : String} {available : List String}
    (h : chooseIndex wanted available = .ok index) : index ∈ available ∨ available = [] := by
  unfold chooseIndex at h
  split at h
  · cases h
    exact .inl (List.contains_iff_mem.1 ‹_›)
  · split at h <;> cases h
    · exact .inr rfl
    · exact .inl List.mem_cons_self

namespace Opening

variable {opening : Opening} {indexes : List String}

/-- Openings that let loads run fail for nothing but their choices. -/
theorem settle_eq_error {fault : Fault} (h : opening.settle indexes = .error fault)
    (hl : 0 < opening.loadsAtOnce) : ∃ cause, fault = .config cause := by
  simp only [settle, bind, Except.bind, pure, Except.pure] at h
  split at h
  · cases h
    exact Mode.check_eq_error ‹_›
  · split at h
    · cases h
      exact chooseIndex_eq_error ‹_›
    · rw [if_neg (by omega)] at h
      cases h

theorem settle_eq_ok {mode : Mode} {index : String}
    (h : opening.settle indexes = .ok (mode, index)) : index ∈ indexes ∨ indexes = [] := by
  simp only [settle, bind, Except.bind, pure, Except.pure] at h
  split at h
  · cases h
  · split at h
    · cases h
    · split at h
      · cases h
      · cases h
        exact chooseIndex_eq_ok ‹_›

end Opening

namespace Desk

variable {supply : Supply} {opening : Opening} {indexes : List String}

/-- A supply that knows its indexes and their partitions is refused for what the opening comes
to. -/
theorem ofSupply_of_settle_error {fault : Fault} (hi : supply.indexes = .ok indexes)
    (hp : ∀ index, ∃ partition, supply.partition index = .ok partition)
    (h : opening.settle indexes = .error fault) : ofSupply supply opening = .error fault := by
  simp only [Opening.settle, ofSupply, bind, Except.bind, hi] at h ⊢
  split at h
  · cases h
    rfl
  · split at h
    · cases h
      rfl
    · rename_i index _
      obtain ⟨partition, hp⟩ := hp index
      simp only [hp]
      split at h
      · rw [if_pos ‹_›]
        cases h
        rfl
      · cases h

theorem ofSupply_of_settle_ok {mode : Mode} {index : String} {partition : Partition}
    {buckets : List String} (hi : supply.indexes = .ok indexes)
    (hp : supply.partition index = .ok partition) (hb : supply.bucketIds index = .ok buckets)
    (h : opening.settle indexes = .ok (mode, index)) :
    ofSupply supply opening =
      .ok { supply, index, mode, partition, rules := opening.rules
            interpreter := opening.interpreter } := by
  simp only [Opening.settle, ofSupply, bind, Except.bind, hi] at h ⊢
  split at h
  · cases h
  · split at h
    · cases h
    · split at h
      · cases h
      · cases h
        simp only [hp, hb]
        rw [if_neg ‹_›]
        rfl

end Desk

/-! ## Looking things up -/

/-- Whether desks over two supplies cannot be told apart by their answers. Both are refused for the
same fault, which lies in the choices made if loads are let run at all; or both are opened and give
the same answers to all queries, however many are asked one after the other, and each answer is a
result if its limit can be read. -/
def Supply.Indistinct (supply other : Supply) : Prop :=
  ∀ opening : Opening,
    (∃ fault, Desk.ofSupply supply opening = .error fault ∧
      Desk.ofSupply other opening = .error fault ∧
      (0 < opening.loadsAtOnce → ∃ cause, fault = .config cause)) ∨
    ∃ desk twin, Desk.ofSupply supply opening = .ok desk ∧
      Desk.ofSupply other opening = .ok twin ∧
      ∀ turns asked, desk.answers turns asked = twin.answers turns asked ∧
        ((∀ query ∈ asked, ∃ count, readLimit query.2 = .ok count) →
          ∀ answer ∈ desk.answers turns asked, ∃ result, answer = .ok result)

@[simp] theorem candidates_nil (key : String) (partition : Partition) (mode : Mode) :
    candidates key [] partition mode = [] := by
  unfold candidates
  split
  · rfl
  · cases mode <;> rfl

namespace Source.SameStock

variable {files others : Files} {source other : Source} {indexes : List String}

/-- A desk over one of two sources that tell the same of their buckets may be put over the other. -/
theorem exchangeable (h : SameStock files source others other indexes) {opening : Opening}
    {mode : Mode} {index : String} (hs : opening.settle indexes = .ok (mode, index))
    {partition more : Partition} (hp : source.partition index = .ok partition)
    (hq : other.partition index = .ok more) (rules : List Rule) (interpreter : Interpreter) :
    ∃ buckets, Desk.Exchangeable
      { supply := { source, files }, index, mode, partition, rules, interpreter }
      { source := other, files := others } more buckets := by
  obtain ⟨buckets, hb, hc, he⟩ := h.buckets index
  refine ⟨buckets, ⟨rfl, rfl, h.fetch⟩, hb, hc, fun key => ?_⟩
  -- the partitions differ only where there is nothing to be found
  obtain hm | rfl := Opening.settle_eq_ok hs
  · obtain ⟨same, hf, hg⟩ := h.partition index hm
    cases hf.symm.trans hp
    cases hg.symm.trans hq
    rfl
  · rw [he (by simp), candidates_nil, candidates_nil]

/-- Sources that tell the same of their buckets are indistinct. -/
theorem indistinct (h : SameStock files source others other indexes) :
    Supply.Indistinct { source, files } { source := other, files := others } := by
  intro opening
  have hi : Supply.indexes { source, files } = .ok indexes := h.listed.1
  have hj : Supply.indexes { source := other, files := others } = .ok indexes := h.listed.2
  cases hs : opening.settle indexes with
  | error fault =>
    left
    refine ⟨fault, Desk.ofSupply_of_settle_error hi (fun index => ?_) hs,
      Desk.ofSupply_of_settle_error hj (fun index => ?_) hs, Opening.settle_eq_error hs⟩
    · obtain ⟨partition, _, hp, -⟩ := h.total index
      exact ⟨partition, hp⟩
    · obtain ⟨_, partition, -, hp⟩ := h.total index
      exact ⟨partition, hp⟩
  | ok settled =>
    right
    obtain ⟨mode, index⟩ := settled
    obtain ⟨partition, more, hp, hq⟩ := h.total index
    obtain ⟨buckets, he⟩ := h.exchangeable hs hp hq opening.rules opening.interpreter
    have hd := Desk.ofSupply_of_settle_ok hi hp he.listed hs
    have ht := Desk.ofSupply_of_settle_ok hj hq he.others hs
    refine ⟨_, _, hd, ht, fun turns asked => ⟨(Desk.answers_restocked he turns asked).symm, ?_⟩⟩
    have fresh : Agenda.Uncancelled
        { desk := { supply := { source, files }, index, mode, partition, rules := opening.rules
                    interpreter := opening.interpreter }
          tasks := [] } := ⟨by simp, nofun⟩
    exact (Course.opened hd).answers_ok rfl rfl fresh he.listed turns

end Source.SameStock

/-! ## Packing into a file -/

/-- A draft that takes the place of the target is there afterwards. -/
theorem publish_eq_ok {files after : Files} {draft target : Path} {content bundle : Bundle}
    (h : publish files draft target content = (.ok bundle, after)) :
    bundle = content ∧ after.node? target.names = some (.bundle bundle) := by
  unfold publish at h
  simp only at h
  split at h
  · cases h
  · rename_i hd
    cases h
    refine ⟨rfl, ?_⟩
    -- no file is put in the place of the root
    have hn : target.names ≠ [] := by
      intro hn
      simp [Files.hasDirectory, Files.node?, hn] at hd
    rw [Files.node?, if_neg hn, Files.put, Keyed.get?_put_self]

/-- What is packed is what the supply gives, and it is in the file at the target afterwards. -/
theorem pack_eq_ok {files : Files} {supply : Supply} {target : Path} {bundle : Bundle}
    (h : (pack files supply target).result = .ok bundle) :
    (∃ rest, Bundle.ofSupply supply = (.ok bundle, rest)) ∧
      (pack files supply target).files.node? target.names = some (.bundle bundle) := by
  have into (files : Files) (h : (packInto files supply
      (target.withEnding draftEnding) target).result = .ok bundle) :
      (∃ rest, Bundle.ofSupply supply = (.ok bundle, rest)) ∧
        (packInto files supply (target.withEnding draftEnding) target).files.node? target.names =
          some (.bundle bundle) := by
    unfold packInto at h ⊢
    split at h
    · rename_i content rest hs
      generalize hp : publish files (target.withEnding draftEnding) target content = published
        at h
      obtain ⟨result, after⟩ := published
      obtain rfl : result = .ok bundle := h
      obtain ⟨rfl, hn⟩ := publish_eq_ok hp
      refine ⟨⟨rest, hs⟩, ?_⟩
      simpa only [hs, hp] using hn
    · cases h
  unfold pack at h ⊢
  simp only at h ⊢
  split at h
  · cases h
  · split at h
    · rw [if_pos ‹_›]
      exact into _ h
    · rw [if_neg ‹_›]
      split at h
      · cases h
      · exact into _ h

/-- **A bundle takes the place of its source.** The bundle that is left in the file tells the same
indexes as the source of which it was packed, and for each of them the same partition and the same
buckets in the same order, with the same documents. Whoever looks something up in either gets the
same answers, as long as the documents of the source stay as they were. -/
theorem pack_indistinct {source : Source} (hs : source.IsUnpacked) {files : Files} {target : Path}
    {bundle : Bundle} (h : (pack files { source, files } target).result = .ok bundle) :
    (pack files { source, files } target).files.node? target.names = some (.bundle bundle) ∧
      (∃ indexes, source.indexes = .ok indexes ∧
        (Source.bundle (some bundle)).indexes = .ok indexes ∧
        ∀ index ∈ indexes,
          (∃ partition, source.partition index = .ok partition ∧
            (Source.bundle (some bundle)).partition index = .ok partition) ∧
          ∃ buckets, source.bucketIds index = .ok buckets ∧
            (Source.bundle (some bundle)).bucketIds index = .ok buckets ∧
            ∀ bucket ∈ buckets, ∃ document, source.fetch files bucket = .ok (some document) ∧
              ∀ later, Source.fetch later (.bundle (some bundle)) bucket = .ok (some document)) ∧
      ∀ later, (∀ bucket, source.fetch later bucket = source.fetch files bucket) →
        Supply.Indistinct { source := .bundle (some bundle), files := later }
          { source, files := later } := by
  obtain ⟨⟨rest, hp⟩, hn⟩ := pack_eq_ok h
  obtain ⟨names, hs⟩ := hs.stocks files
  obtain ⟨indexes, hi, ho, rfl, hf⟩ := Bundle.ofSupply_eq_ok hs hp
  have same := Source.sameStock_packed hs hi ho hf
  refine ⟨hn, ⟨indexes, hi, (same files).listed.1, fun index hm => ⟨?_, ?_⟩⟩, ?_⟩
  · obtain ⟨partition, hb, hp⟩ := (same files).partition index hm
    exact ⟨partition, hp, hb⟩
  · obtain ⟨buckets, hb, hc, -⟩ := (same files).buckets index
    refine ⟨buckets, hc, hb, fun bucket hm => ?_⟩
    have hk := (hs.buckets index).trans (bucketsOf_eq_ok ho.parsed index)
    cases hc.symm.trans hk
    have hd := hf bucket (mem_stock.1 hm).1
    exact ⟨_, hd, fun later => ((same later).fetch bucket).trans hd⟩
  · intro later hl
    exact ((same later).moved hl).indistinct

/-- Two indexes in memory, one with an alphabet of its own and one with two buckets of one ordinal,
are packed into a new file. -/
theorem pack_indistinct_of_sample :
    let documents := [("symbols_01", "[]"), ("my_files_0", "{}"), ("symbols_1", "")]
    let source : Source := .memory documents [("my_files", "xyz")]
    let bundle : Bundle :=
      { sections := [("my_files", "xyz"), ("symbols", defaultAlphabet)]
        rows := [("my_files_0", ⟨"my_files", "{}"⟩), ("symbols_01", ⟨"symbols", "[]"⟩),
          ("symbols_1", ⟨"symbols", ""⟩)] }
    source.IsUnpacked ∧ (pack [] { source } { names := ["symbols.bundle"] }).result = .ok bundle ∧
      (Source.bundle (some bundle)).bucketIds "symbols" = .ok ["symbols_01", "symbols_1"] ∧
      Supply.Indistinct { source := .bundle (some bundle) } { source } := by
  intro documents source bundle
  have unpacked : source.IsUnpacked := .memory (by decide)
  have parsed : (Keyed.keys documents).mapM BucketId.parse =
      .ok [⟨"symbols", 1⟩, ⟨"my_files", 0⟩, ⟨"symbols", 1⟩] := by decide +kernel
  have parse : ∀ name ∈ Keyed.keys documents, ∃ id, BucketId.parse name = .ok id :=
    (mem_iff_of_mapM_eq_ok parsed).1
  have sorted : ["symbols", "my_files"].mergeSort (fun a b => a ≤ b) = ["my_files", "symbols"] := by
    simp [List.mergeSort]
  have indexes : Supply.indexes { source } = .ok ["my_files", "symbols"] := by
    have told : Supply.indexes { source } = indexesOf (Keyed.keys documents) := rfl
    rw [told, indexesOf, parsed, ← sorted]
    rfl
  -- buckets of one ordinal are left as they stood
  have level : stock (Keyed.keys documents) "symbols" = ["symbols_01", "symbols_1"] :=
    List.mergeSort_of_pairwise (by decide +kernel)
  have single : stock (Keyed.keys documents) "my_files" = ["my_files_0"] :=
    List.mergeSort_of_pairwise (by decide +kernel)
  have symbols : Supply.bucketIds { source } "symbols" = .ok ["symbols_01", "symbols_1"] :=
    (bucketsOf_eq_ok parse "symbols").trans (congrArg Except.ok level)
  have files : Supply.bucketIds { source } "my_files" = .ok ["my_files_0"] :=
    (bucketsOf_eq_ok parse "my_files").trans (congrArg Except.ok single)
  let half : Bundle :=
    { sections := [("my_files", "xyz")], rows := [("my_files_0", ⟨"my_files", "{}"⟩)] }
  have packed : (pack [] { source } { names := ["symbols.bundle"] }).result = .ok bundle := by
    have partition : Supply.partition { source } "symbols" = .ok { index := "symbols" } := rfl
    have custom : Supply.partition { source } "my_files" =
      .ok { index := "my_files", alphabet := "xyz" } := rfl
    have first : Bundle.copyBuckets "my_files" (Bundle.addSection {} "my_files" "xyz") { source }
        ["my_files_0"] = (.ok half, { source }) := rfl
    have second : Bundle.copyBuckets "symbols" (half.addSection "symbols" defaultAlphabet)
        { source } ["symbols_01", "symbols_1"] = (.ok bundle, { source }) := rfl
    have supplied : Bundle.ofSupply { source } = (.ok bundle, { source }) := by
      simp only [Bundle.ofSupply, indexes, Bundle.copyIndexes, symbols, files, partition, custom,
        first, second]
    simp only [pack, packInto, supplied]
    rfl
  obtain ⟨-, ⟨names, hi, -, told⟩, same⟩ := pack_indistinct unpacked packed
  cases hi.symm.trans indexes
  obtain ⟨-, buckets, hb, hc, -⟩ := told "symbols" (by decide)
  cases hb.symm.trans symbols
  exact ⟨unpacked, packed, hc, same [] fun _ => rfl⟩

end SymbolLookup

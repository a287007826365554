import SymbolLookup.Bundle.Build
import SymbolLookup.Proofs.Source.Stock
/-!
# What packing copies

A bundle holds what its source told when it was packed: the indexes with their alphabets, and the
documents of all buckets.

## Main definitions

* `Source.packed`: the bundle of a source.
* `Source.SameStock`: whether two sources tell the same of their buckets.

## Main results

* `Bundle.ofSupply_eq_ok`: which bundle comes of packing.
* `Source.sameStock_packed`: the bundle tells the same as its source.

## Design notes

The indexes of a source are told by the names of its buckets, and those of a bundle by its
alphabets. An index that no bucket belongs to may have an alphabet in the source, which the bundle
does not have then.
-/

namespace SymbolLookup

/-! ## Packing -/

namespace Source

/-- The document of a bucket; empty if it cannot be fetched. -/
def document (files : Files) (source : Source) (bucket : String) : String :=
  match source.fetch files bucket with
  | .ok (some document) => document
  | _ => ""

/-- The row of a bundle for a bucket of an index. -/
def row (files : Files) (source : Source) (index bucket : String) : String × Row :=
  (bucket, ⟨index, source.document files bucket⟩)

/-- The bundle with some indexes of a source that has some buckets. -/
def packed (files : Files) (source : Source) (names indexes : List String) : Bundle where
  sections := indexes.map fun index => (index, source.alphabet index)
  rows := indexes.flatMap fun index => (stock names index).map (source.row files index)

/-- Whether the document of a bucket is fetched. -/
def Brings (files : Files) (source : Source) (bucket : String) : Prop :=
  source.fetch files bucket = .ok (some (source.document files bucket))

end Source

namespace Bundle

variable {source : Source} {files : Files} {bundle after : Bundle} {supply : Supply}

/-- The documents of some buckets are copied one after the other. -/
theorem copyBuckets_eq_ok {index : String} {buckets : List String}
    (hl : ∀ bucket ∈ buckets, source.fetch files bucket ≠ .ok none)
    (hn : (Keyed.keys bundle.rows ++ buckets).Nodup)
    (h : copyBuckets index bundle { source, files } buckets = (.ok after, supply)) :
    supply = { source, files } ∧ (∀ bucket ∈ buckets, source.Brings files bucket) ∧
      after = { bundle with rows := bundle.rows ++ buckets.map (source.row files index) } := by
  induction buckets generalizing bundle with
  | nil =>
    cases h
    simp
  | cons bucket buckets ih =>
    obtain ⟨hb, hl⟩ := List.forall_mem_cons.1 hl
    have hf : Supply.fetch { source, files } bucket =
      (source.fetch files bucket, { source, files }) := rfl
    rw [copyBuckets, hf] at h
    split at h
    · cases h
    · rename_i he
      exact absurd (Prod.mk.inj he).1 hb
    · rename_i document rest he
      obtain ⟨hd, rfl⟩ := Prod.mk.inj he
      have hw : source.document files bucket = document := by rw [Source.document, hd]
      -- the row is new, so it is put behind the others
      have hk : bucket ∉ Keyed.keys bundle.rows := not_mem_of_nodup_append hn
      split at h
      · cases h
      · rename_i id _
        unfold addRow at h
        split at h
        · cases h
        · rename_i added ha
          split at ha
          · cases ha
            rw [Keyed.put_of_not_mem _ hk] at h
            obtain ⟨hs, ho, rfl⟩ := ih hl (by simpa [Keyed.keys] using hn) h
            refine ⟨hs, List.forall_mem_cons.2 ⟨?_, ho⟩, ?_⟩
            · rw [Source.Brings, hw, hd]
            · simp [Source.row, hw]
          · cases ha

/-- The indexes are copied one after the other. -/
theorem copyIndexes_eq_ok {names indexes : List String} (hs : source.Stocks files names)
    (hp : ∀ name ∈ names, ∃ id, BucketId.parse name = .ok id)
    (hn : (Keyed.keys bundle.sections ++ indexes).Nodup)
    (hr : (Keyed.keys bundle.rows ++ indexes.flatMap (stock names)).Nodup)
    (h : copyIndexes bundle { source, files } indexes = (.ok after, supply)) :
    (∀ index ∈ indexes, ∀ bucket ∈ stock names index, source.Brings files bucket) ∧
      after.sections = bundle.sections ++ (source.packed files names indexes).sections ∧
      after.rows = bundle.rows ++ (source.packed files names indexes).rows := by
  induction indexes generalizing bundle with
  | nil =>
    cases h
    simp [Source.packed]
  | cons index indexes ih =>
    have hw : Supply.partition { source, files } index = source.partition index := rfl
    have hi : Supply.bucketIds { source, files } index = source.bucketIds index := rfl
    rw [copyIndexes, hw, hs.partition, hi, hs.buckets, bucketsOf_eq_ok hp] at h
    simp only at h
    split at h
    · cases h
    · rename_i middle rest hc
      have hl : ∀ bucket ∈ stock names index, source.fetch files bucket ≠ .ok none :=
        fun bucket hb => hs.listed bucket (mem_stock.1 hb).1
      have hk : index ∉ Keyed.keys bundle.sections := not_mem_of_nodup_append hn
      rw [addSection, Keyed.put_of_not_mem _ hk] at hc
      rw [List.flatMap_cons, ← List.append_assoc] at hr
      have hf : (Keyed.keys (⟨bundle.sections ++ [(index, source.alphabet index)], bundle.rows⟩ :
          Bundle).rows ++ stock names index).Nodup := (List.nodup_append.1 hr).1
      obtain ⟨rfl, hb, rfl⟩ := copyBuckets_eq_ok hl hf hc
      obtain ⟨ho, he, hm⟩ := ih (by simpa [Keyed.keys] using hn)
        (by simpa [Keyed.keys, Source.row, Function.comp_def] using hr) h
      refine ⟨List.forall_mem_cons.2 ⟨hb, ho⟩, ?_, ?_⟩
      · rw [he]
        simp [Source.packed]
      · rw [hm]
        simp [Source.packed]

end Bundle

/-- A source that has some buckets is packed into the bundle of all its indexes. -/
theorem Bundle.ofSupply_eq_ok {source : Source} {files : Files} {names : List String}
    (hs : source.Stocks files names) {bundle : Bundle} {supply : Supply}
    (h : Bundle.ofSupply { source, files } = (.ok bundle, supply)) :
    ∃ indexes, source.indexes = .ok indexes ∧ IndexesOf names indexes ∧
      bundle = source.packed files names indexes ∧
      ∀ name ∈ names, source.Brings files name := by
  have hi : Supply.indexes { source, files } = source.indexes := rfl
  unfold ofSupply at h
  rw [hi] at h
  split at h
  · cases h
  · rename_i indexes he
    have ho := indexesOf_eq_ok (hs.indexes.symm.trans he)
    -- nothing is put in the place of anything else while all is copied
    have hn : (Keyed.keys ({} : Bundle).sections ++ indexes).Nodup := ho.nodup
    have hr : (Keyed.keys ({} : Bundle).rows ++ indexes.flatMap (stock names)).Nodup :=
      nodup_flatMap_stock hs.nodup ho.nodup
    obtain ⟨hb, hc, hd⟩ := copyIndexes_eq_ok hs ho.parsed hn hr h
    refine ⟨indexes, he, ho, ?_, ?_⟩
    · obtain ⟨sections, rows⟩ := bundle
      simp only [List.nil_append] at hc hd
      rw [hc, hd]
    · intro name hn
      obtain ⟨index, hi, hm⟩ := ho.exists_mem hn
      exact hb index hi name (mem_stock.2 ⟨hn, hm⟩)

/-! ## Bundles that were packed -/

namespace Source

variable {source : Source} {files : Files} {names indexes : List String}

theorem keys_sections_packed :
    Keyed.keys (source.packed files names indexes).sections = indexes := by
  simp [packed, Keyed.keys, Function.comp_def]

theorem keys_rows_packed :
    Keyed.keys (source.packed files names indexes).rows = indexes.flatMap (stock names) := by
  simp [packed, Keyed.keys, row, List.map_flatMap, Function.comp_def]

theorem indexes_packed (h : IndexesOf names indexes) :
    (source.packed files names indexes).indexes = indexes := by
  rw [Bundle.indexes, keys_sections_packed, h.sorted]

theorem partition_packed {index : String} (h : index ∈ indexes) :
    (source.packed files names indexes).partition index =
      { index, alphabet := source.alphabet index } := by
  have hk : Keyed.get? index (source.packed files names indexes).sections ≠ none := by
    rw [Ne, Keyed.get?_eq_none, keys_sections_packed]
    exact not_not_intro h
  obtain ⟨alphabet, ha⟩ := Option.ne_none_iff_exists'.1 hk
  obtain ⟨_, -, he⟩ := List.mem_map.1 (Keyed.mem_of_get? ha)
  cases he
  rw [Bundle.partition, ha, Option.getD_some]

theorem bucketsIn_packed (h : IndexesOf names indexes) (index : String) :
    (source.packed files names indexes).bucketsIn index = stock names index := by
  -- the rows of an index stand together, since no index comes twice
  have all : ∀ all : List String, all.Nodup →
      ((all.flatMap fun index => (stock names index).map (source.row files index)).filter
        fun row => row.2.index == index).map (·.1) =
        if index ∈ all then stock names index else [] := by
    intro all hn
    induction all with
    | nil => rfl
    | cons first all ih =>
      obtain ⟨hf, hn⟩ := List.nodup_cons.1 hn
      rw [List.flatMap_cons, List.filter_append, List.map_append, ih hn]
      by_cases hi : first = index
      · subst hi
        rw [if_neg hf, if_pos List.mem_cons_self, List.append_nil]
        simp [row, List.filter_map, Function.comp_def]
      · simp [row, List.filter_map, Function.comp_def, hi, Ne.symm hi]
  have hb : (source.packed files names indexes).bucketsIn index =
      sortBuckets (if index ∈ indexes then stock names index else []) :=
    congrArg sortBuckets (all indexes h.nodup)
  rw [hb]
  split
  · exact sortBuckets_stock names index
  · rename_i hi
    have hs : stock names index = [] := by
      rw [List.eq_nil_iff_forall_not_mem]
      intro name hn
      obtain ⟨hn, hb⟩ := mem_stock.1 hn
      exact hi ((h.mem index).2 ⟨name, hn, hb⟩)
    rw [hs, sortBuckets, List.mergeSort_nil]

/-- The documents of all buckets are copied, and no others. -/
theorem document?_packed (h : IndexesOf names indexes) (bucket : String) :
    (source.packed files names indexes).document? bucket =
      if bucket ∈ names then some (source.document files bucket) else none := by
  have hm : bucket ∈ Keyed.keys (source.packed files names indexes).rows ↔ bucket ∈ names := by
    rw [keys_rows_packed, List.mem_flatMap]
    constructor
    · rintro ⟨index, -, hs⟩
      exact (mem_stock.1 hs).1
    · intro hn
      obtain ⟨index, hi, hb⟩ := h.exists_mem hn
      exact ⟨index, hi, mem_stock.2 ⟨hn, hb⟩⟩
  unfold Bundle.document?
  split
  · rename_i hn
    have hk := mt Keyed.get?_eq_none.1 (not_not_intro (hm.2 hn))
    obtain ⟨found, hf⟩ := Option.ne_none_iff_exists'.1 hk
    obtain ⟨index, -, hr⟩ := List.mem_flatMap.1 (Keyed.mem_of_get? hf)
    obtain ⟨other, -, he⟩ := List.mem_map.1 hr
    cases he
    rw [hf]
    rfl
  · rename_i hn
    rw [Keyed.get?_eq_none.2 (mt hm.1 hn)]
    rfl

/-- Whether two sources tell the same of their buckets, when each is read among some files. -/
structure SameStock (files : Files) (source : Source) (others : Files) (other : Source)
    (indexes : List String) : Prop where
  listed : source.indexes = .ok indexes ∧ other.indexes = .ok indexes
  buckets : ∀ index, ∃ buckets, source.bucketIds index = .ok buckets ∧
    other.bucketIds index = .ok buckets ∧ (index ∉ indexes → buckets = [])
  partition : ∀ index ∈ indexes, ∃ partition, source.partition index = .ok partition ∧
    other.partition index = .ok partition
  /-- Both know a partition for the indexes too that they do not have. -/
  total : ∀ index, ∃ partition more, source.partition index = .ok partition ∧
    other.partition index = .ok more
  fetch : ∀ bucket, source.fetch files bucket = other.fetch others bucket

/-- The files of a source may change as long as its documents do not. -/
theorem SameStock.moved {files others later : Files} {source other : Source} {indexes : List String}
    (h : SameStock files source others other indexes)
    (hl : ∀ bucket, other.fetch later bucket = other.fetch others bucket) :
    SameStock files source later other indexes where
  listed := h.listed
  buckets := h.buckets
  partition := h.partition
  total := h.total
  fetch bucket := (h.fetch bucket).trans (hl bucket).symm

/-- A bundle tells the same as the source of which it was packed. -/
theorem sameStock_packed (hs : source.Stocks files names) (hi : source.indexes = .ok indexes)
    (h : IndexesOf names indexes) (hf : ∀ name ∈ names, source.Brings files name)
    (others : Files) : SameStock others (.bundle (some (source.packed files names indexes))) files
      source indexes where
  listed := ⟨congrArg Except.ok (indexes_packed h), hi⟩
  buckets index := by
    refine ⟨stock names index, congrArg Except.ok (bucketsIn_packed h index),
      (hs.buckets index).trans (bucketsOf_eq_ok h.parsed index), ?_⟩
    intro hn
    rw [List.eq_nil_iff_forall_not_mem]
    intro name hm
    obtain ⟨hm, hb⟩ := mem_stock.1 hm
    exact hn ((h.mem index).2 ⟨name, hm, hb⟩)
  partition index hm :=
    ⟨_, congrArg Except.ok (partition_packed hm), hs.partition index⟩
  total index := ⟨_, _, rfl, hs.partition index⟩
  fetch bucket := by
    have hd : Source.fetch others (.bundle (some (source.packed files names indexes))) bucket =
      .ok ((source.packed files names indexes).document? bucket) := rfl
    rw [hd, document?_packed h]
    split
    · exact (hf bucket ‹_›).symm
    · exact (hs.unlisted bucket ‹_›).symm

end Source

end SymbolLookup

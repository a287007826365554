import SymbolLookup.Proofs.Lists
import SymbolLookup.Source.Address
import SymbolLookup.Source.Supply
/-!
# The stock of a source

Sources in memory and in folders know their buckets by name, and sort them into indexes by these
names.

## Main definitions

* `Belongs`: whether a bucket belongs to an index by its name.
* `Source.IsUnpacked`: whether a source is memory or a folder.
* `Source.Stocks`: what such a source tells of the buckets that it has.

## Main results

* `bucketLe_trans`, `bucketLe_total`: buckets are sorted by an order.
* `indexesOf_eq_ok`: what the indexes of some buckets are.
* `Source.isUnpacked_ofAddress`: which sources are memory or folders.
* `Source.IsUnpacked.stocks`: both tell of their buckets alike.

## Design notes

A folder has a file for each of its buckets, but the file may be gone when its document is fetched.
A fetch fails then, which is not the same as that there is no document.
-/

namespace SymbolLookup

/-! ## The order of buckets -/

theorem bucketLe_iff {a b : String} : bucketLe a b = true ↔
    (bucketOrder a).1 < (bucketOrder b).1 ∨
      (bucketOrder a).1 = (bucketOrder b).1 ∧ (bucketOrder a).2 ≤ (bucketOrder b).2 := by
  simp [bucketLe]

theorem bucketLe_trans (a b c : String) (h : bucketLe a b = true) (hc : bucketLe b c = true) :
    bucketLe a c = true := by
  rw [bucketLe_iff] at h hc ⊢
  obtain h | ⟨h, hn⟩ := h
  · obtain hc | ⟨hc, -⟩ := hc
    · exact .inl (String.lt_trans h hc)
    · exact .inl (hc ▸ h)
  · rw [h]
    exact hc.imp_right fun ⟨hc, hm⟩ => ⟨hc, Int.le_trans hn hm⟩

theorem bucketLe_total (a b : String) : (bucketLe a b || bucketLe b a) = true := by
  rw [Bool.or_eq_true, bucketLe_iff, bucketLe_iff]
  by_cases hl : (bucketOrder a).1 < (bucketOrder b).1
  · exact .inl (.inl hl)
  by_cases hg : (bucketOrder b).1 < (bucketOrder a).1
  · exact .inr (.inl hg)
  have he := String.le_antisymm (String.not_lt.1 hg) (String.not_lt.1 hl)
  exact (Int.le_total (bucketOrder a).2 (bucketOrder b).2).imp (fun h => .inr ⟨he, h⟩)
    fun h => .inr ⟨he.symm, h⟩

theorem sortBuckets_sortBuckets (names : List String) :
    sortBuckets (sortBuckets names) = sortBuckets names :=
  List.mergeSort_of_pairwise (List.pairwise_mergeSort bucketLe_trans bucketLe_total names)

theorem mem_sortBuckets {name : String} {names : List String} :
    name ∈ sortBuckets names ↔ name ∈ names := List.mem_mergeSort

theorem nodup_sortBuckets {names : List String} : (sortBuckets names).Nodup ↔ names.Nodup :=
  (List.mergeSort_perm names bucketLe).nodup_iff

/-! ## Indexes -/

/-- Whether a bucket belongs to an index by its name. -/
def Belongs (index name : String) : Bool :=
  match BucketId.parse name with
  | .ok id => id.index == index
  | .error _ => false

theorem belongs_iff {index name : String} :
    Belongs index name = true ↔ ∃ id, BucketId.parse name = .ok id ∧ id.index = index := by
  unfold Belongs
  cases BucketId.parse name <;> simp

theorem eq_of_belongs {index other name : String} (h : Belongs index name = true)
    (ho : Belongs other name = true) : other = index := by
  obtain ⟨id, hp, rfl⟩ := belongs_iff.1 h
  obtain ⟨_, hq, rfl⟩ := belongs_iff.1 ho
  cases hp.symm.trans hq
  rfl

/-- Those of some buckets that belong to an index, in bucket order. -/
def stock (names : List String) (index : String) : List String :=
  sortBuckets (names.filter (Belongs index))

theorem mem_stock {names : List String} {index name : String} :
    name ∈ stock names index ↔ name ∈ names ∧ Belongs index name = true := by
  rw [stock, mem_sortBuckets, List.mem_filter]

theorem nodup_stock {names : List String} (h : names.Nodup) (index : String) :
    (stock names index).Nodup :=
  nodup_sortBuckets.2 (h.filter _)

theorem sortBuckets_stock (names : List String) (index : String) :
    sortBuckets (stock names index) = stock names index :=
  sortBuckets_sortBuckets _

/-- No bucket belongs to two indexes. -/
theorem nodup_flatMap_stock {names indexes : List String} (h : names.Nodup) (hi : indexes.Nodup) :
    (indexes.flatMap (stock names)).Nodup := by
  rw [List.Nodup, List.pairwise_flatMap]
  refine ⟨fun index _ => nodup_stock h index, hi.imp ?_⟩
  rintro index other hne name hn _ ho rfl
  exact hne (eq_of_belongs (mem_stock.1 hn).2 (mem_stock.1 ho).2).symm

/-- The buckets of an index, when the names are all those of buckets. -/
theorem bucketsOf_eq_ok {names : List String}
    (h : ∀ name ∈ names, ∃ id, BucketId.parse name = .ok id) (index : String) :
    bucketsOf names index = .ok (stock names index) := by
  -- the index of each name, and which names are left of them
  have pairs : ∃ pairs : List (String × String),
      (names.mapM fun name => (BucketId.parse name).map fun id => (name, id.index)) = .ok pairs ∧
        (pairs.filter fun pair => pair.2 == index).map (·.1) = names.filter (Belongs index) := by
    induction names with
    | nil => exact ⟨[], rfl, rfl⟩
    | cons name names ih =>
      rw [List.forall_mem_cons] at h
      obtain ⟨⟨id, hp⟩, hs⟩ := h
      obtain ⟨pairs, hm, he⟩ := ih hs
      refine ⟨(name, id.index) :: pairs, ?_, ?_⟩
      · rw [List.mapM_cons, hm, hp]
        rfl
      · have hb : Belongs index name = (id.index == index) := by simp [Belongs, hp]
        rw [List.filter_cons, List.filter_cons, hb]
        split <;> simp [he]
  obtain ⟨pairs, hm, he⟩ := pairs
  rw [bucketsOf, hm, Except.map, he, stock]

/-- What the indexes of some buckets are. -/
structure IndexesOf (names indexes : List String) : Prop where
  /-- The names are all those of buckets. -/
  parsed : ∀ name ∈ names, ∃ id, BucketId.parse name = .ok id
  nodup : indexes.Nodup
  sorted : indexes.mergeSort (fun a b => a ≤ b) = indexes
  mem : ∀ index, index ∈ indexes ↔ ∃ name ∈ names, Belongs index name = true

theorem indexesOf_eq_ok {names indexes : List String} (h : indexesOf names = .ok indexes) :
    IndexesOf names indexes := by
  obtain ⟨ids, hm, rfl⟩ := exists_of_map_eq_ok h
  obtain ⟨hp, hv⟩ := mem_iff_of_mapM_eq_ok hm
  refine ⟨hp, (List.mergeSort_perm _ _).nodup_iff.2 (nodup_eraseDups _), ?_, ?_⟩
  · apply List.mergeSort_of_pairwise
    apply List.pairwise_mergeSort
    · intro a b c hab hbc
      exact decide_eq_true (String.le_trans (of_decide_eq_true hab) (of_decide_eq_true hbc))
    · intro a b
      simpa using String.le_total a b
  · intro index
    rw [List.mem_mergeSort, List.mem_eraseDups, List.mem_map]
    constructor
    · rintro ⟨id, hi, rfl⟩
      obtain ⟨name, hn, he⟩ := (hv id).1 hi
      exact ⟨name, hn, belongs_iff.2 ⟨id, he, rfl⟩⟩
    · rintro ⟨name, hn, hb⟩
      obtain ⟨id, he, hi⟩ := belongs_iff.1 hb
      exact ⟨id, (hv id).2 ⟨name, hn, he⟩, hi⟩

theorem IndexesOf.exists_mem {names indexes : List String} (h : IndexesOf names indexes)
    {name : String} (hn : name ∈ names) : ∃ index ∈ indexes, Belongs index name = true := by
  obtain ⟨id, hp⟩ := h.parsed name hn
  have hb : Belongs id.index name = true := belongs_iff.2 ⟨id, hp, rfl⟩
  exact ⟨id.index, (h.mem _).2 ⟨name, hn, hb⟩, hb⟩

/-! ## Folders -/

namespace Folder

theorem nodup_addFile {folder : Folder} (h : (Keyed.keys folder.shards).Nodup) (name : String)
    (node : Node) : (Keyed.keys (folder.addFile name node).shards).Nodup := by
  unfold addFile
  simp only
  split
  · split <;> exact h
  · split
    · exact h
    · split
      · exact h
      · split
        · exact h
        · exact Keyed.nodup_keys_put _ _ h

/-- A folder has one file for a bucket. -/
theorem nodup_ofListing (root : Path) (listing : List (String × Node)) :
    (Keyed.keys (ofListing root listing).shards).Nodup := by
  have all (folder : Folder) (h : (Keyed.keys folder.shards).Nodup) :
      (Keyed.keys (listing.foldl (fun folder file =>
        if file.2.isFile then folder.addFile file.1 file.2 else folder) folder).shards).Nodup := by
    induction listing generalizing folder with
    | nil => exact h
    | cons file listing ih =>
      rw [List.foldl_cons]
      apply ih
      split
      · exact nodup_addFile h _ _
      · exact h
  exact all { root } List.nodup_nil

end Folder

/-! ## Sources -/

namespace Source

/-- Whether a source is memory with one document for each of its buckets, or a folder with one file
for each of them. -/
inductive IsUnpacked : Source → Prop where
  | memory {documents alphabets : List (String × String)} (h : (Keyed.keys documents).Nodup) :
      IsUnpacked (.memory documents alphabets)
  | folder {content : Folder} (h : (Keyed.keys content.shards).Nodup) : IsUnpacked (.folder content)

/-- Every source at an address is unpacked if it is no bundle. -/
theorem isUnpacked_ofAddress {files : Files} {here : Path} {address : String} {source : Source}
    (h : ofAddress files here address = .ok source) (hb : ∀ content, source ≠ .bundle content) :
    source.IsUnpacked := by
  unfold ofAddress at h
  split at h
  · cases h
  · cases h
    exact .memory List.nodup_nil
  · unfold openBundle at h
    split at h
    · cases h
    · cases h
    · split at h
      · cases h
        exact absurd rfl (hb _)
      · cases h
  · unfold openFolder at h
    split at h
    · cases h
      exact .folder (Folder.nodup_ofListing _ _)
    · cases h

theorem IsUnpacked.put {source : Source} (h : source.IsUnpacked) (bucket document : String) :
    (source.put bucket document).IsUnpacked := by
  cases h with
  | memory h => exact .memory (Keyed.nodup_keys_put _ _ h)
  | folder h => exact .folder h

theorem IsUnpacked.close {source : Source} (h : source.IsUnpacked) : source.close.IsUnpacked := by
  cases h with
  | memory => exact .memory List.nodup_nil
  | folder => exact .folder List.nodup_nil

/-- The alphabet of an index. -/
def alphabet (source : Source) (index : String) : String :=
  match source.partition index with
  | .ok partition => partition.alphabet
  | .error _ => defaultAlphabet

/-- What a source tells of the buckets that it has. -/
structure Stocks (files : Files) (source : Source) (names : List String) : Prop where
  nodup : names.Nodup
  indexes : source.indexes = indexesOf names
  buckets : ∀ index, source.bucketIds index = bucketsOf names index
  partition : ∀ index, source.partition index = .ok { index, alphabet := source.alphabet index }
  /-- There is a document for every bucket, even if it cannot be fetched. -/
  listed : ∀ name ∈ names, source.fetch files name ≠ .ok none
  unlisted : ∀ name, name ∉ names → source.fetch files name = .ok none

/-- Memory and folders tell of their buckets alike. -/
theorem IsUnpacked.stocks {source : Source} (h : source.IsUnpacked) (files : Files) :
    ∃ names, source.Stocks files names := by
  cases h with
  | @memory documents alphabets h =>
    refine ⟨Keyed.keys documents, h, rfl, fun _ => rfl, fun _ => rfl, ?_, ?_⟩
    · intro name hn he
      exact Keyed.get?_eq_none.1 (Except.ok.inj he) hn
    · intro name hn
      exact congrArg Except.ok (Keyed.get?_eq_none.2 hn)
  | @folder content h =>
    refine ⟨Keyed.keys content.shards, h, rfl, fun _ => rfl, ?_, ?_, ?_⟩
    · intro index
      simp only [alphabet, partition, Folder.partition]
      cases content.manifest with
      | none => rfl
      | some manifest =>
        simp only [Option.bind_some, Manifest.partition?]
        cases Keyed.get? index manifest.sections <;> rfl
    · intro name hn he
      have hk := mt Keyed.get?_eq_none.1 (not_not_intro hn)
      simp only [fetch, Folder.fetch] at he
      split at he
      · exact hk ‹_›
      · split at he <;> cases he
    · intro name hn
      simp only [fetch, Folder.fetch, Keyed.get?_eq_none.2 hn]

end Source

end SymbolLookup

import Mathlib.Data.List.Sort
import SymbolLookup.Proofs.Bundle.Equivalence
import SymbolLookup.Proofs.Source.Naming
/-!
# The arrangement of a source

Nobody who looks something up can tell in which order the documents were put into memory.

## Main definitions

* `NamesBuckets`: whether all of some texts are names of buckets.

## Main results

* `stock_perm`, `indexesOf_perm`: the buckets of an index, and the indexes, do not depend on the
  order of the names.
* `exists_ordinals`: the buckets of an index are told by their ordinals, which rise.
* `Source.indistinct_of_perm`: nor does anything that is looked up.

## Design notes

Sorting leaves texts that stand level in the order in which they stood. Names of buckets never stand
level with each other, and so nothing of the order is left in which they came.
-/

namespace SymbolLookup

/-! ## Names -/

/-- Whether all of some texts are names of buckets. -/
def NamesBuckets (names : List String) : Prop :=
  ∀ name ∈ names, ∃ id : BucketId, id.IsProper ∧ id.name = name

namespace NamesBuckets

variable {names others : List String}

theorem parsed (h : NamesBuckets names) : ∀ name ∈ names, ∃ id, BucketId.parse name = .ok id := by
  intro name hm
  obtain ⟨id, hp, rfl⟩ := h name hm
  exact ⟨id, BucketId.parse_name hp⟩

theorem perm (h : NamesBuckets names) (hp : names.Perm others) : NamesBuckets others :=
  fun name hm => h name (hp.mem_iff.2 hm)

/-- What belongs to an index is named after it. -/
theorem eq_bucketName (h : NamesBuckets names) {index name : String} (hm : name ∈ names)
    (hb : Belongs index name = true) :
    ∃ n : Nat, (⟨index, n⟩ : BucketId).IsProper ∧ name = bucketName index n := by
  obtain ⟨id, hp, rfl⟩ := h name hm
  obtain ⟨other, ho, rfl⟩ := belongs_iff.1 hb
  cases (BucketId.parse_name hp).symm.trans ho
  exact ⟨id.ordinal, hp, rfl⟩

end NamesBuckets

section Order

variable {names others : List String}

/-- The buckets of an index do not depend on the order of the names. -/
theorem stock_perm (h : NamesBuckets names) (hp : names.Perm others) (index : String) :
    stock names index = stock others index := by
  have sorted (names : List String) : (stock names index).Pairwise fun a b => bucketLe a b = true :=
    List.pairwise_mergeSort bucketLe_trans bucketLe_total _
  have same : (stock names index).Perm (stock others index) :=
    ((List.mergeSort_perm _ _).trans (hp.filter _)).trans (List.mergeSort_perm _ _).symm
  refine same.eq_of_pairwise ?_ (sorted names) (sorted others)
  intro name other hm ho first second
  obtain ⟨n, hn, rfl⟩ := h.eq_bucketName (mem_stock.1 hm).1 (mem_stock.1 hm).2
  obtain ⟨m, hm, rfl⟩ := (h.perm hp).eq_bucketName (mem_stock.1 ho).1 (mem_stock.1 ho).2
  exact congrArg BucketId.name (eq_of_bucketLe hn hm first second)

/-- The indexes do not depend on the order of the names. -/
theorem indexesOf_perm (h : ∀ name ∈ names, ∃ id, BucketId.parse name = .ok id)
    (hp : names.Perm others) :
    ∃ indexes, indexesOf names = .ok indexes ∧ indexesOf others = .ok indexes := by
  have told {names : List String} (h : ∀ name ∈ names, ∃ id, BucketId.parse name = .ok id) :
      ∃ indexes, indexesOf names = .ok indexes := by
    obtain ⟨ids, hi⟩ := exists_mapM_eq_ok h
    exact ⟨_, by rw [indexesOf, hi]; rfl⟩
  obtain ⟨indexes, hi⟩ := told h
  obtain ⟨more, hm⟩ := told fun name hn => h name (hp.mem_iff.2 hn)
  have first := indexesOf_eq_ok hi
  have second := indexesOf_eq_ok hm
  have same : indexes.Perm more := by
    rw [List.perm_ext_iff_of_nodup first.nodup second.nodup]
    intro index
    rw [first.mem, second.mem]
    exact exists_congr fun name => and_congr_left fun _ => hp.mem_iff
  have sorted {names indexes : List String} (h : IndexesOf names indexes) :
      indexes.Pairwise fun a b => decide (a ≤ b) = true := by
    rw [← h.sorted]
    apply List.pairwise_mergeSort
    · intro a b c hab hbc
      exact decide_eq_true (String.le_trans (of_decide_eq_true hab) (of_decide_eq_true hbc))
    · intro a b
      simpa using String.le_total a b
  have equal : indexes = more := by
    refine same.eq_of_pairwise ?_ (sorted first) (sorted second)
    intro a b _ _ hab hba
    exact String.le_antisymm (of_decide_eq_true hab) (of_decide_eq_true hba)
  exact ⟨indexes, hi, equal ▸ hm⟩

/-- The buckets of an index are told by their ordinals, which rise. -/
theorem exists_ordinals (h : NamesBuckets names) (hn : names.Nodup) (index : String) :
    ∃ ordinals : List Nat, stock names index = ordinals.map (fun n : Nat => bucketName index n) ∧
      ordinals.Pairwise (· < ·) ∧ ∀ n : Nat, n ∈ ordinals ↔ bucketName index n ∈ names := by
  have named : ∀ name ∈ stock names index, ∃ n : Nat, (⟨index, n⟩ : BucketId).IsProper ∧
      name = bucketName index n := fun name hm =>
    h.eq_bucketName (mem_stock.1 hm).1 (mem_stock.1 hm).2
  have ordinal {n : Nat} (hp : (⟨index, n⟩ : BucketId).IsProper) :
      bucketOrder (bucketName index n) = (index, (n : Int)) := by
    have written : bucketName index n = BucketId.name ⟨index, n⟩ := rfl
    rw [written, bucketOrder_name hp]
  refine ⟨(stock names index).map fun name => (bucketOrder name).2.toNat, ?_, ?_, fun n => ?_⟩
  · rw [List.map_map]
    conv_lhs => rw [← List.map_id (stock names index)]
    refine List.map_congr_left fun name hm => ?_
    obtain ⟨n, hp, rfl⟩ := named name hm
    simp only [id_eq, Function.comp_apply, ordinal hp, Int.toNat_natCast]
  · -- buckets stand in order, and no two of them stand level
    rw [List.pairwise_map]
    have sorted : (stock names index).Pairwise fun a b => bucketLe a b = true :=
      List.pairwise_mergeSort bucketLe_trans bucketLe_total _
    refine (sorted.and (nodup_stock hn index)).imp_of_mem ?_
    rintro name other hm ho ⟨hle, hne⟩
    obtain ⟨n, hp, rfl⟩ := named name hm
    obtain ⟨m, hq, rfl⟩ := named other ho
    rw [bucketLe_iff, ordinal hp, ordinal hq] at hle
    have differ : n ≠ m := fun he => hne (he ▸ rfl)
    simp only [ordinal hp, ordinal hq, Int.toNat_natCast]
    obtain hlt | ⟨-, hle⟩ := hle
    · exact absurd hlt (String.lt_irrefl _)
    · dsimp only at hle
      omega
  · rw [List.mem_map]
    constructor
    · rintro ⟨name, hm, rfl⟩
      obtain ⟨n, hp, rfl⟩ := named name hm
      rw [ordinal hp, Int.toNat_natCast]
      exact (mem_stock.1 hm).1
    · intro hm
      obtain ⟨id, hp, he⟩ := h _ hm
      obtain ⟨rfl, rfl⟩ := bucketName_inj he
      have belongs : Belongs id.index id.name = true :=
        belongs_iff.2 ⟨id, BucketId.parse_name hp, rfl⟩
      refine ⟨id.name, mem_stock.2 ⟨hm, belongs⟩, ?_⟩
      rw [bucketOrder_name hp, Int.toNat_natCast]

end Order

/-! ## Documents -/

namespace Keyed

variable {κ α : Type} [DecidableEq κ] {pairs others : List (κ × α)}

theorem get?_eq_some_iff (h : (keys pairs).Nodup) {key : κ} {value : α} :
    get? key pairs = some value ↔ (key, value) ∈ pairs := by
  refine ⟨mem_of_get?, fun hm => ?_⟩
  induction pairs with
  | nil => cases hm
  | cons pair pairs ih =>
    obtain ⟨fresh, rest⟩ := List.nodup_cons.1 h
    rcases List.mem_cons.1 hm with rfl | hm
    · rw [get?, if_pos rfl]
    · have other : pair.1 ≠ key := by
        rintro rfl
        exact fresh (List.mem_map.2 ⟨_, hm, rfl⟩)
      rw [get?, if_neg other, ih rest hm]

/-- What stands under a key does not depend on the order of the keys. -/
theorem get?_perm (h : (keys pairs).Nodup) (hp : pairs.Perm others) (key : κ) :
    get? key pairs = get? key others := by
  have ho : (keys others).Nodup := (hp.map _).nodup_iff.1 h
  ext value
  rw [get?_eq_some_iff h, get?_eq_some_iff ho, hp.mem_iff]

end Keyed

namespace Source

variable {documents others alphabets more : List (String × String)}

/-- Memory tells the same of the same documents, in whatever order they were put there. -/
theorem sameStock_of_perm (hp : documents.Perm others) (hk : (Keyed.keys documents).Nodup)
    (hn : NamesBuckets (Keyed.keys documents))
    (ha : ∀ index, Keyed.get? index alphabets = Keyed.get? index more) (files later : Files) :
    ∃ indexes, SameStock files (.memory documents alphabets) later (.memory others more)
      indexes := by
  have keys : (Keyed.keys documents).Perm (Keyed.keys others) := hp.map _
  obtain ⟨indexes, hi, ho⟩ := indexesOf_perm hn.parsed keys
  have told := indexesOf_eq_ok hi
  have partition (index : String) : (memory documents alphabets).partition index =
      (memory others more).partition index := by
    rw [Source.partition, Source.partition, ha]
  refine ⟨indexes, ⟨hi, ho⟩, fun index => ?_, fun index _ => ?_, fun index => ?_, fun bucket => ?_⟩
  · refine ⟨stock (Keyed.keys documents) index, bucketsOf_eq_ok hn.parsed index, ?_, fun hm => ?_⟩
    · rw [stock_perm hn keys index]
      exact bucketsOf_eq_ok (hn.perm keys).parsed index
    · rw [List.eq_nil_iff_forall_not_mem]
      intro name hs
      obtain ⟨hs, hb⟩ := mem_stock.1 hs
      exact hm ((told.mem index).2 ⟨name, hs, hb⟩)
  · exact ⟨_, rfl, (partition index).symm⟩
  · exact ⟨_, _, rfl, rfl⟩
  · exact congrArg Except.ok (Keyed.get?_perm hk hp bucket)

/-- **The order of documents does not matter.** Two sources in memory that hold the same documents
tell the same indexes and the same buckets of each. The buckets of an index are those documents that
are named after it, once each, in the order of their ordinals. Whoever looks something up in either
source is refused for the same fault or gets the same answers. -/
theorem indistinct_of_perm (hp : documents.Perm others) (hk : (Keyed.keys documents).Nodup)
    (hn : NamesBuckets (Keyed.keys documents))
    (ha : ∀ index, Keyed.get? index alphabets = Keyed.get? index more) :
    (∃ indexes, (memory documents alphabets).indexes = .ok indexes ∧
      (memory others more).indexes = .ok indexes) ∧
    (∀ index, ∃ ordinals : List Nat,
      (memory documents alphabets).bucketIds index =
        .ok (ordinals.map fun n : Nat => bucketName index n) ∧
      (memory others more).bucketIds index =
        .ok (ordinals.map fun n : Nat => bucketName index n) ∧
      ordinals.Pairwise (· < ·) ∧
      ∀ n : Nat, n ∈ ordinals ↔ bucketName index n ∈ Keyed.keys documents) ∧
    ∀ files, Supply.Indistinct { source := .memory documents alphabets, files }
      { source := .memory others more, files } := by
  have same := sameStock_of_perm hp hk hn ha
  refine ⟨?_, fun index => ?_, fun files => ?_⟩
  · obtain ⟨indexes, same⟩ := same [] []
    exact ⟨indexes, same.listed⟩
  · obtain ⟨indexes, same⟩ := same [] []
    obtain ⟨buckets, hb, ho, -⟩ := same.buckets index
    obtain ⟨ordinals, hs, rise, mem⟩ := exists_ordinals hn hk index
    have stocked : (memory documents alphabets).bucketIds index =
        .ok (stock (Keyed.keys documents) index) := bucketsOf_eq_ok hn.parsed index
    rw [hs] at stocked
    cases hb.symm.trans stocked
    exact ⟨ordinals, hb, ho, rise, mem⟩
  · obtain ⟨indexes, same⟩ := same files files
    exact same.indistinct

/-- Two buckets of one index, and one of an index that is named like a bucket of the other, are put
into memory in both directions. The tenth bucket stands behind the ninth. -/
theorem indistinct_of_three :
    let documents := [("symbols_10", "[]"), ("symbols_1_7", "[]"), ("symbols_9", "[]")]
    let source : Source := .memory documents []
    let other : Source := .memory documents.reverse []
    source.bucketIds "symbols" = .ok ["symbols_9", "symbols_10"] ∧
      other.bucketIds "symbols" = .ok ["symbols_9", "symbols_10"] ∧
      Supply.Indistinct { source } { source := other } := by
  intro documents source other
  have named : NamesBuckets (Keyed.keys documents) := by
    intro name hm
    obtain rfl | rfl | rfl : name = "symbols_10" ∨ name = "symbols_1_7" ∨ name = "symbols_9" := by
      simpa [documents, Keyed.keys] using hm
    · exact ⟨⟨"symbols", 10⟩, ⟨by decide, by decide, by decide⟩, by decide⟩
    · exact ⟨⟨"symbols_1", 7⟩, ⟨by decide, by decide, by decide⟩, by decide⟩
    · exact ⟨⟨"symbols", 9⟩, ⟨by decide, by decide, by decide⟩, by decide⟩
  obtain ⟨-, buckets, same⟩ := indistinct_of_perm (List.reverse_perm documents).symm
    (by decide) named (fun _ => rfl)
  obtain ⟨ordinals, hs, ho, rise, mem⟩ := buckets "symbols"
  have two : ordinals = [9, 10] := by
    refine rise.eq_of_mem_iff (by decide) fun n => ?_
    have keys : Keyed.keys documents =
        [bucketName "symbols" 10, bucketName "symbols_1" 7, bucketName "symbols" 9] := by decide
    rw [mem, keys]
    simp only [List.mem_cons, List.not_mem_nil, or_false]
    constructor
    · rintro (hm | hm | hm)
      · exact .inr (bucketName_inj hm).2
      · exact absurd (bucketName_inj hm).1 (by decide)
      · exact .inl (bucketName_inj hm).2
    · rintro (rfl | rfl)
      · exact .inr (.inr rfl)
      · exact .inl rfl
  rw [two] at hs ho
  exact ⟨hs, ho, same []⟩

end Source

end SymbolLookup

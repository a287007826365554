import Mathlib.Data.List.Nodup
import SymbolLookup.Query.Result
/-!
# Looking into one bucket

A query that is looked for at the beginning of names need not look into any bucket but its own.

## Main definitions

* `Partition.Divides`: whether the entries of some buckets are where their names belong.

## Main results

* `Partition.bucketFor_of_isHit`: a name that begins with a query belongs to its bucket.
* `answer_candidates`: the bucket of a query gives the same answer as all buckets.

## Design notes

What a query finds begins with the key of the query as it is normalized once more. For the bucket of
the query to be that of all it finds, the query has to be its own key.
-/

namespace SymbolLookup

/-- The first character of a search key, over the key. -/
theorem leading?_eq_head? (text : String) : leading? text = (normalize text).toList.head? := by
  rw [leading?, normalize, String.toList_ofList]

/-- A name that begins with a query belongs to the bucket of the query. -/
theorem Partition.bucketFor_of_isHit (p : Partition) {entry : Entry} {query : String}
    (h : entry.isHit query .beginning = true) : p.bucketFor entry.name = p.bucketFor query := by
  simp only [Entry.isHit, Bool.and_eq_true, Bool.not_eq_true', List.isEmpty_eq_false_iff,
    List.isPrefixOf_iff_prefix, entry.sortKey_eq] at h
  obtain ⟨hk, rest, hp⟩ := h
  have hl : leading? entry.name = leading? query := by
    obtain ⟨c, key, hc⟩ := List.exists_cons_of_ne_nil hk
    rw [leading?_eq_head?, leading?_eq_head?, ← hp, hc, List.cons_append, List.head?_cons,
      List.head?_cons]
  rw [bucketFor, bucketFor, ordinalFor, ordinalFor, hl]

/-- Whether the entries of the shards of some buckets are in the buckets to which their names
belong. -/
def Partition.Divides (p : Partition) (buckets : List String) (shard : String → Shard) : Prop :=
  ∀ bucket ∈ buckets, ∀ entry ∈ (shard bucket).entries, p.bucketFor entry.name = bucket

/-- Of buckets in which names are where they belong, only that of a query holds what begins with
the query. -/
theorem Partition.Divides.isHit_eq_false {p : Partition} {buckets : List String}
    {shard : String → Shard} (h : p.Divides buckets shard) {query bucket : String}
    (hb : bucket ∈ buckets) (hne : bucket ≠ p.bucketFor query) {entry : Entry}
    (he : entry ∈ (shard bucket).entries) : entry.isHit query .beginning = false := by
  rw [Bool.eq_false_iff]
  intro hh
  exact hne ((h bucket hb entry he).symm.trans (p.bucketFor_of_isHit hh))

/-- The candidates at the beginning of names are the buckets that are the query's. -/
theorem candidates_beginning {query : String} (hq : query ≠ "") {buckets : List String}
    (hd : buckets.Nodup) (p : Partition) :
    candidates query buckets p .beginning = buckets.filter (· == p.bucketFor query) := by
  rw [candidates, if_neg hq, List.filter_beq]
  by_cases hb : p.bucketFor query ∈ buckets
  · simp [hb, List.count_eq_one_of_mem hd hb]
  · simp [hb, List.count_eq_zero_of_not_mem hb]

/-- Buckets in which a query finds nothing may be passed over. -/
theorem hits_filter {buckets : List String} {shard : String → Shard} {query : String} {mode : Mode}
    {p : String → Bool}
    (h : ∀ bucket ∈ buckets, p bucket = false → ∀ entry ∈ (shard bucket).entries,
      entry.isHit (normalize query) mode = false) :
    hits ((buckets.filter p).map shard) query mode = hits (buckets.map shard) query mode := by
  simp only [hits]
  split
  · rfl
  · induction buckets with
    | nil => rfl
    | cons bucket buckets ih =>
      have ih := ih fun other ho => h other (List.mem_cons_of_mem _ ho)
      cases hp : p bucket with
      | true => simp only [List.filter_cons_of_pos hp, List.map_cons, List.flatMap_cons, ih]
      | false =>
        have hn : (shard bucket).entries.filter
            (fun entry => entry.isHit (normalize query) mode) = [] := by
          rw [List.filter_eq_nil_iff]
          intro entry he
          rw [h bucket List.mem_cons_self hp entry he]
          exact Bool.false_ne_true
        rw [List.filter_cons_of_neg (by simp [hp]), ih, List.map_cons, List.flatMap_cons, hn,
          List.nil_append]

/-- Where names are in the buckets to which they belong, the bucket of a query gives the same answer
at the beginning of names as all buckets, and without that bucket there is nothing to be found. -/
theorem answer_candidates {p : Partition} {buckets : List String} (hd : buckets.Nodup)
    {shard : String → Shard} (h : p.Divides buckets shard) {query : String} (hq : query ≠ "")
    (hk : normalize query = query) (limit : Option Int) :
    answer ((candidates query buckets p .beginning).map shard) query .beginning limit =
        answer (buckets.map shard) query .beginning limit ∧
      (p.bucketFor query ∉ buckets → ∀ bucket ∈ buckets, ∀ entry ∈ (shard bucket).entries,
        entry.isHit query .beginning = false) := by
  constructor
  · rw [answer, answer, candidates_beginning hq hd, hits_filter]
    intro bucket hb hne entry he
    rw [hk]
    exact h.isHit_eq_false hb (by simpa using hne) he
  · intro hn bucket hb entry he
    refine h.isHit_eq_false hb ?_ he
    rintro rfl
    exact hn hb

/-- Two buckets of one symbol each, of which a query looks into the second. -/
theorem answer_candidates_of_two :
    let p : Partition := { index := "symbols", alphabet := "ab" }
    let buckets := ["symbols_0", "symbols_1"]
    let entry (name : String) : Entry :=
      { name, label := name, anchor := { path := "a.html" }, position := 0 }
    let shard (bucket : String) : Shard :=
      { bucket, entries := [entry (if bucket = "symbols_0" then "alpha" else "Beta")] }
    buckets.Nodup ∧ p.Divides buckets shard ∧ normalize "b" = "b" ∧
      candidates "b" buckets p .beginning = ["symbols_1"] ∧
      (answer (buckets.map shard) "b" .beginning (some 5)).map (·.name) = ["Beta"] ∧
      answer ((candidates "b" buckets p .beginning).map shard) "b" .beginning (some 5) =
        answer (buckets.map shard) "b" .beginning (some 5) := by
  intro p buckets entry shard
  have hd : buckets.Nodup := by decide
  have h : p.Divides buckets shard := by
    unfold Partition.Divides
    decide +kernel
  have hk : normalize "b" = "b" := by decide +kernel
  refine ⟨hd, h, hk, by decide +kernel, by decide +kernel, ?_⟩
  exact (answer_candidates hd h (by decide) hk (some 5)).1

end SymbolLookup

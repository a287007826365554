import Mathlib.Data.List.Infix
import SymbolLookup.Proofs.Text.Ascii
import SymbolLookup.Query.Match
/-!
# What a query finds

A query is documented to find the names that hold its search key. It finds those that hold the
search key of its search key.

## Main definitions

* `Entry.Holds`: whether the name of an entry holds, or begins with, a key.
* `found`: the entries of some shards that hold the search key of a query.

## Main results

* `hits_eq_found`: a query finds what is documented for its key.
* `hits_eq_found_iff`: it finds what is documented for itself if and only if its key is its own key.

## Design notes

The search key of a text need not be its own search key: folding takes a letter apart into two, and
a mark behind them is joined to the second one when the key is normalized again. The names that tell
the two keys apart are the query itself and its key.
-/

namespace SymbolLookup

/-- Whether the search key of an entry's name holds a key, or begins with it. -/
def Entry.Holds (entry : Entry) (key : String) : Mode → Prop
  | .anywhere => key.toList <:+: entry.sortKey.toList
  | .beginning => key.toList <+: entry.sortKey.toList

instance (entry : Entry) (key : String) (mode : Mode) : Decidable (entry.Holds key mode) :=
  match mode with
  | .anywhere => inferInstanceAs (Decidable (key.toList <:+: entry.sortKey.toList))
  | .beginning => inferInstanceAs (Decidable (key.toList <+: entry.sortKey.toList))

/-- The entries of some shards, shard by shard in the order of each, that hold the search key of a
query; none if that is empty. -/
def found (shards : List Shard) (query : String) (mode : Mode) : List Entry :=
  if normalize query = "" then []
  else (shards.flatMap (·.entries)).filter fun entry => decide (entry.Holds (normalize query) mode)

theorem occursIn_iff {part s : List Char} : occursIn part s = true ↔ part <:+: s := by
  induction s with
  | nil => simp [occursIn]
  | cons c s ih => simp [occursIn, List.infix_cons_iff, ih]

theorem Entry.isHit_iff {entry : Entry} {query : String} {mode : Mode} :
    entry.isHit query mode = true ↔
      normalize query ≠ "" ∧ entry.Holds (normalize query) mode := by
  have hk : (normalize query).toList.isEmpty = false ↔ normalize query ≠ "" := by
    simp
  cases mode <;>
    simp [Entry.isHit, Entry.Holds, occursIn_iff, List.isPrefixOf_iff_prefix]

theorem normalize_empty : normalize "" = "" := by decide

/-- A query finds what is documented for its search key. -/
theorem hits_eq_found (shards : List Shard) (query : String) (mode : Mode) :
    hits shards query mode = found shards (normalize query) mode := by
  unfold hits found
  by_cases hq : normalize query = ""
  · rw [if_pos hq, hq, normalize_empty, if_pos rfl]
  · rw [if_neg hq, List.filter_flatMap]
    split
    · rename_i hk
      rw [List.flatMap_eq_nil_iff]
      intro shard _
      rw [List.filter_eq_nil_iff]
      intro entry _ hh
      exact (Entry.isHit_iff.1 hh).1 hk
    · rename_i hk
      refine congrArg shards.flatMap (funext fun shard => List.filter_congr ?_)
      intro entry _
      rw [Bool.eq_iff_iff, Entry.isHit_iff, decide_eq_true_iff]
      exact and_iff_right hk

theorem mem_found {shards : List Shard} {query : String} {mode : Mode} {entry : Entry} :
    entry ∈ found shards query mode ↔ normalize query ≠ "" ∧
      (∃ shard ∈ shards, entry ∈ shard.entries) ∧ entry.Holds (normalize query) mode := by
  unfold found
  split <;> simp_all [List.mem_flatMap]

/-- A name holds its own search key, and begins with it. -/
theorem Entry.holds_self (entry : Entry) (mode : Mode) :
    entry.Holds (normalize entry.name) mode := by
  cases mode with
  | anywhere => rw [Holds, entry.sortKey_eq]
  | beginning => rw [Holds, entry.sortKey_eq]

/-- The entry of a shard with one entry is found if its key holds that of the query. -/
theorem found_single_ne_nil (bucket query : String) (entry : Entry) :
    found [{ bucket, entries := [entry] }] query .anywhere ≠ [] ↔
      normalize query ≠ "" ∧ (normalize query).toList <:+: (normalize entry.name).toList := by
  unfold found
  split
  · simp_all
  · simp_all [Entry.Holds, entry.sortKey_eq]

/-- If a query finds the same as its key, its key is its own key: each of the two finds itself, and
so each holds the other. -/
theorem normalize_eq_of_found_eq {query : String}
    (h : ∀ shards mode, found shards (normalize query) mode = found shards query mode) :
    normalize (normalize query) = normalize query := by
  -- whether a name is found by both may be asked of every name
  have agree (name : String) :
      (normalize (normalize query) ≠ "" ∧
          (normalize (normalize query)).toList <:+: (normalize name).toList) ↔
        (normalize query ≠ "" ∧ (normalize query).toList <:+: (normalize name).toList) := by
    let entry : Entry := { name, label := name, anchor := ⟨name, ""⟩, position := 0 }
    have hn : entry.name = name := rfl
    rw [← hn, ← found_single_ne_nil "symbols_0", ← found_single_ne_nil "symbols_0", h]
  by_cases hq : normalize query = ""
  · rw [hq, normalize_empty]
  · obtain ⟨hk, forth⟩ := (agree query).2 ⟨hq, List.infix_rfl⟩
    obtain ⟨-, back⟩ := (agree (normalize query)).1 ⟨hk, List.infix_rfl⟩
    exact String.toList_inj.1 (forth.eq_of_length_le back.length_le)

/-- A query finds the names that hold its search key, whatever the shards, if and only if its key is
its own key. Then every name with a key is found by itself, and so it is for all ASCII texts. -/
theorem hits_eq_found_iff (query : String) :
    ((∀ shards mode, hits shards query mode = found shards query mode) ↔
        normalize (normalize query) = normalize query) ∧
      (normalize (normalize query) = normalize query → normalize query ≠ "" →
        ∀ shards mode, ∀ shard ∈ shards, ∀ entry ∈ shard.entries, entry.name = query →
          entry ∈ hits shards query mode) ∧
      (Text.IsAscii query.toList → normalize (normalize query) = normalize query) := by
  simp only [hits_eq_found]
  refine ⟨⟨normalize_eq_of_found_eq, ?_⟩, ?_, normalize_normalize_of_isAscii⟩
  · intro hk shards mode
    unfold found
    rw [hk]
  · rintro hk hq shards mode shard hs entry he rfl
    rw [mem_found, hk]
    exact ⟨hq, ⟨shard, hs, he⟩, entry.holds_self mode⟩

/-- A sharp s with an accent does not find itself: the key has two letters, and the accent is joined
to the second of them when the key is normalized again. -/
theorem not_hits_eq_found_of_accent :
    let name := "\u00df\u0301"
    let shard : Shard :=
      { bucket := "symbols_0"
        entries := [{ name, label := "A", anchor := ⟨"a.html", ""⟩, position := 0 }] }
    normalize name = "ss\u0301" ∧ normalize "ss\u0301" = "s\u015b" ∧
      found [shard] name .anywhere = shard.entries ∧ hits [shard] name .anywhere = [] := by
  decide +kernel

end SymbolLookup

import SymbolLookup.Partition
import SymbolLookup.Query.Mode
import SymbolLookup.Shard.Basic
/-!
# Matching

Which entries a query finds, and in which buckets they can be.

## Main definitions

* `Entry.isHit`: whether a query finds an entry.
* `hits`: the entries of some shards that a query finds.
* `candidates`: the buckets that can hold entries that a query finds.

## Design notes

A query is normalized when it comes in and once more wherever it is compared. In the mode that
looks at the beginning of names only, all names that a query finds begin with its first character,
so one bucket can hold them.
-/

namespace SymbolLookup

/-- Whether `part` occurs somewhere in a text. -/
def occursIn (part : List Char) : List Char → Bool
  | [] => part.isEmpty
  | c :: s => part.isPrefixOf (c :: s) || occursIn part s

/-- Whether a query finds an entry. An empty query finds nothing. -/
def Entry.isHit (entry : Entry) (query : String) (mode : Mode) : Bool :=
  let key := (normalize query).toList
  let name := entry.sortKey.toList
  !key.isEmpty &&
    match mode with
    | .anywhere => occursIn key name
    | .beginning => key.isPrefixOf name

/-- The entries of some shards that a query finds, shard by shard in the order of each. -/
def hits (shards : List Shard) (query : String) (mode : Mode) : List Entry :=
  let key := normalize query
  if key = "" then []
  else shards.flatMap fun shard => shard.entries.filter fun entry => entry.isHit key mode

/-- The buckets among some that can hold entries which a normalized query finds. -/
def candidates (key : String) (buckets : List String) (partition : Partition) (mode : Mode) :
    List String :=
  if key = "" then []
  else
    match mode with
    | .anywhere => buckets
    | .beginning =>
      let bucket := partition.bucketFor key
      if buckets.contains bucket then [bucket] else []

end SymbolLookup

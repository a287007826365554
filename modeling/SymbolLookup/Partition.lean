import SymbolLookup.Bucket
import SymbolLookup.Key
/-!
# Partitions

The buckets of an index divide the names by the first character of their search keys.

## Main definitions

* `Partition`: an index and its alphabet.
* `Partition.ordinalFor`, `Partition.bucketFor`: the bucket that a name belongs to.

## Design notes

A name belongs to the bucket whose ordinal is the place of its first character in the alphabet.
Every other name, the empty one too, belongs to bucket zero, which it shares with the names that
begin with the first character of the alphabet.
-/

namespace SymbolLookup

/-- The alphabet of indexes that do not tell theirs. -/
def defaultAlphabet : String := "_abcdefghijklmnopqrstuvwxyz"

/-- How an index divides names among its buckets. -/
structure Partition where
  /-- The name of the index. -/
  index : String
  /-- The characters whose places are the ordinals of the buckets. -/
  alphabet : String := defaultAlphabet
  deriving DecidableEq, Repr

namespace Partition

/-- The ordinal of the bucket that a name belongs to. -/
def ordinalFor (p : Partition) (name : String) : Nat :=
  match leading? name with
  | none => 0
  | some c => (p.alphabet.toList.idxOf? c).getD 0

/-- The id of the bucket that a name belongs to. -/
def bucketFor (p : Partition) (name : String) : String :=
  bucketName p.index (p.ordinalFor name)

end Partition

end SymbolLookup

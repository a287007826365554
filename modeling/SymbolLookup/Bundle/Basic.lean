import SymbolLookup.Keyed
import SymbolLookup.Partition
/-!
# Bundles

All shard documents of a source in one file, with the alphabets of its indexes.

## Main definitions

* `Bundle`: the content of such a file.
* `Bundle.addSection`, `Bundle.addRow`: writing it.
* `Bundle.bucketsIn`: the buckets of an index.

## Design notes

A bundle keeps its rows in the order in which they were added. The file format holds ordinals in
signed words of 64 bits, so a larger ordinal cannot be added.
-/

namespace SymbolLookup

/-- A document of a bundle. -/
structure Row where
  /-- The index that the bucket belongs to. -/
  index : String
  /-- The document of the bucket. -/
  document : String
  deriving DecidableEq, Repr

/-- The content of a bundle file. -/
structure Bundle where
  /-- The alphabets of the indexes. -/
  sections : List (String × String) := []
  /-- The documents of the buckets. -/
  rows : List (String × Row) := []
  deriving DecidableEq, Repr

namespace Bundle

/-- All ordinals of a bundle are below this number. -/
def ordinalBound : Nat := Nat.pow 2 63

/-- The bundle with the alphabet of one more index. -/
def addSection (bundle : Bundle) (index alphabet : String) : Bundle :=
  { bundle with sections := Keyed.put index alphabet bundle.sections }

/-- The bundle with one more document, if the ordinal of its bucket fits. -/
def addRow (bundle : Bundle) (bucket index : String) (ordinal : Nat) (document : String) :
    Except Fault Bundle :=
  if ordinal < ordinalBound then
    .ok { bundle with rows := Keyed.put bucket ⟨index, document⟩ bundle.rows }
  else .error .ordinalTooLarge

/-- The indexes of a bundle by name. -/
def indexes (bundle : Bundle) : List String :=
  (Keyed.keys bundle.sections).mergeSort fun a b => a ≤ b

/-- The buckets of an index in bucket order. -/
def bucketsIn (bundle : Bundle) (index : String) : List String :=
  sortBuckets <| (bundle.rows.filter fun row => row.2.index == index).map (·.1)

/-- The partition of an index. -/
def partition (bundle : Bundle) (index : String) : Partition :=
  { index, alphabet := (Keyed.get? index bundle.sections).getD defaultAlphabet }

/-- The document of a bucket, if the bundle has one. -/
def document? (bundle : Bundle) (bucket : String) : Option String :=
  (Keyed.get? bucket bundle.rows).map (·.document)

end Bundle

end SymbolLookup

import SymbolLookup.Amount
/-!
# Bucket ids

The documents of an index are its buckets. A bucket is known by the name of its index and its
ordinal, written with an underscore between them: `functions_4`.

## Main definitions

* `BucketId`: an index and an ordinal.
* `BucketId.parse`: the id that a text writes.
* `bucketName`: the text of an id.
* `bucketName?`: the text of an id whose ordinal is handed in.
* `bucketOrder`: the key by which texts of ids are ordered.

## Design notes

Index names may hold underscores and digits themselves, so the ordinal begins after the last
underscore. One line end at the end of a text is passed over.
-/

namespace SymbolLookup

open Text

/-- A bucket of an index. -/
structure BucketId where
  /-- The name of the index. -/
  index : String
  /-- The ordinal of the bucket in its index. -/
  ordinal : Nat
  deriving DecidableEq, Repr

/-- A text cut at the last occurrence of a character, which is left out. -/
def splitAtLast? (c : Char) (s : List Char) : Option (List Char × List Char) :=
  let tail := (s.reverse.takeWhile (· ≠ c)).reverse
  if s.contains c then some (s.take (s.length - tail.length - 1), tail) else none

/-- A text without one line end at its end. -/
def dropLineEnd (s : List Char) : List Char :=
  if s.getLast? = some '\n' then s.dropLast else s

/-- The index and the digits of the ordinal that a text writes. -/
def bucketParts? (text : String) : Option (List Char × List Char) :=
  match splitAtLast? '_' (dropLineEnd text.toList) with
  | none => none
  | some (index, digits) =>
    if index = [] ∨ index.contains '\n' ∨ digits = [] ∨ !digits.all isDigit then none
    else some (index, digits)

/-- The bucket id that a text writes. -/
def BucketId.parse (text : String) : Except Fault BucketId :=
  match bucketParts? text with
  | none => .error (.notBucketId text)
  | some (index, digits) =>
    match ofDigits? (digits.filterMap digit?) with
    | .ok ordinal => .ok ⟨String.ofList index, ordinal⟩
    | .error fault => .error (.numeral fault)

/-- The text of the id of a bucket. -/
def bucketName (index : String) (ordinal : Int) : String := index ++ "_" ++ toString ordinal

/-- The text of a bucket id. -/
def BucketId.name (id : BucketId) : String := bucketName id.index id.ordinal

/-- The text of the id of a bucket whose ordinal is handed in, in any of its forms. -/
def bucketName? (index : String) (ordinal : Amount) : Except Fault String :=
  (ordinal.toInt.bind fun n => (writeInt n).mapError .numeral).map fun numeral =>
    index ++ "_" ++ numeral

/-- The key by which texts of bucket ids are ordered: the index, then the ordinal as a number. A
text that is no bucket id stands before the buckets of the index of that name. -/
def bucketOrder (text : String) : String × Int :=
  match BucketId.parse text with
  | .ok id => (id.index, id.ordinal)
  | .error _ => (text, -1)

/-- Whether the first of two texts may stand before the second in bucket order. -/
def bucketLe (a b : String) : Bool :=
  let x := bucketOrder a
  let y := bucketOrder b
  x.1 < y.1 || (x.1 == y.1 && x.2 ≤ y.2)

/-- Some texts of bucket ids in bucket order, equal ones as they stood. -/
def sortBuckets (names : List String) : List String := names.mergeSort bucketLe

end SymbolLookup

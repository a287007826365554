import SymbolLookup.Entry
/-!
# Shards

The entries of one bucket, with a report of what could not be read.

## Main definitions

* `Diagnostic`: what was wrong with a document or one of its records.
* `Shard`: the entries of a bucket.
-/

namespace SymbolLookup

/-- What was wrong with the document of a bucket, or with one of its records. -/
structure Diagnostic where
  bucket : String
  /-- What was wrong. -/
  message : String
  /-- The place of the record in the document; none for the document as a whole. -/
  record : Option Nat
  deriving DecidableEq, Repr

/-- The entries of one bucket. -/
structure Shard where
  bucket : String
  /-- The entries in the order of the document. -/
  entries : List Entry := []
  /-- The records that could not be read, in the order of the document. -/
  diagnostics : List Diagnostic := []
  deriving DecidableEq, Repr

end SymbolLookup

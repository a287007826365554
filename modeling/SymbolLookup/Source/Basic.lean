import SymbolLookup.Source.Folder
/-!
# Sources

Where shard documents come from: memory, a folder or a bundle.

## Main definitions

* `Source`: a source that was opened.
* `Source.indexes`, `Source.bucketIds`, `Source.partition`, `Source.fetch`: what it tells.
* `Source.close`: the source after it was closed.

## Design notes

A source that was closed has no buckets; only a bundle refuses to be asked then. The buckets of an
index are always told in bucket order, however the source holds them.
-/

namespace SymbolLookup

/-- A source of shard documents. -/
inductive Source where
  /-- Documents in memory by bucket, and the alphabets of some indexes. -/
  | memory (documents alphabets : List (String × String))
  /-- A folder of shard files. -/
  | folder (content : Folder)
  /-- A bundle, unless it is closed. -/
  | bundle (content : Option Bundle)
  deriving DecidableEq, Repr

/-- The indexes that some bucket ids belong to. -/
def indexesOf (names : List String) : Except Fault (List String) :=
  (names.mapM BucketId.parse).map fun ids =>
    (ids.map BucketId.index).eraseDups.mergeSort fun a b => a ≤ b

/-- Those of some bucket ids that belong to an index, in bucket order. -/
def bucketsOf (names : List String) (index : String) : Except Fault (List String) :=
  (names.mapM fun name => (BucketId.parse name).map fun id => (name, id.index)).map fun pairs =>
    sortBuckets ((pairs.filter fun pair => pair.2 == index).map (·.1))

/-- What a bundle tells, if it is open. -/
def ofBundle (content : Option Bundle) (ask : Bundle → α) : Except Fault α :=
  match content with
  | some bundle => .ok (ask bundle)
  | none => .error .bundleClosed

namespace Source

/-- The indexes of a source by name. -/
def indexes : Source → Except Fault (List String)
  | memory documents _ => indexesOf (Keyed.keys documents)
  | folder content => indexesOf (Keyed.keys content.shards)
  | bundle content => ofBundle content Bundle.indexes

/-- The buckets of an index in bucket order. -/
def bucketIds (source : Source) (index : String) : Except Fault (List String) :=
  match source with
  | memory documents _ => bucketsOf (Keyed.keys documents) index
  | folder content => bucketsOf (Keyed.keys content.shards) index
  | bundle content => ofBundle content (·.bucketsIn index)

/-- The partition of an index. -/
def partition (source : Source) (index : String) : Except Fault Partition :=
  match source with
  | memory _ alphabets =>
    .ok { index, alphabet := (Keyed.get? index alphabets).getD defaultAlphabet }
  | folder content => .ok (content.partition index)
  | bundle content => ofBundle content (·.partition index)

/-- The document of a bucket; none if the source has no such bucket. -/
def fetch (files : Files) (source : Source) (bucket : String) : Except Fault (Option String) :=
  match source with
  | memory documents _ => .ok (Keyed.get? bucket documents)
  | folder content => content.fetch files bucket
  | bundle (some content) => .ok (content.document? bucket)
  | bundle none => .error (.load bucket Fault.bundleClosed.message)

/-- The source after it was closed. -/
def close : Source → Source
  | memory _ alphabets => memory [] alphabets
  | folder content => folder { content with shards := [] }
  | bundle _ => bundle none

/-- The source with a document for a bucket; only memory can be written. -/
def put (bucket document : String) : Source → Source
  | memory documents alphabets => memory (Keyed.put bucket document documents) alphabets
  | source => source

end Source

end SymbolLookup

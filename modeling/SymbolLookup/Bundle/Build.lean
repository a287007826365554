import SymbolLookup.Source.Address
import SymbolLookup.Source.Supply
import SymbolLookup.Sum
/-!
# Packing

Copies a source into a bundle file.

## Main definitions

* `Bundle.ofSupply`: the bundle of all documents that a supply gives.
* `Packing`: what is left when a source was packed.
* `pack`: packs what a supply gives into a file.
* `packAddress`: packs the source at an address into a file.

## Design notes

The bundle is written under a name of its own next to the target and takes the place of the target
only when it is complete. If anything fails on the way the half-written file is removed; only a
request to end the program leaves it, with nothing in it yet.
-/

namespace SymbolLookup

/-- Why copying stopped, and what the supply was then. -/
abbrev Copying (α : Type) := Except Fault α × Supply

namespace Bundle

/-- The bundle with the documents of some buckets of an index. -/
def copyBuckets (index : String) (bundle : Bundle) (supply : Supply) :
    List String → Copying Bundle
  | [] => (.ok bundle, supply)
  | bucket :: buckets =>
    match supply.fetch bucket with
    | (.error fault, supply) => (.error fault, supply)
    | (.ok none, supply) => copyBuckets index bundle supply buckets
    | (.ok (some document), supply) =>
      match BucketId.parse bucket with
      | .error fault => (.error fault, supply)
      | .ok id =>
        match bundle.addRow bucket index id.ordinal document with
        | .error fault => (.error fault, supply)
        | .ok bundle => copyBuckets index bundle supply buckets

/-- The bundle with the alphabets and the documents of some indexes. -/
def copyIndexes (bundle : Bundle) (supply : Supply) : List String → Copying Bundle
  | [] => (.ok bundle, supply)
  | index :: indexes =>
    match supply.partition index with
    | .error fault => (.error fault, supply)
    | .ok partition =>
      match supply.bucketIds index with
      | .error fault => (.error fault, supply)
      | .ok buckets =>
        match copyBuckets index (bundle.addSection index partition.alphabet) supply buckets with
        | (.error fault, supply) => (.error fault, supply)
        | (.ok bundle, supply) => copyIndexes bundle supply indexes

/-- The bundle of all documents that a supply gives. -/
def ofSupply (supply : Supply) : Copying Bundle :=
  match supply.indexes with
  | .error fault => (.error fault, supply)
  | .ok indexes => copyIndexes {} supply indexes

end Bundle

/-- What is left when a source was packed. -/
structure Packing where
  /-- The bundle, or why there is none. -/
  result : Except Fault Bundle
  files : Files
  supply : Supply

/-- The ending of the file that a bundle is first written to. -/
def draftEnding : String := ".tmp"

/-- Whether a fault is a request to end the program, which nothing on the way may handle. -/
def Fault.isExit : Fault → Bool
  | .exit _ => true
  | _ => false

/-- Puts a complete draft in the place of the target. -/
def publish (files : Files) (draft target : Path) (content : Bundle) :
    Except Fault Bundle × Files :=
  let drafted := files.put draft.names (.bundle content)
  if files.hasDirectory target then
    (.error (.file (.replacesDirectory draft.text target.text)), drafted)
  else
    let cleared : Files := Keyed.erase draft.names drafted
    (.ok content, cleared.put target.names (.bundle content))

/-- Packs what a supply gives into a file, after its directory was made and an old draft removed. -/
def packInto (files : Files) (supply : Supply) (draft target : Path) : Packing :=
  match Bundle.ofSupply supply with
  | (.ok content, supply) =>
    let (result, files) := publish files draft target content
    { result, files, supply }
  | (.error fault, supply) =>
    { result := .error fault
      files := if fault.isExit then files.put draft.names (.bundle {}) else files
      supply }

/-- Packs what a supply gives into the file at a path. -/
def pack (files : Files) (supply : Supply) (target : Path) : Packing :=
  let draft := target.withEnding draftEnding
  match files.makeDirectories target.parent with
  | .error fault => { result := .error (.file fault), files, supply }
  | .ok files =>
    if (files.node? draft.names).isNone then packInto files supply draft target
    else
      match files.remove draft with
      | .error fault => { result := .error (.file fault), files, supply }
      | .ok files => packInto files supply draft target

/-- How many documents a bundle lists under its indexes. -/
def Bundle.size (bundle : Bundle) : Nat :=
  sumOver (fun index => (bundle.bucketsIn index).length) bundle.indexes

/-- Packs the source at an address into the file at a path that a text writes, and counts the
documents. Paths are seen from a directory. -/
def packAddress (files : Files) (here : Path) (address target : String) :
    Except Fault Nat × Files :=
  match Source.ofAddress files here address with
  | .error fault => (.error fault, files)
  | .ok source =>
    let packing := pack files { source, files } (Path.ofText here target)
    (packing.result.map Bundle.size, packing.files)

end SymbolLookup

import SymbolLookup.Files.Basic
import SymbolLookup.Manifest
import SymbolLookup.Settings
import SymbolLookup.Text.Folding
/-!
# Folders

A directory of shard files as documentation generators write it, with a manifest beside them.

## Main definitions

* `Folder`: the shard files of a directory by bucket, and its manifest.
* `Folder.ofListing`: the folder that the names in a directory make.
* `Folder.fetch`: the document of a bucket.

## Design notes

Only names are looked at when a folder is opened, except that the manifest is read; the documents
are read when they are asked for. A script is preferred to a data document of the same bucket. A
manifest that cannot be read counts as absent.
-/

namespace SymbolLookup

open Text

/-- The shard files of a directory. -/
structure Folder where
  /-- The directory. -/
  root : Path
  /-- The names of the shard files, by bucket. -/
  shards : List (String × String) := []
  /-- The manifest, if there is one that can be read. -/
  manifest : Option Manifest := none
  deriving DecidableEq, Repr

/-- The ending of script files. -/
def scriptEnding : String := ".js"

/-- The manifest that some bytes write, if they are text and write one. -/
def readManifest? (bytes : List UInt8) : Option Manifest :=
  (Utf8.decode? bytes).bind fun s =>
    match Manifest.read (String.ofList (Utf8.joinLines s)) with
    | .ok manifest => some manifest
    | .error _ => none

namespace Folder

/-- The folder with one more file of its directory. -/
def addFile (folder : Folder) (name : String) (node : Node) : Folder :=
  let (stem, ending) := splitEnding name
  let ending := lower ending
  if name = manifestName then
    match node with
    | .document bytes => { folder with manifest := (readManifest? bytes).or folder.manifest }
    | _ => folder
  else if !shardEndings.contains ending then folder
  else
    match BucketId.parse stem with
    | .error _ => folder
    | .ok _ =>
      if Keyed.has stem folder.shards && ending != scriptEnding then folder
      else { folder with shards := Keyed.put stem name folder.shards }

/-- The folder that some names in a directory make, with what stands there. -/
def ofListing (root : Path) (listing : List (String × Node)) : Folder :=
  listing.foldl
    (fun folder file => if file.2.isFile then folder.addFile file.1 file.2 else folder) { root }

/-- The document of a bucket; none if there is no file for it. -/
def fetch (files : Files) (folder : Folder) (bucket : String) : Except Fault (Option String) :=
  match Keyed.get? bucket folder.shards with
  | none => .ok none
  | some name =>
    match files.read (folder.root.child name) with
    | .ok bytes => .ok (some (String.ofList (Utf8.joinLines (Utf8.decodeLossy bytes))))
    | .error fault => .error (.load bucket fault.message)

/-- The partition of an index: the one that the manifest names, or else the standard one. -/
def partition (folder : Folder) (index : String) : Partition :=
  (folder.manifest.bind (·.partition? index)).getD { index }

end Folder

end SymbolLookup

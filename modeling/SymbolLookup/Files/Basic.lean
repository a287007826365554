import SymbolLookup.Bundle.Basic
import SymbolLookup.Files.Path
import SymbolLookup.Text.Utf8
/-!
# Files

A tree of files as far as sources read and write it.

## Main definitions

* `Node`: a directory, a document or a bundle.
* `Files`: the nodes of a tree.
* `Files.read`, `Files.write`, `Files.remove`: the operations on them.
-/

namespace SymbolLookup

open Text

/-- What stands at a path. -/
inductive Node where
  | directory
  /-- A file of bytes. -/
  | document (bytes : List UInt8)
  /-- A bundle file. -/
  | bundle (content : Bundle)
  deriving DecidableEq

/-- Whether a node is a file. -/
def Node.isFile : Node → Bool
  | .directory => false
  | _ => true

/-- The bytes with which every bundle file begins. -/
def bundleSignature : List UInt8 := Utf8.encode "SQLite format 3\x00"

/-- The bundle that a file holds. A file of at most one byte is a bundle without content. -/
def Node.bundle? : Node → Option Bundle
  | .bundle content => some content
  | .document bytes => if bytes.length ≤ 1 then some {} else none
  | .directory => none

/-- The nodes of a tree by the names that lead to them. The root is not listed. -/
abbrev Files := List (List String × Node)

namespace Files

/-- What stands at the end of some names. -/
def node? (files : Files) (names : List String) : Option Node :=
  if names = [] then some .directory else Keyed.get? names files

/-- Whether a directory stands at a path. -/
def hasDirectory (files : Files) (path : Path) : Bool := files.node? path.names == some .directory

/-- What stands at a path that a text writes; every name on the way has to lead to a directory. -/
def walk? (files : Files) : (names : List String) → (parts : List String) → Option Node
  | names, [] => files.node? names
  | names, part :: parts =>
    if files.node? names = some .directory then files.walk? (Path.follow names part) parts
    else none

/-- What stands at the end of a text, seen from a directory. -/
def find? (files : Files) (here : Path) (text : String) : Option Node :=
  let start := if text.startsWith "/" then [] else here.names
  if text = "" then none else files.walk? start (pathParts text)

/-- The names in a directory and what stands there. -/
def listing (files : Files) (path : Path) : List (String × Node) :=
  files.filterMap fun file =>
    match file.1.getLast? with
    | some name => if file.1.dropLast = path.names then some (name, file.2) else none
    | none => none

/-- Whether a file stands somewhere on the way to the end of some names. -/
def blocked (files : Files) (names : List String) : Bool :=
  (Path.stations names).dropLast.any fun before => (files.node? before).any Node.isFile

/-- The bytes of the file at a path. -/
def read (files : Files) (path : Path) : Except FileFault (List UInt8) :=
  match files.node? path.names with
  | some (.document bytes) => .ok bytes
  | some (.bundle _) => .ok bundleSignature
  | some .directory => .error (.isDirectory path.text)
  | none =>
    if files.blocked path.names then .error (.notDirectory path.text)
    else .error (.missing path.text)

/-- The tree with a directory at the end of some names, and with all directories on the way. -/
def addDirectories (files : Files) (names : List String) : Files :=
  (Path.stations names).foldl (fun files before =>
    if (files.node? before).isSome then files else Keyed.put before .directory files) files

/-- The tree with a node at the end of some names, and with all directories on the way. -/
def put (files : Files) (names : List String) (node : Node) : Files :=
  Keyed.put names node (files.addDirectories names.dropLast)

/-- Makes the directory at a path and all that are missing on the way. -/
def makeDirectories (files : Files) (path : Path) : Except FileFault Files :=
  match (Path.stations path.names).find? fun before => (files.node? before).any Node.isFile with
  | none => .ok (files.addDirectories path.names)
  | some before =>
    if before = path.names then .error (.exists path.text)
    else
      .error (.notDirectory { path with names := path.names.take (before.length + 1) }.text)

/-- Takes the file at a path out of the tree. -/
def remove (files : Files) (path : Path) : Except FileFault Files :=
  match files.node? path.names with
  | some .directory => .error (.isDirectory path.text)
  | some _ => .ok (Keyed.erase path.names files)
  | none =>
    if files.blocked path.names then .error (.notDirectory path.text)
    else .error (.missing path.text)

/-- The names of all files below a directory, as seen from there. -/
def filesBelow (files : Files) (path : Path) : List String :=
  let names := files.filterMap fun file =>
    if file.2.isFile && path.names.isPrefixOf file.1 then
      some ("/".intercalate (file.1.drop path.names.length))
    else none
  names.mergeSort fun a b => a ≤ b

end Files

end SymbolLookup

import SymbolLookup.Query.Match
import SymbolLookup.Source.Basic
/-!
# Addresses of sources

A source is known by an address: the path of a folder or a bundle, or a word for memory.

## Main definitions

* `Address`: what an address names.
* `Address.parse`: the address that a text writes.
* `Source.ofAddress`: opens the source at an address.
-/

namespace SymbolLookup

/-- What the address of a source names. -/
inductive Address where
  /-- The bundle file at this path. -/
  | bundle (path : String)
  /-- Memory without documents. -/
  | memory
  /-- The folder at this path. -/
  | folder (path : String)
  deriving DecidableEq, Repr

/-- What follows an expected beginning of a text. -/
def afterText? (beginning text : String) : Option String :=
  (afterChars? beginning.toList text.toList).map String.ofList

/-- Whether a text names a scheme: whether it holds a colon and two slashes. -/
def namesScheme (text : String) : Bool := occursIn "://".toList text.toList

/-- The address that a text writes: the path of a folder unless it begins otherwise. -/
def Address.parse (text : String) : Except Fault Address :=
  match afterText? "sqlite:///" text with
  | some path => .ok (.bundle path)
  | none =>
    if (afterText? "memory://" text).isSome then .ok .memory
    else
      let path := (afterText? "file://" text).getD text
      if namesScheme path then .error (.config (.unsupportedAddress text)) else .ok (.folder path)

/-- The bundle at a path that a text writes, seen from a directory. -/
def openBundle (files : Files) (here : Path) (path : String) : Except Fault Source :=
  match files.find? here path with
  | none | some .directory => .error (.config (.missingBundle path))
  | some node =>
    match node.bundle? with
    | some content => .ok (.bundle (some content))
    | none => .error .notBundle

/-- The folder at a path. -/
def openFolder (files : Files) (path : Path) : Except Fault Source :=
  if files.hasDirectory path then .ok (.folder (Folder.ofListing path (files.listing path)))
  else .error (.config (.missingDirectory path.text))

/-- The source at an address, paths being seen from a directory. -/
def Source.ofAddress (files : Files) (here : Path) (address : String) : Except Fault Source :=
  match Address.parse address with
  | .error fault => .error fault
  | .ok .memory => .ok (.memory [] [])
  | .ok (.bundle path) => openBundle files here path
  | .ok (.folder path) => openFolder files (Path.ofText here path)

end SymbolLookup

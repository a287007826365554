/-!
# Paths

Where files are: the names on the way from the root.

## Main definitions

* `Path`: an absolute path.
* `Path.ofText`: the path that a text writes, seen from a directory.
* `splitEnding`: the name of a file and its ending.

## Design notes

Two slashes at the beginning of a text, but no other number of them, are kept in the written form
of the path; they lead to the same files as one. Empty names and single dots are left out, and two
dots take back the name before them.
-/

namespace SymbolLookup

/-- An absolute path. -/
structure Path where
  /-- What the written form begins with. -/
  root : String := "/"
  /-- The names on the way from the root. -/
  names : List String := []
  deriving DecidableEq, Repr

/-- A text cut at every occurrence of a character. -/
def cutAt (c : Char) : List Char → List (List Char)
  | [] => [[]]
  | d :: s =>
    match cutAt c s with
    | [] => [[]]
    | part :: parts => if d = c then [] :: part :: parts else (d :: part) :: parts

/-- A text cut at its slashes. -/
def pathParts (text : String) : List String := (cutAt '/' text.toList).map String.ofList

namespace Path

/-- The written form of a path. -/
def text (path : Path) : String := path.root ++ "/".intercalate path.names

/-- The path that continues another one by a name. -/
def child (path : Path) (name : String) : Path := { path with names := path.names ++ [name] }

/-- The path without its last name. -/
def parent (path : Path) : Path := { path with names := path.names.dropLast }

/-- The path next to another one whose last name is longer by an ending. -/
def withEnding (path : Path) (ending : String) : Path :=
  { path with names := path.names.dropLast ++ [path.names.getLastD "" ++ ending] }

/-- The names that lead on from some names by one part of a text. -/
def follow (names : List String) (part : String) : List String :=
  if part = "" ∨ part = "." then names
  else if part = ".." then names.dropLast
  else names ++ [part]

/-- The path that a text writes, seen from a directory. -/
def ofText (here : Path) (text : String) : Path :=
  let parts := pathParts text
  match text.toList with
  | '/' :: '/' :: '/' :: _ => { names := parts.foldl follow [] }
  | '/' :: '/' :: _ => { root := "//", names := parts.foldl follow [] }
  | '/' :: _ => { names := parts.foldl follow [] }
  | _ => { here with names := parts.foldl follow here.names }

/-- The names of all directories on the way to the end of some names, the end included. -/
def stations : (names : List String) → List (List String)
  | [] => [[]]
  | name :: names => [] :: (stations names).map (name :: ·)

end Path

/-- The name of a file cut before its last dot, unless nothing but dots stands there. -/
def splitEnding (name : String) : String × String :=
  let ending := (name.toList.reverse.takeWhile (· ≠ '.')).reverse
  let stem := name.toList.take (name.length - ending.length - 1)
  if stem.all (· = '.') then (name, "")
  else (String.ofList stem, String.ofList ('.' :: ending))

end SymbolLookup

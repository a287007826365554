import SymbolLookup.Files.Path
import SymbolLookup.Keyed
import SymbolLookup.Query.Result
import SymbolLookup.Settings
import SymbolLookup.Text.Percent
/-!
# Request targets

What a web request asks for: the path of a resource and the parameters behind it.

## Main definitions

* `Target`: a path and its parameters.
* `Target.ofText`: the target that a text writes.
* `Resource`: what is found at a path.
* `Target.resource`: what a target asks for.

## Design notes

A path may begin with any number of slashes, but two slashes right at the beginning of a target
lead to another host, whose name is passed over. Inside a path, one slash more is answered by the
path without it.
-/

namespace SymbolLookup.Web

open Text

/-- What a web request asks for. -/
structure Target where
  /-- The path, its escapes resolved. -/
  path : List Char
  /-- The parameters in their order. -/
  parameters : List (String × String)
  deriving DecidableEq, Repr

namespace Target

/-- A text without the characters that are never sent: blanks and controls at its beginning, tabs
and line ends anywhere. -/
def sent (text : List Char) : List Char :=
  (text.dropWhile fun c => c.toNat ≤ 0x20).filter fun c => c != '\t' && c != '\n' && c != '\r'

/-- A target without the name of a host before its path. -/
def withoutHost : List Char → List Char
  | '/' :: '/' :: rest => rest.dropWhile fun c => c != '/' && c != '?' && c != '#'
  | text => text

/-- A part of a parameter: its plus signs stand for spaces, and its escapes are resolved. -/
def parameterPart (text : List Char) : String :=
  String.ofList (unescapePercent (text.map fun c => if c = '+' then ' ' else c))

/-- A parameter: its name, and its value behind an equals sign. -/
def parameter (text : List Char) : String × String :=
  let (name, value) := text.span (· ≠ '=')
  (parameterPart name, parameterPart value.tail)

/-- The target that a text writes. -/
def ofText (text : String) : Target :=
  let shown := (withoutHost (sent text.toList)).takeWhile (· ≠ '#')
  let (path, query) := shown.span (· ≠ '?')
  { path := Utf8.decodeLossy (escapedBytes (withoutHost path))
    parameters := ((cutAt '&' query.tail).filter (· ≠ [])).map parameter }

/-- The value of a parameter, the first one if there are several. -/
def parameter? (target : Target) (name : String) : Option String :=
  Keyed.get? name target.parameters

/-- The query that is asked, the empty one if there is none. -/
def query (target : Target) : String := (target.parameter? "q").getD ""

/-- How many groups are wanted; the usual number if no whole number is given. -/
def shown (target : Target) : Int :=
  match (target.parameter? "k").map readInt with
  | some (.ok n) => n
  | _ => shownGroups

end Target

/-- What is found at a path. -/
inductive Resource where
  /-- The answers to queries. -/
  | search
  /-- Whether there is a desk, and what it has. -/
  | health
  /-- What is found at the path without doubled slashes. -/
  | moved
  | nothing
  deriving DecidableEq, Repr

/-- A path with one slash for each two that follow each other. -/
def halveSlashes : List Char → List Char
  | '/' :: '/' :: path => '/' :: halveSlashes path
  | c :: path => c :: halveSlashes path
  | [] => []

/-- The directory of files that the web could show. -/
def fileDirectory : List Char := "/static/".toList

/-- Whether a path names a file that the web could show; there are no such files. -/
def namesFile (path : List Char) : Bool :=
  let name := path.drop fileDirectory.length
  fileDirectory.isPrefixOf path && name != [] && name.head? != some '/' && !name.tail.contains '\n'

/-- What is kept at a path just as it is written. -/
def Resource.at? (path : List Char) : Option Resource :=
  if path = "/api/search".toList then some .search
  else if path = "/api/health".toList then some .health
  else if namesFile path then some .nothing
  else none

/-- What is found at a path. -/
def Resource.ofPath (path : List Char) : Resource :=
  match Resource.at? path with
  | some resource => resource
  | none => if (Resource.at? (halveSlashes path)).isSome then .moved else .nothing

/-- What a target asks for. -/
def Target.resource (target : Target) : Resource :=
  if target.path = [] then .nothing
  else Resource.ofPath ('/' :: target.path.dropWhile (· = '/'))

end SymbolLookup.Web

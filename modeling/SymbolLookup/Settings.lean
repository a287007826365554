import SymbolLookup.Keyed
import SymbolLookup.Partition
import SymbolLookup.Query.Mode
/-!
# Settings

What the program does unless it is told otherwise, and how its environment changes that.

## Main definitions

* `Settings`: the choices that the environment can make.
* `Settings.ofEnvironment`: the choices made by some variables.
-/

namespace SymbolLookup

/-- The choices that the environment can make. -/
structure Settings where
  /-- The index to search. -/
  index : String := "all"
  /-- The name of the search mode; it is checked where it is used. -/
  mode : String := Mode.anywhere.name
  /-- How many loads may run at a time, if this is told. -/
  workers : Option Int := none
  /-- Whether progress is reported. -/
  verbose : Bool := false
  /-- The address of the source. -/
  source : String := "file://./search"
  deriving DecidableEq, Repr

/-- The endings of shard files. -/
def shardEndings : List String := [".js", ".json"]

/-- The name of the file that holds the manifest. -/
def manifestName : String := "searchdata.js"

/-- How many groups the console and the web show unless told otherwise. -/
def shownGroups : Int := 20

/-- What the names of the variables begin with. -/
def variableStart : String := "SYMSEARCH_"

/-- The names of the variables behind that beginning. -/
def variableNames : List String := ["INDEX", "MODE", "WORKERS", "VERBOSE", "SOURCE"]

/-- The settings that some variables of the environment make. -/
def Settings.ofEnvironment (environment : List (String × String)) : Except Fault Settings :=
  let standard : Settings := {}
  let value (name : String) : Option String := Keyed.get? (variableStart ++ name) environment
  let workers : Except Fault (Option Int) :=
    match value "WORKERS" with
    | none => .ok none
    | some text => ((Text.readInt text).mapError Fault.numeral).map some
  workers.map fun workers =>
    { index := (value "INDEX").getD standard.index
      mode := (value "MODE").getD standard.mode
      workers
      verbose := value "VERBOSE" == some "1"
      source := (value "SOURCE").getD standard.source }

end SymbolLookup

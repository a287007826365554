import SymbolLookup.CommandLine.Basic
import SymbolLookup.Desk.Service
/-!
# What a command searches

Every command that searches is told by the same switches where and how.

## Main definitions

* `Subject`: a source, an index and a mode.
* `Subject.desk`: the desk that is opened for them.
-/

namespace SymbolLookup

/-- What a command is told to search. -/
structure Subject where
  /-- The address of the source. -/
  source : String
  index : String
  /-- The name of the mode. -/
  mode : String
  /-- The settings that give the standard choices. -/
  settings : Settings
  deriving DecidableEq, Repr

namespace Subject

/-- The switches that tell what is searched, and the one that asks for help. -/
def switches : List Switch := [
  { names := ["-h", "--help"], kind := .help },
  { names := ["--source"] },
  { names := ["--index"] },
  { names := ["--mode"], kind := .oneOf [Mode.anywhere.name, Mode.beginning.name] }]

/-- What some switches tell; the settings stand for those that were not given. -/
def ofGiven (settings : Settings) (given : Given) : Subject :=
  { source := given.textOr "--source" settings.source
    index := given.textOr "--index" settings.index
    mode := given.textOr "--mode" settings.mode
    settings }

/-- The desk that is opened. -/
def desk (subject : Subject) (files : Files) (here : Path) (interpreter : Interpreter := {}) :
    Except Fault Desk :=
  Desk.ofAddress files here subject.source
    { index := subject.index, mode := subject.mode, settings := subject.settings, interpreter }

end Subject

end SymbolLookup

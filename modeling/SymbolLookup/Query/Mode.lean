import SymbolLookup.Fault
import SymbolLookup.Text.Folding
/-!
# Search modes

A query may be looked for anywhere in a name or only at its beginning.
-/

namespace SymbolLookup

/-- Where in a name a query is looked for. -/
inductive Mode where
  /-- Anywhere in the name. -/
  | anywhere
  /-- At the beginning of the name. -/
  | beginning
  deriving DecidableEq, Repr

namespace Mode

/-- The name of a mode. -/
def name : Mode → String
  | .anywhere => "substring"
  | .beginning => "prefix"

/-- The mode that a name asks for where names are not checked: any name but the one for the
beginning asks for anywhere. -/
def ofName (name : String) : Mode := if name = Mode.beginning.name then .beginning else .anywhere

/-- The mode of a name in any case. -/
def check (name : String) : Except Fault Mode :=
  let lowered := Text.lower name
  match [Mode.anywhere, .beginning].find? fun mode => mode.name == lowered with
  | some mode => .ok mode
  | none => .error (.config (.unknownMode lowered))

end Mode

end SymbolLookup

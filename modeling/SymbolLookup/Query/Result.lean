import SymbolLookup.Json.Basic
import SymbolLookup.Query.Match
import SymbolLookup.Query.Ranking
import SymbolLookup.Sum
/-!
# Results

The answer to a query as it is handed out, and its rows for display.

## Main definitions

* `Result`: an answer with what it answers.
* `answer`: the groups that a query finds in some shards.
* `Group.row`: a group as a row for display.
-/

namespace SymbolLookup

/-- An answer with what it answers. -/
structure Result where
  /-- The query as it came in, if there was a text at all. -/
  query : Option String
  /-- The search key of the query. -/
  key : String
  /-- The groups found. -/
  groups : List Group
  /-- What could not be searched. -/
  warnings : List String := []
  /-- Which query of its session was answered; zero outside sessions. -/
  generation : Nat := 0
  deriving DecidableEq, Repr

/-- The search key of a query; a query without a text has the empty one. -/
def queryKey (query : Option String) : String := normalize (query.getD "")

/-- How many entries the groups of an answer hold. -/
def Result.total (result : Result) : Nat :=
  sumOver (fun group => group.occurrences.length) result.groups

/-- The answer to a query over some shards. -/
def answer (shards : List Shard) (key : String) (mode : Mode) (limit : Option Int) : List Group :=
  rank (hits shards key mode) key limit

/-- An entry as a part of a row for display. -/
def Entry.row (entry : Entry) : Json :=
  .object [("label", .text entry.label), ("anchor", .text entry.anchor.link),
    ("path", .text entry.anchor.path), ("fragment", .text entry.anchor.fragment)]

/-- A group as a row for display. -/
def Group.row (group : Group) : Json :=
  .object [("name", .text group.name), ("occurrences", .list (group.occurrences.map Entry.row))]

/-- The rows of an answer. -/
def rows (groups : List Group) : Json := .list (groups.map Group.row)

end SymbolLookup

import SymbolLookup.Json.Printer
import SymbolLookup.Shard.Basic
/-!
# Writing shards

The data document of a shard.

## Main definitions

* `Shard.runs`: the entries of a shard, neighbours of the same name together.
* `Shard.toJson`, `Shard.write`: the document.
-/

namespace SymbolLookup

/-- Puts an entry before some runs of entries of the same name. -/
def addToRuns (entry : Entry) : List (String × List Entry) → List (String × List Entry)
  | [] => [(entry.name, [entry])]
  | run :: runs =>
    if run.1 = entry.name then (run.1, entry :: run.2) :: runs
    else (entry.name, [entry]) :: run :: runs

namespace Shard

/-- The entries of a shard in its order, neighbours of the same name together. -/
def runs (shard : Shard) : List (String × List Entry) := shard.entries.foldr addToRuns []

/-- The records of a shard: each name with its labels and links. -/
def toJson (shard : Shard) : Json :=
  .list <| shard.runs.map fun run =>
    .list [.text run.1,
      .list <| run.2.map fun entry => .list [.text entry.label, .text entry.anchor.link]]

/-- The data document of a shard. -/
def write (shard : Shard) : String := shard.toJson.render

end Shard

end SymbolLookup

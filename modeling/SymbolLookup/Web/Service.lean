import SymbolLookup.Desk.Service
import SymbolLookup.Web.Target
/-!
# The web service

What the web answers to requests.

## Main definitions

* `Response`: an answer.
* `answer`: the answer to a request, at a desk if there is one.
* `answers`: the answers to several requests, one after the other.

## Design notes

A blank query is answered without a desk. Faults that tell something about the source are told to
whoever asked; of all others only the status is seen.
-/

namespace SymbolLookup.Web

/-- An answer. -/
structure Response where
  /-- Whether and why there is an answer, as a number. -/
  status : Nat
  /-- The answer as JSON, if there is one. -/
  body : Option Json := none

/-- Whether a fault is told to whoever asked. -/
def isTold : Fault → Bool
  | .config _ | .load _ _ | .malformed _ _ _ => true
  | _ => false

namespace Response

/-- A good answer with some fields. -/
def good (fields : List (String × Json)) : Response :=
  { status := 200, body := some (.object fields) }

/-- The answer of a request that failed. -/
def failed (fault : Fault) : Response :=
  if isTold fault then { status := 500, body := some (.object [("error", .text fault.message)]) }
  else { status := 500 }

/-- The answer to a query. -/
def found (query : String) (groups : List Group) (total : Nat) (warnings : List String) :
    Response :=
  good [("query", .text query), ("groups", rows groups), ("total", .integer total),
    ("warnings", .list (warnings.map .text))]

end Response

/-- Whether a query has nothing but blanks. -/
def isBlankQuery (query : String) : Bool := (Text.trim query.toList).isEmpty

/-- The answer to a query at a desk. -/
def searchAt (desk : Desk) (query : String) (shown : Int) : Response × Desk :=
  match desk.search (some query) (some (.integer shown)) .joined with
  | (.error fault, desk) => (.failed fault, desk)
  | (.ok result, desk) => (.found query result.groups result.total result.warnings, desk)

/-- The answer to a query. -/
def search (desk : Option Desk) (target : Target) : Response × Option Desk :=
  if isBlankQuery target.query then (.found target.query [] 0 [], desk)
  else
    match desk with
    | none =>
      ({ status := 503, body := some (.object [("error", .text "engine not initialized")]) }, none)
    | some desk =>
      let (response, desk) := searchAt desk target.query target.shown
      (response, some desk)

/-- What a desk has, if there is one. -/
def health : Option Desk → Response
  | none => { status := 503, body := some (.object [("ok", .bool false)]) }
  | some desk =>
    match desk.stats with
    | .error fault => .failed fault
    | .ok stats =>
      .good [("ok", .bool true), ("index", .text stats.index), ("mode", .text stats.mode.name),
        ("buckets", .integer stats.buckets), ("loaded", .integer stats.loaded)]

/-- The answer to a request, at a desk if there is one. -/
def answer (desk : Option Desk) (target : Target) : Response × Option Desk :=
  match target.resource with
  | .search => search desk target
  | .health => (health desk, desk)
  | .moved => ({ status := 308 }, desk)
  | .nothing => ({ status := 404 }, desk)

/-- The answers to several requests, one after the other. -/
def answers (desk : Option Desk) : List Target → List Response × Option Desk
  | [] => ([], desk)
  | target :: targets =>
    let (response, desk) := answer desk target
    let (responses, desk) := answers desk targets
    (response :: responses, desk)

end SymbolLookup.Web

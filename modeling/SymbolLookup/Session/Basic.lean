import SymbolLookup.Query.Result
/-!
# Sessions

A session is a box in which a query is typed. Whatever is typed last supersedes what is still
pending.

## Main definitions

* `QueryState`: where a query stands.
* `Script`: what a host types.
* `Rule`: what a host does when it is called.
* `FollowUp`: what a host does with an outcome.
* `Outcome`: what is owed for a query.
* `Session`: a box.
* `Session.submit`: the box after something was typed.
* `Session.settle`: the box after its query was answered.

## Design notes

The queries of a session are numbered; the number is its generation. At most one query of a session
is pending, and that is the one of the latest generation.

What a host does is told beforehand. It may choose by what it is told or by anything else, but what
it does in one run is certain, and that is what its rules and follow-ups list.
-/

namespace SymbolLookup

/-- Where a query stands. -/
inductive QueryState where
  /-- The box is empty. -/
  | idle
  /-- The answer is waited for. -/
  | pending
  /-- The query was answered, or failed. -/
  | settled
  /-- Another query took its place. -/
  | cancelled
  deriving DecidableEq, Repr

/-- The name of a state. -/
def QueryState.name : QueryState → String
  | .idle => "idle"
  | .pending => "pending"
  | .settled => "settled"
  | .cancelled => "cancelled"

/-- What a host is called for. -/
inductive Occasion where
  /-- The state of a query changed. -/
  | state
  /-- A bucket could not be searched. -/
  | warning
  /-- A query was answered. -/
  | results
  /-- A document was found malformed. -/
  | diagnostic
  deriving DecidableEq, Repr

/-- What a host types, one query after the other. -/
inductive Script where
  /-- Nothing more. -/
  | stop
  /-- A query, into its own session if none is named. -/
  | type (session : Option Nat) (query : Option String) (rest : Script)
  /-- A query likewise, and the host means to do something with the outcome, as a `FollowUp`
  tells. -/
  | typeThen (session : Option Nat) (query : Option String) (whenSuperseded : Bool)
      (reply : Option String) (next otherwise rest : Script)
  deriving DecidableEq, Repr

/-- What a host does at one call for an occasion: it types queries, or fails, or the one after the
other. -/
structure Rule where
  on : Occasion
  /-- How many calls for the occasion it takes until the rule applies, that one counted. -/
  nth : Nat := 1
  /-- The query that is typed. -/
  submits : Option String := none
  /-- What is typed after it. -/
  next : Script := .stop
  /-- The message of the failure. -/
  raises : Option String := none
  deriving DecidableEq, Repr

/-- Whether a rule applies at the next call for an occasion. -/
def Rule.applies (occasion : Occasion) (rule : Rule) : Bool :=
  rule.on == occasion && rule.nth == 1

/-- The rules that apply at a call for an occasion. -/
def applying (occasion : Occasion) (rules : List Rule) : List Rule :=
  rules.filter (·.applies occasion)

/-- The rules that are left after a call for an occasion. -/
def afterCall (occasion : Occasion) (rules : List Rule) : List Rule :=
  (rules.filter fun rule => !rule.applies occasion).map fun rule =>
    if rule.on = occasion then { rule with nth := rule.nth - 1 } else rule

/-- What a host does with an outcome once it is there: it types a query in some cases. -/
structure FollowUp where
  /-- Whether it does so for a query that was superseded, or for all others that were not
  cancelled. -/
  whenSuperseded : Bool
  /-- The query that is typed. -/
  query : Option String
  /-- What is typed after it. -/
  next : Script := .stop
  /-- What is typed in all other cases. -/
  otherwise : Script := .stop
  deriving DecidableEq, Repr

/-- What became of a query. -/
inductive Answered where
  /-- Another query took its place. -/
  | superseded
  /-- It was answered. -/
  | result (result : Result)
  /-- Answering it failed. -/
  | fault (fault : Fault)
  /-- The host cancelled it. -/
  | cancelled
  deriving DecidableEq, Repr

/-- What is owed for a query. -/
structure Outcome where
  /-- The session of the query. -/
  session : Nat
  /-- What became of the query, if that is settled. -/
  answered : Option Answered := none
  /-- Whether the host was given the outcome. -/
  handedOut : Bool := false
  /-- What the host still means to do with it. -/
  followUp : Option FollowUp := none
  deriving DecidableEq, Repr

/-- A box in which a query is typed. -/
structure Session where
  /-- Where in a name queries are looked for. -/
  mode : Mode
  /-- How many groups are shown. -/
  limit : Option Amount := none
  /-- How the index divides names among its buckets. -/
  partition : Partition
  /-- The buckets of the index. -/
  buckets : List String
  /-- Whether the host wants to hear of nothing but results. -/
  quiet : Bool := false
  /-- What the host will do when it is called. -/
  rules : List Rule := []
  /-- How many queries were typed. -/
  generation : Nat := 0
  /-- Where the latest query stands. -/
  state : QueryState := .idle
  /-- The outcome of the pending query. -/
  pending : Option Nat := none
  /-- The outcome of the latest query. -/
  latest : Option Nat := none
  /-- How many queries were superseded. -/
  cancelled : Nat := 0

namespace Session

/-- The state in which a query with this key begins. -/
def stateFor (key : String) : QueryState := if key = "" then .idle else .pending

/-- The box after a query with this key was typed, for which `outcome` is owed; `supersedes` tells
whether a query was still pending. -/
def submit (session : Session) (key : String) (outcome : Nat) (supersedes : Bool) : Session :=
  { session with
    generation := session.generation + 1
    state := stateFor key
    pending := if key = "" then none else some outcome
    latest := some outcome
    cancelled := session.cancelled + if supersedes then 1 else 0 }

/-- The box after its pending query was answered. -/
def settle (session : Session) : Session := { session with state := .settled, pending := none }

/-- The box after the host was called for an occasion. -/
def called (session : Session) (occasion : Occasion) : Session :=
  { session with rules := afterCall occasion session.rules }

/-- Whether the host is called for an occasion. -/
def hears (session : Session) (occasion : Occasion) : Bool :=
  !session.quiet || occasion == .results

end Session

end SymbolLookup

import SymbolLookup.Cache.Basic
import SymbolLookup.Session.Basic
import SymbolLookup.Shard.Interpreter
import SymbolLookup.Source.Supply
/-!
# The search desk

The desk is where queries are brought: it has a supply of documents, a cache of the shards read
from them, and the sessions of its hosts.

## Main definitions

* `Call`, `Event`: what a host is called for, and what happens at a desk.
* `Task`: what a desk has to do next.
* `Desk`: a desk.

## Design notes

A desk does one thing at a time. When it calls a host, the host may type the next query before it
returns, and that query is dealt with first. So what is still to be done is a stack of tasks, the
next one on top, and a fault takes tasks off the stack down to the first one that handles it.
-/

namespace SymbolLookup

/-- A call of a host. -/
inductive Call where
  /-- The state of a query of a session changed. -/
  | state (session generation : Nat) (state : QueryState)
  /-- A query of a session is answered without a bucket, for this reason. -/
  | warning (session generation : Nat) (bucket reason : String)
  /-- A query of a session was answered. -/
  | results (session generation : Nat) (groups : List Group)
  /-- A document was found malformed. -/
  | diagnostic (diagnostic : Diagnostic)
  deriving DecidableEq, Repr

namespace Call

/-- The occasion of a call. -/
def occasion : Call → Occasion
  | state _ _ _ => .state
  | warning _ _ _ _ => .warning
  | results _ _ _ => .results
  | diagnostic _ => .diagnostic

/-- The session that a call is about; calls about documents go to the host of the desk, for which
the first session counts as its own. -/
def session : Call → Nat
  | state session _ _ | warning session _ _ _ | results session _ _ => session
  | diagnostic _ => 0

end Call

/-- What happens at a desk. -/
inductive Event where
  /-- The document of a bucket was fetched, or could not be. -/
  | fetched (bucket : String)
  /-- A host was called. -/
  | called (call : Call)
  /-- A host was told what became of a query. -/
  | done (outcome : Nat) (answered : Answered)
  deriving DecidableEq, Repr

/-- What a desk has to do. -/
inductive Task where
  /-- Take a query that was typed into a session. -/
  | submit (session : Nat) (query : Option String) (followUp : Option FollowUp)
  /-- Look for the answer to a query. -/
  | look (ticket : Ticket)
  /-- Give the outcome of a query to the host. -/
  | handOut (outcome : Nat)
  /-- Call a host. -/
  | call (call : Call)
  /-- Settle the outcome of a query. -/
  | resolve (outcome : Nat) (answered : Answered)
  /-- Answer a query if all its loads have ended. -/
  | settle (ticket : Ticket)
  /-- Tell the host of a session the answer, and before that which buckets it lacks. -/
  | deliver (ticket : Ticket) (failures : List (String × String)) (result : Result)
  /-- Settle the outcome of a query with its answer, or with the fault that telling it met. -/
  | conclude (outcome : Nat) (result : Result)
  /-- Let a fault take its way. -/
  | raise (fault : Fault)
  /-- Handle a fault by passing over it. -/
  | guard
  /-- End a load. -/
  | finish (number : Nat) (ending : Ending)
  /-- Run a load whose turn has come. -/
  | load (number : Nat)
  /-- Run all loads whose turn has not come. -/
  | drain
  deriving DecidableEq, Repr

/-- A search desk. -/
structure Desk where
  /-- Where documents come from. -/
  supply : Supply
  /-- The index that is searched. -/
  index : String
  /-- Where in a name queries are looked for. -/
  mode : Mode
  /-- How the index divides names among its buckets. -/
  partition : Partition
  /-- The shards and the loads. -/
  cache : Cache := {}
  /-- The sessions by number. -/
  sessions : List Session := []
  /-- The outcomes of all queries, in the order in which the queries were typed. -/
  outcomes : List Outcome := []
  /-- What the host of the desk will do when it is called. -/
  rules : List Rule := []
  /-- What happened, the first first. -/
  events : List Event := []
  /-- How many turns were given to loads. -/
  turns : Nat := 0
  /-- What reads the documents. -/
  interpreter : Interpreter := {}

namespace Desk

/-- The desk after something more happened. -/
def record (desk : Desk) (event : Event) : Desk := { desk with events := desk.events ++ [event] }

/-- The desk with another state of a session. -/
def setSession (desk : Desk) (number : Nat) (session : Session) : Desk :=
  { desk with sessions := desk.sessions.set number session }

/-- The desk with another state of an outcome. -/
def setOutcome (desk : Desk) (number : Nat) (outcome : Outcome) : Desk :=
  { desk with outcomes := desk.outcomes.set number outcome }

/-- Whether an outcome is still owed. -/
def isOwed (desk : Desk) (number : Nat) : Bool :=
  desk.outcomes[number]?.any fun outcome => outcome.answered.isNone

end Desk

end SymbolLookup

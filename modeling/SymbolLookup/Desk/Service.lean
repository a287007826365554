import SymbolLookup.Desk.Run
import SymbolLookup.Settings
import SymbolLookup.Source.Address
/-!
# What a desk does for its hosts

## Main definitions

* `Desk.ofSupply`, `Desk.ofAddress`: opens a desk over a supply or the source at an address.
* `Turns`: when the loads that are held have their turns.
* `Desk.search`: answers one query at once.
* `Desk.openSession`, `Desk.type`, `Desk.wait`: queries that are typed.
* `Desk.shard`, `Desk.gather`, `Desk.preload`: the shards of some buckets.
* `Desk.runHeld`, `Desk.cancelLoad`, `Desk.cancelOutcome`: what else hosts may do.
* `Desk.shutDown`: closes a desk.

## Design notes

Whoever waits for shards gives all loads their turns. Those that were held before may have theirs
before the shards are asked for, or only then; in that case they are shared by the one who asks.
Sessions outlive the closing of their desk, but nothing is loaded for them any more.
-/

namespace SymbolLookup

/-- What a desk is opened with. -/
structure Opening where
  /-- The index to search; the standard one if it is empty. -/
  index : String := ""
  /-- The name of the mode; the standard one if it is empty. -/
  mode : String := ""
  /-- How many loads may run at a time; the standard number if it is zero. -/
  workers : Int := 0
  /-- What the host of the desk will do when it is called. -/
  rules : List Rule := []
  /-- The settings that give the standard choices. -/
  settings : Settings := {}
  /-- What reads the documents. -/
  interpreter : Interpreter := {}

/-- How many loads may run at a time; one if nobody chose a number. -/
def Opening.loadsAtOnce (opening : Opening) : Int :=
  if opening.workers = 0 then opening.settings.workers.getD 1 else opening.workers

/-- The index that is meant by a wanted one among those of a source: the only one, if there is one
only, and any at all if there is none. -/
def chooseIndex (wanted : String) (available : List String) : Except Fault String :=
  if available.contains wanted then .ok wanted
  else
    match available with
    | [] => .ok wanted
    | [only] => .ok only
    | _ => .error (.config (.unknownIndex wanted available))

/-- A text, or another one if it is empty. -/
def orElse (text standard : String) : String := if text = "" then standard else text

/-- A count of the buckets of an index and the shards at hand. -/
structure Stats where
  index : String
  /-- Where in a name queries are looked for. -/
  mode : Mode
  /-- How many buckets the index has. -/
  buckets : Nat
  /-- How many shards are in the cache. -/
  loaded : Nat
  deriving DecidableEq, Repr

/-- What one who waits for a load gets. -/
def Ending.result (bucket : String) : Ending → Except Fault Shard
  | .shard found => .ok found
  | .failed reason => .error (.load bucket reason)
  | .exit reason => .error (.exit reason)
  | .cancelled => .error .cancelled

/-- What one who waits for an outcome gets; nothing for a query that was superseded. -/
def Answered.value : Answered → Except Fault (Option Result)
  | .superseded => .ok none
  | .result answer => .ok (some answer)
  | .fault cause => .error cause
  | .cancelled => .error .cancelled

/-- When the loads that are held have their turns if somebody waits for shards. -/
inductive Turns where
  /-- Before anything is asked for. -/
  | first
  /-- Together with those that are begun for what is asked for. -/
  | joined
  deriving DecidableEq, Repr

/-- What a session is opened with. -/
structure SessionOpening where
  /-- How many groups are shown. -/
  limit : Option Amount := none
  /-- The name of the mode, if it is not that of the desk. -/
  mode : Option String := none
  /-- The index, if it is not that of the desk. -/
  index : Option String := none
  /-- Whether the host wants to hear of nothing but results. -/
  quiet : Bool := false
  /-- What the host will do when it is called. -/
  rules : List Rule := []

namespace Desk

/-- Opens a desk over a supply. -/
def ofSupply (supply : Supply) (opening : Opening) : Except Fault Desk := do
  let mode ← Mode.check (orElse opening.mode opening.settings.mode)
  let index ← chooseIndex (orElse opening.index opening.settings.index) (← supply.indexes)
  let partition ← supply.partition index
  if opening.loadsAtOnce ≤ 0 then throw .noWorkers
  let _ ← supply.bucketIds index
  return { supply, index, mode, partition, rules := opening.rules
           interpreter := opening.interpreter }

/-- Opens a desk over the source at an address, or at the standard address if it is empty. Paths are
seen from a directory. -/
def ofAddress (files : Files) (here : Path) (address : String) (opening : Opening) :
    Except Fault Desk := do
  let source ← Source.ofAddress files here (orElse address opening.settings.source)
  ofSupply { source, files } opening

/-- Whether a desk is open. -/
def isOpen (desk : Desk) : Bool := desk.cache.isOpen

/-- The buckets of the index that is searched. -/
def bucketIds (desk : Desk) : Except Fault (List String) := desk.supply.bucketIds desk.index

/-! ## Waiting for shards -/

/-- The desk at which shards are asked for. -/
def poised (desk : Desk) : Turns → Desk
  | .first => desk.drained
  | .joined => desk

/-- Asks for some buckets and gives all loads their turns: how the loads of the buckets ended. -/
def obtain (desk : Desk) (buckets : List String) :
    Except Fault (List (String × Ending)) × Desk :=
  match desk.cache.requestAll buckets with
  | .error fault => (.error fault, desk)
  | .ok (fetched, cache) =>
    let desk := { desk with cache }.drained
    match desk.cache.endings? fetched with
    | none => (.error .unfinished, desk)
    | some endings => (.ok endings, desk)

/-- The shards and the failures of some buckets. -/
def gather (desk : Desk) (buckets : List String) : Except Fault Collected × Desk :=
  if !desk.isOpen then (.error .closed, desk)
  else
    match desk.obtain buckets.eraseDups with
    | (.error fault, desk) => (.error fault, desk)
    | (.ok endings, desk) => (collect endings, desk)

/-- The shard of a bucket. -/
def shard (desk : Desk) (bucket : String) (turns : Turns := .first) : Except Fault Shard × Desk :=
  if !desk.isOpen then (.error .closed, desk)
  else
    match (desk.poised turns).obtain [bucket] with
    | (.ok [(_, ending)], desk) => (ending.result bucket, desk)
    | (.ok _, desk) => (.error .unfinished, desk)
    | (.error fault, desk) => (.error fault, desk)

/-- The shards and the failures of those buckets of the index that are chosen among all. -/
def gatherFrom (desk : Desk) (choose : List String → List String) (turns : Turns := .first) :
    Except Fault Collected × Desk :=
  if !desk.isOpen then (.error .closed, desk)
  else
    let desk := desk.poised turns
    match desk.bucketIds with
    | .error fault => (.error fault, desk)
    | .ok buckets =>
      match desk.obtain (choose buckets) with
      | (.error fault, desk) => (.error fault, desk)
      | (.ok endings, desk) => (collect endings, desk)

/-- Loads all buckets of the index and counts those that were loaded. -/
def preload (desk : Desk) (turns : Turns := .first) : Except Fault Nat × Desk :=
  let (all, desk) := desk.gatherFrom id turns
  (all.map fun all => all.shards.length, desk)

/-- Answers a query at once, outside all sessions. -/
def search (desk : Desk) (query : Option String) (limit : Option Amount := none)
    (turns : Turns := .first) : Except Fault Result × Desk :=
  let key := queryKey query
  let (all, desk) :=
    desk.gatherFrom (fun buckets => candidates key buckets desk.partition desk.mode) turns
  let result := do
    let all ← all
    let limit ← readLimit limit
    return { query, key, groups := answer all.shards key desk.mode limit
             warnings := all.failures.map failureMessage }
  (result, desk)

/-! ## Asking without waiting -/

/-- Asks for some buckets, and tells for which of them nothing has to be waited for. -/
def request (desk : Desk) (buckets : List String) : Except Fault (List (String × Bool)) × Desk :=
  if !desk.isOpen then (.error .closed, desk)
  else
    match desk.cache.requestAll buckets.eraseDups with
    | .error fault => (.error fault, desk)
    | .ok (fetched, cache) =>
      (.ok (fetched.map fun pair => (pair.1, (cache.ending? pair.2).isSome)), { desk with cache })

/-- The buckets whose shards are at hand, in the order in which they were loaded. -/
def loaded (desk : Desk) : Except Fault (List String) :=
  if desk.isOpen then .ok (Keyed.keys desk.cache.shards) else .error .closed

/-- Counts the buckets of the index and the shards at hand. -/
def stats (desk : Desk) : Except Fault Stats :=
  if desk.isOpen then
    desk.bucketIds.map fun buckets =>
      ⟨desk.index, desk.mode, buckets.length, desk.cache.shards.length⟩
  else .error .closed

/-! ## Sessions -/

/-- The session that is opened. -/
def sessionFor (desk : Desk) (opening : SessionOpening) : Except Fault Session := do
  if !desk.isOpen then throw .closed
  let mode ← Mode.check (opening.mode.getD desk.mode.name)
  let index := opening.index.getD desk.index
  let partition ← desk.supply.partition index
  let buckets ← desk.supply.bucketIds index
  return { mode, limit := opening.limit, partition, buckets, quiet := opening.quiet
           rules := opening.rules }

/-- Opens a session and tells its number. -/
def openSession (desk : Desk) (opening : SessionOpening) : Except Fault Nat × Desk :=
  match desk.sessionFor opening with
  | .error fault => (.error fault, desk)
  | .ok session =>
    (.ok desk.sessions.length, { desk with sessions := desk.sessions ++ [session] })

/-- Types a query into a session and tells the number of its outcome. -/
def type (desk : Desk) (session : Nat) (query : Option String)
    (followUp : Option FollowUp := none) : Except Fault Nat × Desk :=
  match desk.run [.submit session query followUp] with
  | (after, none) => (.ok desk.outcomes.length, after)
  | (after, some fault) => (.error fault, after)

/-- What became of the latest query of a session; nothing if there was none. -/
def wait (desk : Desk) (session : Session) : Except Fault (Option Result) :=
  match session.latest with
  | none => .ok none
  | some number =>
    match (desk.outcomes[number]?).bind (·.answered) with
    | none => .error .unfinished
    | some answered => answered.value

/-- The outcome of a query, if the host was given it. -/
def outcome? (desk : Desk) (number : Nat) : Option Outcome :=
  desk.outcomes[number]?.filter (·.handedOut)

/-- Cancels the outcome of a query and tells whether it is cancelled now; one that is settled
otherwise stays as it is. -/
def cancelOutcome (desk : Desk) (number : Nat) (outcome : Outcome) : Bool × Desk :=
  match outcome.answered with
  | none => (true, (desk.run [.resolve number .cancelled]).1)
  | some answered => (answered == .cancelled, desk)

/-! ## Loads that are held -/

/-- Gives the held load of a bucket its turn, and tells whether there is one. -/
def runHeld (desk : Desk) (bucket : String) : Bool × Desk :=
  match desk.cache.heldLoad? bucket with
  | none => (false, desk)
  | some number =>
    let held := desk.cache.held.erase number
    (true, ({ desk with cache := { desk.cache with held } }.run [.load number]).1)

/-- Cancels the held load of a bucket, and tells whether there is one. It keeps its turn, but
nothing is loaded when the turn comes. -/
def cancelLoad (desk : Desk) (bucket : String) : Bool × Desk :=
  match desk.cache.heldLoad? bucket with
  | none => (false, desk)
  | some number =>
    if (desk.cache.ending? (.load number)).isSome then (true, desk)
    else (true, (desk.run [.finish number .cancelled]).1)

/-- The buckets of the loads whose turn has not come. -/
def heldBuckets (desk : Desk) : List String := desk.cache.held.map desk.cache.bucketOf

/-! ## Closing -/

/-- Closes a desk: no further loads are taken, those that are held have their turns, and the source
is closed. -/
def shutDown (desk : Desk) : Desk :=
  if desk.isOpen then
    let desk := { desk with cache := { desk.cache with isOpen := false } }.drained
    { desk with supply := desk.supply.close }
  else desk

end Desk

end SymbolLookup

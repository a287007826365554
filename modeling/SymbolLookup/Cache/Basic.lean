import SymbolLookup.Fault
import SymbolLookup.Shard.Basic
/-!
# The cache of shards

Shards are loaded when they are first asked for and kept from then on.

## Main definitions

* `Ending`: how a load ended.
* `Ticket`: a query that waits for the buckets it looks into.
* `Cache`: the shards that were loaded, and the loads.
* `Cache.request`: asks for a bucket.
* `Cache.endings?`: how the loads of some buckets ended, once all have.
* `collect`: the shards and the failures among them.

## Design notes

Loads are numbered in the order in which they were begun, and a load that ended stays as it is. A
bucket is in flight from the request that began its load until the load takes it out again, and all
requests in between share the load. A load that is left by a request to end the program, or that
was cancelled, does not take its bucket out: whoever asks for the bucket later shares its ending.
-/

namespace SymbolLookup

/-- How the load of a bucket ended. -/
inductive Ending where
  /-- With a shard. -/
  | shard (shard : Shard)
  /-- Without one, for this reason. -/
  | failed (reason : String)
  /-- With a request to end the program. -/
  | exit (reason : String)
  /-- It was cancelled before its turn came. -/
  | cancelled
  deriving DecidableEq, Repr

/-- What is handed to those who ask for a bucket. -/
inductive Fetched where
  /-- The shard, which was in the cache. -/
  | ready (shard : Shard)
  | load (number : Nat)
  deriving DecidableEq, Repr

/-- A query of a session and what it waits for. -/
structure Ticket where
  session : Nat
  /-- Which query of its session it is. -/
  generation : Nat
  /-- The query as it came in. -/
  query : Option String
  /-- The search key of the query. -/
  key : String
  /-- The outcome that is owed for it. -/
  outcome : Nat
  /-- The buckets that it looks into, with what was handed out for them. -/
  fetched : List (String × Fetched) := []
  deriving DecidableEq, Repr

/-- The load of a bucket. -/
structure Load where
  bucket : String
  /-- How it ended, if it has. -/
  ending : Option Ending := none
  /-- The queries that wait for it, in the order in which they came. -/
  waiting : List Ticket := []
  deriving DecidableEq, Repr

/-- The shards that were loaded, and the loads. -/
structure Cache where
  /-- The shards by bucket, in the order in which they were loaded. -/
  shards : List (String × Shard) := []
  /-- The loads that requests for their buckets share. -/
  inFlight : List (String × Nat) := []
  /-- All loads by number. -/
  loads : List Load := []
  /-- The numbers of the loads whose turn has not come, the oldest first. -/
  held : List Nat := []
  /-- Whether further loads are taken. -/
  isOpen : Bool := true
  deriving DecidableEq, Repr

namespace Cache

/-- Asks for a bucket: its shard, the load in flight, or else a new load. -/
def request (cache : Cache) (bucket : String) : Except Fault (Fetched × Cache) :=
  match Keyed.get? bucket cache.shards with
  | some shard => .ok (.ready shard, cache)
  | none =>
    match Keyed.get? bucket cache.inFlight with
    | some number => .ok (.load number, cache)
    | none =>
      if cache.isOpen then
        let number := cache.loads.length
        .ok (.load number,
          { cache with
            inFlight := Keyed.put bucket number cache.inFlight
            loads := cache.loads ++ [{ bucket }]
            held := cache.held ++ [number] })
      else .error .loadsRefused

/-- Asks for some buckets one after the other. -/
def requestAll (cache : Cache) : List String → Except Fault (List (String × Fetched) × Cache)
  | [] => .ok ([], cache)
  | bucket :: buckets =>
    match cache.request bucket with
    | .error fault => .error fault
    | .ok (fetched, cache) =>
      match cache.requestAll buckets with
      | .error fault => .error fault
      | .ok (others, cache) => .ok ((bucket, fetched) :: others, cache)

/-- How what was handed out for a bucket ended, if it has. -/
def ending? (cache : Cache) : Fetched → Option Ending
  | .ready shard => some (.shard shard)
  | .load number => cache.loads[number]?.bind (·.ending)

/-- How what was handed out for some buckets ended, if all has. -/
def endings? (cache : Cache) (fetched : List (String × Fetched)) :
    Option (List (String × Ending)) :=
  fetched.mapM fun pair => (cache.ending? pair.2).map fun ending => (pair.1, ending)

/-- The cache in which a query waits for a load that has not ended. -/
def awaitLoad (ticket : Ticket) (cache : Cache) : Fetched → Cache
  | .ready _ => cache
  | .load number =>
    { cache with
      loads := cache.loads.modify number fun load =>
        if load.ending.isSome then load
        else { load with waiting := load.waiting ++ [ticket] } }

/-- The cache in which a query waits for all its loads that have not ended. -/
def await (cache : Cache) (ticket : Ticket) : Cache :=
  ticket.fetched.foldl (fun cache pair => cache.awaitLoad ticket pair.2) cache

/-- The cache with a shard that was loaded. -/
def keep (cache : Cache) (shard : Shard) : Cache :=
  { cache with
    shards := Keyed.put shard.bucket shard cache.shards
    inFlight := Keyed.erase shard.bucket cache.inFlight }

/-- The cache in which the next request for a bucket begins a new load. -/
def forget (cache : Cache) (bucket : String) : Cache :=
  { cache with inFlight := Keyed.erase bucket cache.inFlight }

/-- The cache in which a load has ended, and nothing waits for it any more. -/
def finish (cache : Cache) (number : Nat) (ending : Ending) : Cache :=
  { cache with
    loads := cache.loads.modify number fun load =>
      { load with ending := some ending, waiting := [] } }

/-- The queries that wait for a load. -/
def waitingFor (cache : Cache) (number : Nat) : List Ticket :=
  (cache.loads[number]?.map (·.waiting)).getD []

/-- The bucket of a load. -/
def bucketOf (cache : Cache) (number : Nat) : String :=
  (cache.loads[number]?.map (·.bucket)).getD ""

/-- The oldest load of a bucket whose turn has not come. -/
def heldLoad? (cache : Cache) (bucket : String) : Option Nat :=
  cache.held.find? fun number => cache.bucketOf number == bucket

end Cache

/-- The shards that some loads ended with, and the buckets of those that failed, with the reasons,
both in the order in which they were asked for. -/
structure Collected where
  shards : List Shard := []
  /-- The buckets and the reasons. -/
  failures : List (String × String) := []
  deriving DecidableEq, Repr

/-- The shards and the failures among some endings. A load that was cancelled spoils all. -/
def collect : List (String × Ending) → Except Fault Collected
  | [] => .ok {}
  | (bucket, ending) :: rest =>
    match ending with
    | .cancelled => .error .cancelled
    | .shard shard => (collect rest).map fun all => { all with shards := shard :: all.shards }
    | .failed reason | .exit reason =>
      (collect rest).map fun all => { all with failures := (bucket, reason) :: all.failures }

/-- The message of a failed load. -/
def failureMessage (failure : String × String) : String :=
  (Fault.load failure.1 failure.2).message

end SymbolLookup

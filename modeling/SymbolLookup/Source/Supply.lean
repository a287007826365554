import SymbolLookup.Source.Basic
/-!
# Supplies

A source as those who fetch from it meet it: among files that may change, and with outages.

## Main definitions

* `Outage`: a bucket that cannot be fetched, and for how often.
* `Supply`: a source with its files and its outages.
* `Supply.fetch`: one fetch, and the supply after it.

## Design notes

A fetch ends in one of four ways: with a document, with the news that there is none, with a fault
that says so, or with a request to end the program.
-/

namespace SymbolLookup

/-- How a bucket cannot be fetched. -/
inductive OutageKind where
  /-- The source reports that it cannot be reached. -/
  | unreachable (reason : String)
  /-- The system beneath the source fails. -/
  | broken (reason : String)
  /-- The program is asked to end. -/
  | exit (reason : String)
  /-- The source does not know the bucket. -/
  | absent
  deriving DecidableEq, Repr

/-- A bucket that cannot be fetched. -/
structure Outage where
  bucket : String
  /-- What happens. -/
  kind : OutageKind
  /-- How many more fetches it befalls; all of them if this is not told. -/
  times : Option Nat := none
  deriving DecidableEq, Repr

/-- What a fetch of the bucket answers during an outage. -/
def Outage.answer (outage : Outage) : Except Fault (Option String) :=
  match outage.kind with
  | .unreachable reason => .error (.load outage.bucket reason)
  | .broken reason => .error (.system reason)
  | .exit reason => .error (.exit reason)
  | .absent => .ok none

/-- A source as those who fetch from it meet it. -/
structure Supply where
  source : Source
  /-- The files that it reads. -/
  files : Files := []
  /-- The outages, the first one for a bucket being the one that befalls it. -/
  outages : List Outage := []
  /-- Why the buckets cannot be listed, if they cannot. -/
  unlisted : Option String := none

/-- The outage that befalls a fetch of a bucket, and all outages after the fetch. -/
def takeOutage (bucket : String) : List Outage → Option Outage × List Outage
  | [] => (none, [])
  | outage :: rest =>
    if outage.bucket = bucket ∧ outage.times ≠ some 0 then
      (some outage, { outage with times := outage.times.map (· - 1) } :: rest)
    else
      let (taken, rest) := takeOutage bucket rest
      (taken, outage :: rest)

namespace Supply

/-- What a fetch of a bucket answers, and the supply after it. -/
def fetch (supply : Supply) (bucket : String) : Except Fault (Option String) × Supply :=
  let (outage, outages) := takeOutage bucket supply.outages
  let answer :=
    match outage with
    | some outage => outage.answer
    | none => supply.source.fetch supply.files bucket
  (answer, { supply with outages })

/-- The indexes of the source. -/
def indexes (supply : Supply) : Except Fault (List String) := supply.source.indexes

/-- The buckets of an index in bucket order. -/
def bucketIds (supply : Supply) (index : String) : Except Fault (List String) :=
  match supply.unlisted with
  | some reason => .error (.config (.listing reason))
  | none => supply.source.bucketIds index

/-- The partition of an index. -/
def partition (supply : Supply) (index : String) : Except Fault Partition :=
  supply.source.partition index

/-- The supply after its source was closed. -/
def close (supply : Supply) : Supply := { supply with source := supply.source.close }

/-- The supply with a document for a bucket. -/
def put (supply : Supply) (bucket document : String) : Supply :=
  { supply with source := supply.source.put bucket document }

end Supply

end SymbolLookup

import Mathlib.Logic.Relation
import SymbolLookup.Proofs.Desk.Mirror
import SymbolLookup.Proofs.Desk.Shelter
/-!
# The depot of a desk

All that a desk has to do with loads, apart from the sessions that ask for them.

## Main definitions

* `Depot`: the cache of a desk, its work and its fetches.
* `Depot.Step`, `Depot.LeadsTo`: what becomes of a depot.
* `Traffic`: the agendas that a desk went through while its hosts could also ask for buckets at any
  moment.

## Main results

* `Traffic.leadsTo`: whatever a desk goes through, its depot takes these steps only.

## Design notes

What hosts do when they are called brings forth queries and never work, and faults leave all work
alone. So it does not matter to a depot who asks for buckets, nor when.
-/

namespace SymbolLookup

/-- The bucket whose document was fetched when this happened. -/
def Event.fetched? : Event → Option String
  | .fetched bucket => some bucket
  | _ => none

/-- What a desk has to do with loads. -/
structure Depot where
  cache : Cache := {}
  /-- The tasks that deal with loads, the next one first. -/
  work : List Task := []
  /-- The buckets whose documents were fetched, in the order of the fetches. -/
  fetches : List String := []

/-- The depot of a desk with its stack of tasks. -/
def Agenda.depot (agenda : Agenda) : Depot where
  cache := agenda.desk.cache
  work := agenda.tasks.filter (·.isWork)
  fetches := agenda.desk.events.filterMap Event.fetched?

/-- The cache when it is settled how a load of a bucket ends. -/
def Cache.settled (cache : Cache) (bucket : String) : Ending → Cache
  | .shard shard => cache.keep shard
  | .failed _ => cache.forget bucket
  | .exit _ | .cancelled => cache

/-- What becomes of a depot next. -/
inductive Depot.Step : Depot → Depot → Prop where
  -- a bucket is asked for that is neither kept nor in flight, or a query waits
  | begun {cache work fetches bucket} (ho : cache.isOpen) (hn : cache.handed? bucket = none) :
      Step ⟨cache, work, fetches⟩ ⟨cache.begun bucket, work, fetches⟩
  | awaited {cache work fetches ticket} :
      Step ⟨cache, work, fetches⟩ ⟨cache.await ticket, work, fetches⟩
  -- a load has its turn, unless it was cancelled
  | loaded {cache work fetches number load ending} (hl : cache.loads[number]? = some load)
      (he : load.ending = none) (hc : ending ≠ .cancelled)
      (hb : ∀ shard, ending = .shard shard → shard.bucket = load.bucket) :
      Step ⟨cache, .load number :: work, fetches⟩
        ⟨cache.settled load.bucket ending, .finish number ending :: work, fetches ++ [load.bucket]⟩
  | skipped {cache work fetches number}
      (he : ∀ load, cache.loads[number]? = some load → load.ending ≠ none) :
      Step ⟨cache, .load number :: work, fetches⟩ ⟨cache, work, fetches⟩
  | finished {cache work fetches number ending} :
      Step ⟨cache, .finish number ending :: work, fetches⟩
        ⟨cache.finish number ending, work, fetches⟩
  -- the oldest load is given its turn
  | drain {cache work fetches number held} (hh : cache.held = number :: held) :
      Step ⟨cache, .drain :: work, fetches⟩
        ⟨{ cache with held }, .load number :: .drain :: work, fetches⟩
  | drained {cache work fetches} : Step ⟨cache, .drain :: work, fetches⟩ ⟨cache, work, fetches⟩
  -- when no work is left, a host has a load run, or all, or cancels one
  | run {cache fetches number} (hh : number ∈ cache.held) :
      Step ⟨cache, [], fetches⟩
        ⟨{ cache with held := cache.held.erase number }, [.load number], fetches⟩
  | drainAll {cache fetches} : Step ⟨cache, [], fetches⟩ ⟨cache, [.drain], fetches⟩
  | cancel {cache fetches number} (hh : number ∈ cache.held)
      (he : cache.ending? (.load number) = none) :
      Step ⟨cache, [], fetches⟩ ⟨cache, [.finish number .cancelled], fetches⟩
  -- no further loads are taken
  | closed {cache work fetches} :
      Step ⟨cache, work, fetches⟩ ⟨{ cache with isOpen := false }, work, fetches⟩

/-- Whether a depot can become another. -/
def Depot.LeadsTo : Depot → Depot → Prop := Relation.ReflTransGen Depot.Step

namespace Depot

theorem LeadsTo.refl (depot : Depot) : depot.LeadsTo depot := Relation.ReflTransGen.refl

theorem LeadsTo.trans {depot middle after : Depot} (first : depot.LeadsTo middle)
    (second : middle.LeadsTo after) : depot.LeadsTo after :=
  Relation.ReflTransGen.trans first second

theorem Step.leadsTo {depot after : Depot} (h : depot.Step after) : depot.LeadsTo after :=
  Relation.ReflTransGen.single h

/-- What holds of a depot and is kept by every step holds later on. -/
theorem LeadsTo.keeps {depot after : Depot} (h : depot.LeadsTo after) {p : Depot → Prop}
    (hp : p depot) (step : ∀ a b, depot.LeadsTo a → a.Step b → p a → p b) : p after := by
  induction h with
  | refl => exact hp
  | tail ha hs ih => exact step _ _ ha hs ih

theorem leadsTo_requestAll {cache after : Cache} {buckets : List String}
    {all : List (String × Fetched)} (h : cache.requestAll buckets = .ok (all, after))
    (work : List Task) (fetches : List String) :
    LeadsTo ⟨cache, work, fetches⟩ ⟨after, work, fetches⟩ :=
  Cache.requestAll_induction
    (p := fun after => LeadsTo ⟨cache, work, fetches⟩ ⟨after, work, fetches⟩)
    (fun _ _ ho hn ih => ih.trans (Step.begun ho hn).leadsTo) h (.refl _)

end Depot

/-! ## Moves -/

theorem Yields.isWork_eq_false {desk : Desk} {task first : Task} (h : Yields desk task first)
    (ht : task.isWork = false) : first.isWork = false := by
  cases h with
  | bring | miss | load | drain => cases ht
  | _ => rfl

theorem filter_isWork_eq_nil {next : List Task} (h : ∀ task ∈ next, task.isWork = false) :
    next.filter (·.isWork) = [] := by
  rw [List.filter_eq_nil_iff]
  intro task ht
  rw [h task ht]
  exact Bool.false_ne_true

/-- The shard that a load brings is that of its bucket. -/
theorem Desk.bucket_of_fetch {desk : Desk} {bucket : String} {shard : Shard}
    (h : (desk.fetch bucket).1 = .ok shard) : shard.bucket = bucket := by
  have hb : (desk.fetch bucket).1 =
      (desk.supply.fetch bucket).1.bind (shardOf desk.interpreter bucket) :=
    rfl
  rw [hb] at h
  cases ha : (desk.supply.fetch bucket).1 with
  | error => rw [ha] at h; cases h
  | ok answer =>
    rw [ha] at h
    have made : Makes desk.interpreter (fun _ => answer) bucket shard := h
    exact made.bucket_eq

theorem Move.fetches_eq {desk after : Desk} {task : Task} {next : List Task}
    (h : Move desk task after next) (ht : task.isWork = false) :
    after.events.filterMap Event.fetched? = desk.events.filterMap Event.fetched? := by
  have told {number : Nat} {done : List Event}
      (hd : ∀ event ∈ done, ∃ answered, event = .done number answered) :
      done.filterMap Event.fetched? = [] := by
    rw [List.filterMap_eq_nil_iff]
    intro event hm
    obtain ⟨answered, rfl⟩ := hd event hm
    rfl
  cases h with
  | handOut _ _ _ hd | resolve _ _ _ _ hd =>
    simp only [Desk.note, List.filterMap_append, told hd, List.append_nil]
  | call | callDiagnostic => simp [Desk.record, Event.fetched?]
  | load | loadLeft | loadFailed => cases ht
  | _ => rfl

/-- A move is a row of steps of the depot. -/
theorem Move.depot_leadsTo {desk after : Desk} {task : Task} {tasks next : List Task}
    {escaped : Option Fault} (h : Move desk task after next) :
    (Agenda.depot ⟨desk, task :: tasks, escaped⟩).LeadsTo
      (Agenda.depot ⟨after, next ++ tasks, escaped⟩) := by
  cases ht : task.isWork with
  | false =>
    -- the work stays as it is, but a query may ask for buckets or come to wait
    have hw : (task :: tasks).filter (·.isWork) = (next ++ tasks).filter (·.isWork) := by
      rw [List.filter_append, filter_isWork_eq_nil fun first hm => (h.yields hm).isWork_eq_false ht,
        List.filter_cons_of_neg (by simp [ht]), List.nil_append]
    have hf := h.fetches_eq ht
    rw [Agenda.depot, Agenda.depot, hw]
    dsimp only
    rw [hf]
    cases h with
    | lookEnded _ hr => exact Depot.leadsTo_requestAll hr _ _
    | lookWaits _ hr => exact (Depot.leadsTo_requestAll hr _ _).trans Depot.Step.awaited.leadsTo
    | load | loadLeft | loadFailed | finish | drain => cases ht
    | _ => exact .refl _
  | true =>
    have fetched (bucket : String) : (desk.fetch bucket).2.events.filterMap Event.fetched? =
        desk.events.filterMap Event.fetched? ++ [bucket] := by
      simp [Desk.fetch, Desk.record, Event.fetched?]
    -- the calls and settlings that come of work are none
    have depot {next : List Task} (hn : ∀ task ∈ next, task.isWork = false) (desk : Desk)
        (rest : List Task) : Agenda.depot ⟨desk, next ++ rest, escaped⟩ =
        Agenda.depot ⟨desk, rest, escaped⟩ := by
      rw [Agenda.depot, Agenda.depot, List.filter_append, filter_isWork_eq_nil hn, List.nil_append]
    apply Depot.Step.leadsTo
    cases h with
    | finish =>
      rw [depot fun task hm => by obtain ⟨_, _, rfl⟩ | rfl := mem_settlings hm <;> rfl]
      exact .finished
    | load hl he hf =>
      rw [List.append_assoc, depot fun task hm => by
        obtain ⟨_, rfl⟩ | rfl := Desk.mem_reports hm <;> rfl]
      simp only [Agenda.depot, fetched]
      refine .loaded hl he (by simp : Ending.shard _ ≠ .cancelled) ?_
      rintro _ ⟨⟩
      exact Desk.bucket_of_fetch hf
    | loadLeft hl he hf =>
      simp only [Agenda.depot, fetched]
      exact .loaded hl he (by simp : Ending.exit _ ≠ .cancelled) (by simp)
    | loadFailed hl he hf =>
      simp only [Agenda.depot, fetched]
      exact .loaded hl he (by simp : Ending.failed _ ≠ .cancelled) (by simp)
    | loadSkipped hl => exact .skipped hl
    | drain hh => exact .drain hh
    | drained => exact .drained
    | _ => cases ht

/-! ## Traffic -/

/-- The agendas that a desk went through since it was opened, the latest first, when its hosts could
also ask for buckets at any moment, without waiting for them. -/
inductive Traffic : List Agenda → Prop where
  /-- A desk that was just opened has nothing to do. -/
  | opened {supply : Supply} {opening : Opening} {desk : Desk}
      (h : Desk.ofSupply supply opening = .ok desk) : Traffic [{ desk, tasks := [] }]
  /-- The next task was done. -/
  | worked {agenda after : Agenda} {past : List Agenda} (h : Traffic (agenda :: past))
      (step : agenda.step? = some after) : Traffic (after :: agenda :: past)
  /-- A host began a deed when nothing was left to do. -/
  | tookUp {agenda : Agenda} {past : List Agenda} (h : Traffic (agenda :: past))
      (rests : agenda.tasks = []) (deed : Deed) :
      Traffic (agenda.desk.takeUp deed :: agenda :: past)
  /-- A host asked for some buckets. -/
  | asked {agenda : Agenda} {past : List Agenda} (h : Traffic (agenda :: past))
      {buckets : List String} {all : List (String × Fetched)} {cache : Cache}
      (hr : agenda.desk.cache.requestAll buckets = .ok (all, cache)) :
      Traffic ({ agenda with desk := { agenda.desk with cache } } :: agenda :: past)

theorem Course.traffic {course : List Agenda} (h : Course course) : Traffic course := by
  induction h with
  | opened h => exact .opened h
  | worked _ step ih => exact ih.worked step
  | tookUp _ rests deed ih => exact ih.tookUp rests deed

theorem Begins.depot_leadsTo {agenda after : Agenda} (h : Begins agenda.desk after)
    (rests : agenda.tasks = []) : agenda.depot.LeadsTo after.depot := by
  have hd : agenda.depot =
      ⟨agenda.desk.cache, [], agenda.desk.events.filterMap Event.fetched?⟩ := by
    rw [Agenda.depot, rests, List.filter_nil]
  rw [hd]
  cases h with
  | ask hr => exact Depot.leadsTo_requestAll hr _ _
  | runHeld hh => exact (Depot.Step.run hh).leadsTo
  | drain => exact Depot.Step.drainAll.leadsTo
  | cancelLoad hh he => exact (Depot.Step.cancel hh he).leadsTo
  | close => exact Depot.Step.closed.leadsTo.trans Depot.Step.drainAll.leadsTo
  | _ => exact .refl _

namespace Traffic

variable {agenda : Agenda} {past : List Agenda}

/-- Whatever a desk does next is a row of steps of its depot, if faults leave all work alone. -/
theorem depot_leadsTo_of_step {after : Agenda} (h : agenda.Step after)
    (hs : Sheltered agenda.tasks) : agenda.depot.LeadsTo after.depot := by
  cases h with
  | move hm => exact hm.depot_leadsTo
  | raise =>
    rw [Agenda.depot, Agenda.depot]
    dsimp only
    rw [hs.filter_unwind fun _ => Task.isFirm_of_isWork]
    exact .refl _

theorem sheltered {course : List Agenda} (h : Traffic course) :
    ∀ agenda ∈ course, Sheltered agenda.tasks := by
  induction h with
  | opened => simp [Sheltered]
  | @worked agenda after past h step ih =>
    have hs := (Agenda.step_of_step? step).sheltered (ih agenda List.mem_cons_self)
    exact List.forall_mem_cons.2 ⟨hs, ih⟩
  | tookUp _ _ deed ih =>
    exact List.forall_mem_cons.2 ⟨(Desk.begins_takeUp _ deed).sheltered, ih⟩
  | @asked agenda _ _ _ _ _ _ ih =>
    exact List.forall_mem_cons.2 ⟨ih agenda List.mem_cons_self, ih⟩

/-- The depot of an agenda leads to the depots of all later ones, and an empty depot to all. -/
theorem depots {course : List Agenda} (h : Traffic course) :
    (course.Pairwise fun later earlier => earlier.depot.LeadsTo later.depot) ∧
      ∀ agenda ∈ course, Depot.LeadsTo {} agenda.depot := by
  have next {agenda after : Agenda} {past : List Agenda}
      (hl : agenda.depot.LeadsTo after.depot)
      (ih : ((agenda :: past).Pairwise fun later earlier => earlier.depot.LeadsTo later.depot) ∧
        ∀ earlier ∈ agenda :: past, Depot.LeadsTo {} earlier.depot) :
      ((after :: agenda :: past).Pairwise
          fun later earlier => earlier.depot.LeadsTo later.depot) ∧
        ∀ earlier ∈ after :: agenda :: past, Depot.LeadsTo {} earlier.depot := by
    obtain ⟨hp, he⟩ := ih
    refine ⟨List.pairwise_cons.2 ⟨?_, hp⟩, List.forall_mem_cons.2 ⟨?_, he⟩⟩
    · intro earlier hm
      rcases List.mem_cons.1 hm with rfl | hm
      · exact hl
      · exact ((List.pairwise_cons.1 hp).1 earlier hm).trans hl
    · exact (he agenda List.mem_cons_self).trans hl
  induction h with
  | opened h =>
    obtain ⟨index, mode, partition, rules, rfl⟩ := Desk.eq_of_ofSupply h
    refine ⟨List.pairwise_singleton _ _, fun earlier hm => ?_⟩
    rw [List.mem_singleton.1 hm]
    exact .refl _
  | @worked agenda after past h step ih =>
    have hs := h.sheltered agenda List.mem_cons_self
    exact next (depot_leadsTo_of_step (Agenda.step_of_step? step) hs) ih
  | tookUp _ rests deed ih => exact next ((Desk.begins_takeUp _ deed).depot_leadsTo rests) ih
  | asked _ hr ih =>
    refine next ?_ ih
    exact Depot.leadsTo_requestAll hr _ _

/-- What the depot of a desk does is told by the steps of depots. -/
theorem leadsTo (h : Traffic (agenda :: past)) : Depot.LeadsTo {} agenda.depot :=
  h.depots.2 agenda List.mem_cons_self

theorem leadsTo_of_mem (h : Traffic (agenda :: past)) {earlier : Agenda}
    (he : earlier ∈ agenda :: past) :
    Depot.LeadsTo {} earlier.depot ∧ earlier.depot.LeadsTo agenda.depot := by
  refine ⟨h.depots.2 earlier he, ?_⟩
  rcases List.mem_cons.1 he with rfl | he
  · exact .refl _
  · exact (List.pairwise_cons.1 h.depots.1).1 earlier he

end Traffic

end SymbolLookup

import Mathlib.Data.List.Nodup
import SymbolLookup.Proofs.Desk.Fate
/-!
# Loads are shared, and buckets loaded once

However buckets are asked for, each has at most one load under way, and once it was loaded it is
never loaded again.

## Main definitions

* `Agenda.SharesLoads`: whether at most one load of each bucket is under way or succeeded.
* `Agenda.KeepsShards`: whether what was loaded before is still kept.

## Main results

* `Traffic.loads_once`: both hold in everything that a desk goes through.
-/

namespace SymbolLookup

/-- How often the document of a bucket was fetched. -/
def Desk.fetchesOf (desk : Desk) (bucket : String) : Nat := desk.events.count (.fetched bucket)

/-- Whether a load of a bucket failed. -/
def Load.failedOf (bucket : String) (load : Load) : Bool :=
  load.bucket == bucket && load.fate.isFailed

/-- Whether at most one load of each bucket is under way or succeeded, and only failed loads brought
about further ones. -/
structure Agenda.SharesLoads (agenda : Agenda) : Prop where
  /-- No bucket is both kept and in flight. -/
  apart : ∀ bucket, Keyed.get? bucket agenda.desk.cache.shards = none ∨
    Keyed.get? bucket agenda.desk.cache.inFlight = none
  /-- At most one load of each bucket is held. -/
  held : agenda.desk.heldBuckets.Nodup
  /-- At most one load of each bucket ended with a shard. -/
  loaded : ∀ (first second : Nat) (load other : Load) (shard another : Shard),
    agenda.desk.cache.loads[first]? = some load → agenda.desk.cache.loads[second]? = some other →
    load.bucket = other.bucket → load.ending = some (.shard shard) →
    other.ending = some (.shard another) → first = second
  /-- Between deeds each bucket was fetched at most once more often than its loads failed. -/
  fetched : agenda.tasks = [] → ∀ bucket, agenda.desk.fetchesOf bucket ≤
    1 + agenda.desk.cache.loads.countP (Load.failedOf bucket)

/-- Whether what was loaded before is still kept. -/
structure Agenda.KeepsShards (agenda earlier : Agenda) : Prop where
  /-- A bucket that was kept is kept with the same shard, and was not fetched again. -/
  kept : ∀ bucket shard, Keyed.get? bucket earlier.desk.cache.shards = some shard →
    Keyed.get? bucket agenda.desk.cache.shards = some shard ∧
      agenda.desk.fetchesOf bucket = earlier.desk.fetchesOf bucket
  /-- What was handed out for a bucket, and ended with a shard, ended with the one that is kept. -/
  same : ∀ bucket fetched shard, earlier.desk.cache.handed? bucket = some fetched →
    agenda.desk.cache.ending? fetched = some (.shard shard) →
    Keyed.get? bucket agenda.desk.cache.shards = some shard

namespace Depot

variable {depot after : Depot}

/-! ## What is kept -/

theorem Step.grows (s : depot.Step after) : depot.cache.Grows after.cache := by
  cases s with
  | begun => exact Cache.grows_begun _ _
  | awaited => exact Cache.grows_await _ _
  | loaded => exact .of_loads (loads_settled _ _ _)
  | finished => exact Cache.grows_finish _ _ _
  | _ => exact .of_loads rfl

theorem LeadsTo.grows (h : depot.LeadsTo after) : depot.cache.Grows after.cache :=
  h.keeps (p := fun after => depot.cache.Grows after.cache) (.refl _)
    fun _ _ _ s h => h.trans s.grows

/-- A bucket that is kept stays so, and its document is not fetched. -/
theorem Step.keeps_shard (s : depot.Step after) (h : depot.Sound) {bucket : String} {shard : Shard}
    (hs : Keyed.get? bucket depot.cache.shards = some shard) :
    Keyed.get? bucket after.cache.shards = some shard ∧
      after.fetches.count bucket = depot.fetches.count bucket := by
  cases s with
  | @awaited cache _ _ ticket =>
    exact ⟨((Cache.awaitFrame_await cache ticket).shards ▸ hs :), rfl⟩
  | @loaded cache work fetches number load ending hl he _ hb =>
    -- the fate of the load is open, so its bucket is in flight and not kept
    have flies := (h.flies load.bucket number).2
      ⟨_, fate_of_open (fun _ => rfl) hl he, rfl, rfl⟩
    have kept := Option.eq_none_iff_forall_ne_some.2 fun _ => h.apart flies
    have other : bucket ≠ load.bucket := by
      rintro rfl
      cases kept.symm.trans hs
    refine ⟨(get?_shards_settled hb kept bucket shard).2 (.inr hs), ?_⟩
    rw [List.count_append, List.count_singleton]
    simp [Ne.symm other]
  | _ => exact ⟨hs, rfl⟩

theorem LeadsTo.keeps_shard (h : depot.LeadsTo after) (before : Depot.LeadsTo {} depot)
    {bucket : String} {shard : Shard}
    (hs : Keyed.get? bucket depot.cache.shards = some shard) :
    Keyed.get? bucket after.cache.shards = some shard ∧
      after.fetches.count bucket = depot.fetches.count bucket := by
  refine h.keeps (p := fun after => Keyed.get? bucket after.cache.shards = some shard ∧
    after.fetches.count bucket = depot.fetches.count bucket) ⟨hs, rfl⟩ ?_
  intro middle after hm s ⟨hk, hc⟩
  obtain ⟨hk, hc'⟩ := s.keeps_shard (before.trans hm).sound hk
  exact ⟨hk, hc'.trans hc⟩

/-- What a load ended with is kept. -/
theorem Sound.kept_of_ended (h : depot.Sound) {number : Nat} {load : Load} {shard : Shard}
    (hl : depot.cache.loads[number]? = some load) (he : load.ending = some (.shard shard)) :
    Keyed.get? load.bucket depot.cache.shards = some shard :=
  (h.keeps _ _).2 ⟨number, fate_of_ended hl he⟩

/-! ## How often a bucket is fetched -/

/-- Of the loads of a bucket that were fetched for, all failed but one at most. -/
theorem countP_isFetched_le {fates : List Fate} (bucket : String)
    (h : fates.Pairwise fun fate other => fate.bucket = other.bucket → fate.isFailed = true) :
    (fates.countP fun fate => fate.bucket == bucket && fate.isFetched) ≤
      1 + fates.countP fun fate => fate.bucket == bucket && fate.isFailed := by
  induction fates with
  | nil => simp
  | cons fate fates ih =>
    obtain ⟨first, rest⟩ := List.pairwise_cons.1 h
    have ih := ih rest
    rw [List.countP_cons, List.countP_cons]
    cases hf : fate.isFailed with
    | true =>
      rw [fate.isFetched_of_isFailed hf]
      omega
    | false =>
      by_cases hb : fate.bucket = bucket
      · have none : (fates.countP fun fate => fate.bucket == bucket && fate.isFetched) = 0 := by
          rw [List.countP_eq_zero]
          intro other ho hc
          have same : other.bucket = bucket := by simp_all
          rw [first other ho (hb.trans same.symm)] at hf
          cases hf
        rw [none]
        split <;> omega
      · simp only [beq_eq_false_iff_ne.2 hb, Bool.false_and, Bool.false_eq_true, if_false]
        omega

theorem Sound.pairwise_fates (h : depot.Sound) :
    depot.fates.Pairwise fun fate other => fate.bucket = other.bucket → fate.isFailed = true := by
  rw [List.pairwise_iff_getElem]
  intro first second hf hs hlt
  exact h.failed first second _ _ hlt (List.getElem?_eq_getElem hf) (List.getElem?_eq_getElem hs)

theorem bucketOf_of_fate {number : Nat} {fate : Fate} (h : depot.fates[number]? = some fate) :
    depot.cache.bucketOf number = fate.bucket := by
  rw [getElem?_fates] at h
  obtain ⟨load, hl, rfl⟩ := Option.map_eq_some_iff.1 h
  rw [Cache.bucketOf, hl]
  rfl

/-- At most one load of each bucket is held. -/
theorem Sound.nodup_bucketOf (h : depot.Sound) :
    (depot.cache.held.map depot.cache.bucketOf).Nodup := by
  refine List.Nodup.map_on ?_ (List.nodup_append.1 h.nodup).2.1
  intro first hf second hs hb
  obtain ⟨fate, hl, nf⟩ := h.queued first (List.mem_append_right _ hf)
  obtain ⟨other, ho, no⟩ := h.queued second (List.mem_append_right _ hs)
  rw [bucketOf_of_fate hl, bucketOf_of_fate ho] at hb
  exact h.eq_of_not_failed hl ho hb (fate.isFailed_of_not_fetched nf)
    (other.isFailed_of_not_fetched no)

/-- The loads in flight are those of their buckets. -/
theorem Sound.linked (h : depot.Sound) : depot.cache.Linked := by
  intro bucket number hn
  obtain ⟨fate, hf, rfl, -⟩ := (h.flies bucket number).1 hn
  rw [getElem?_fates] at hf
  obtain ⟨load, hl, rfl⟩ := Option.map_eq_some_iff.1 hf
  exact ⟨load, hl, rfl⟩

end Depot

/-! ## Traffic -/

/-- What is fetched shows in what happens. -/
theorem Agenda.count_fetches (agenda : Agenda) (bucket : String) :
    agenda.depot.fetches.count bucket = agenda.desk.fetchesOf bucket := by
  rw [Desk.fetchesOf, Agenda.depot, List.count, List.countP_filterMap, List.count]
  refine List.countP_congr fun event _ => ?_
  cases event <;> simp [Event.fetched?]

namespace Traffic

variable {agenda : Agenda} {past : List Agenda}

theorem sharesLoads (h : Traffic (agenda :: past)) : agenda.SharesLoads := by
  have sound := h.leadsTo.sound
  refine ⟨fun bucket => ?_, sound.nodup_bucketOf, ?_, fun rests bucket => ?_⟩
  · cases hn : Keyed.get? bucket agenda.desk.cache.inFlight with
    | none => exact .inr rfl
    | some number => exact .inl (Option.eq_none_iff_forall_ne_some.2 fun _ => sound.apart hn)
  · intro first second load other shard another hl ho hb he he'
    have fate {number : Nat} {load : Load} {shard : Shard}
        (hl : agenda.desk.cache.loads[number]? = some load)
        (he : load.ending = some (.shard shard)) :
        agenda.depot.fates[number]? = some ⟨load.bucket, some (.shard shard)⟩ :=
      Depot.fate_of_ended hl he
    exact sound.eq_of_not_failed (fate hl he) (fate ho he') hb rfl rfl
  · have ended : agenda.depot.fates = agenda.desk.cache.loads.map Load.fate :=
      Depot.fates_eq_map fun _ => by rw [Agenda.depot, rests]; rfl
    have most := Depot.countP_isFetched_le bucket sound.pairwise_fates
    rwa [← sound.fetched, agenda.count_fetches, ended, List.countP_map] at most

theorem keepsShards (h : Traffic (agenda :: past)) {earlier : Agenda}
    (he : earlier ∈ agenda :: past) : agenda.KeepsShards earlier := by
  obtain ⟨before, after⟩ := h.leadsTo_of_mem he
  refine ⟨fun bucket shard hs => ?_, fun bucket fetched shard hf hs => ?_⟩
  · rw [← agenda.count_fetches, ← earlier.count_fetches]
    exact after.keeps_shard before hs
  · cases fetched with
    | ready kept =>
      cases hs
      exact (after.keeps_shard before (Cache.get?_of_handed? hf)).1
    | load number =>
      obtain ⟨load, hl, rfl⟩ :=
        (before.sound.linked.backs_of_handed? hf).of_grows after.grows
      have ended : (agenda.desk.cache.loads[number]?.bind (·.ending)) = some (.shard shard) := hs
      have hl : agenda.desk.cache.loads[number]? = some load := hl
      rw [hl] at ended
      exact h.leadsTo.sound.kept_of_ended hl ended

/-- In everything that a desk goes through, whatever its hosts ask for and when, loads are shared,
each bucket is loaded once, and what was loaded is kept. -/
theorem loads_once (h : Traffic (agenda :: past)) :
    agenda.SharesLoads ∧ ∀ earlier ∈ agenda :: past, agenda.KeepsShards earlier :=
  ⟨h.sharesLoads, fun _ he => h.keepsShards he⟩

/-- A bucket that could not be fetched at first is fetched once more and then kept, although it is
asked for two times after that. -/
theorem loads_once_of_outage :
    let outage : Outage := ⟨"symbols_0", .unreachable "no route", some 1⟩
    let course := sampleCourse [.openSession {},
      .restock { Desk.sample.supply with outages := [outage] }, .ask ["symbols_0"],
      .ask ["symbols_0"], .drain, .type 0 (some "a") none, .ask ["symbols_0"], .drain,
      .ask ["symbols_0"], .type 0 (some "al") none]
    course.1.tasks = [] ∧ course.1.desk.fetchesOf "symbols_0" = 2 ∧
      course.1.desk.cache.loads.countP (Load.failedOf "symbols_0") = 1 ∧
      (Keyed.get? "symbols_0" course.1.desk.cache.shards).isSome ∧
      course.1.SharesLoads ∧ ∀ earlier ∈ course.1 :: course.2, course.1.KeepsShards earlier := by
  intro outage course
  have h : Course (course.1 :: course.2) := Course.sample _
  exact ⟨by decide +kernel, by decide +kernel, by decide +kernel, by decide +kernel,
    h.traffic.loads_once⟩

end Traffic

end SymbolLookup

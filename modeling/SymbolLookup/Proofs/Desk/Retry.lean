import SymbolLookup.Proofs.Desk.Fate
/-!
# Loads that brought no shard

Whether a bucket is loaded anew after its load ended without a shard.

## Main definitions

* `Cache.IsLatest`: whether a load is the latest one of its bucket.
* `Cache.BeginsAnew`: whether a request for a bucket begins a new load.

## Main results

* `Traffic.beginsAnew_iff_failed`: a bucket whose latest load brought no shard is loaded anew if and
  only if the load failed for a reason.
* `Traffic.shares_left_load`: otherwise whoever asks for the bucket is handed the old load.
-/

namespace SymbolLookup

namespace Cache

/-- Whether a load is the latest one of its bucket. -/
structure IsLatest (cache : Cache) (number : Nat) (load : Load) : Prop where
  stands : cache.loads[number]? = some load
  latest : ∀ (later : Nat) (other : Load), number < later → cache.loads[later]? = some other →
    other.bucket ≠ load.bucket

/-- Whether a bucket is neither kept nor in flight, and a request for it begins a new load that is
given a turn of its own. -/
structure BeginsAnew (cache : Cache) (bucket : String) : Prop where
  shards : Keyed.get? bucket cache.shards = none
  inFlight : Keyed.get? bucket cache.inFlight = none
  request : cache.request bucket = .ok (.load cache.loads.length, cache.begun bucket)

theorem request_of_handed? {cache : Cache} {bucket : String} {fetched : Fetched}
    (h : cache.handed? bucket = some fetched) : cache.request bucket = .ok (fetched, cache) := by
  unfold handed? at h
  unfold request
  split at h
  · cases h
    simp_all
  · obtain ⟨number, hn, rfl⟩ := Option.map_eq_some_iff.1 h
    simp_all

theorem beginsAnew_of_isOpen {cache : Cache} {bucket : String} (ho : cache.isOpen)
    (hs : Keyed.get? bucket cache.shards = none) (hi : Keyed.get? bucket cache.inFlight = none) :
    cache.BeginsAnew bucket :=
  ⟨hs, hi, by simp [request, hs, hi, ho, begun]⟩

theorem BeginsAnew.handed?_eq_none {cache : Cache} {bucket : String}
    (h : cache.BeginsAnew bucket) : cache.handed? bucket = none := by
  rw [handed?_of_inFlight h.shards, h.inFlight, Option.map_none]

/-- A load that comes last is the latest one of its bucket. -/
theorem IsLatest.of_last {cache : Cache} {number : Nat} {load : Load}
    (hl : cache.loads[number]? = some load) (hn : cache.loads.length = number + 1) :
    cache.IsLatest number load := by
  refine ⟨hl, fun later other hlt ho => ?_⟩
  have := (List.getElem?_eq_some_iff.1 ho).1
  omega

end Cache

namespace Depot

variable {depot : Depot} {number : Nat} {load : Load} {ending : Ending}

/-- When the latest load of a bucket failed, all its loads did. -/
theorem Sound.isFailed_of_isLatest (h : depot.Sound) {reason : String}
    (hl : depot.cache.IsLatest number load) (he : load.ending = some (.failed reason))
    {other : Nat} {fate : Fate} (hf : depot.fates[other]? = some fate)
    (hb : fate.bucket = load.bucket) : fate.isFailed = true := by
  have last := fate_of_ended hl.stands he
  rcases Nat.lt_trichotomy other number with hlt | rfl | hgt
  · exact h.failed other number fate _ hlt hf last hb
  · rw [Option.some.inj (hf.symm.trans last)]
    rfl
  · rw [getElem?_fates] at hf
    obtain ⟨later, ho, rfl⟩ := Option.map_eq_some_iff.1 hf
    exact absurd hb (hl.latest other later hgt ho)

/-- A bucket whose latest load failed is neither kept nor in flight. -/
theorem Sound.gone_of_failed (h : depot.Sound) {reason : String}
    (hl : depot.cache.IsLatest number load) (he : load.ending = some (.failed reason)) :
    Keyed.get? load.bucket depot.cache.shards = none ∧
      Keyed.get? load.bucket depot.cache.inFlight = none := by
  constructor
  · refine Option.eq_none_iff_forall_ne_some.2 fun shard hs => ?_
    obtain ⟨other, hf⟩ := (h.keeps load.bucket shard).1 hs
    cases h.isFailed_of_isLatest hl he hf rfl
  · refine Option.eq_none_iff_forall_ne_some.2 fun other hn => ?_
    obtain ⟨fate, hf, hb, hfly⟩ := (h.flies load.bucket other).1 hn
    rw [fate.flies_eq_false (h.isFailed_of_isLatest hl he hf hb)] at hfly
    cases hfly

/-- The bucket of a load that ended neither with a shard nor for a reason stays in flight. -/
theorem Sound.handed?_of_left (h : depot.Sound) (hl : depot.cache.loads[number]? = some load)
    (he : load.ending = some ending) (hs : ∀ shard, ending ≠ .shard shard)
    (hf : ∀ reason, ending ≠ .failed reason) :
    depot.cache.handed? load.bucket = some (.load number) := by
  have flying : (Fate.mk load.bucket (some ending)).flies = true := by
    cases ending with
    | shard shard => exact absurd rfl (hs shard)
    | failed reason => exact absurd rfl (hf reason)
    | exit | cancelled => rfl
  have inFlight := (h.flies load.bucket number).2 ⟨_, fate_of_ended hl he, rfl, flying⟩
  rw [Cache.handed?_of_inFlight (Option.eq_none_iff_forall_ne_some.2 fun _ => h.apart inFlight),
    inFlight, Option.map_some]

end Depot

namespace Traffic

variable {agenda : Agenda} {past : List Agenda} {number : Nat} {load : Load} {ending : Ending}

/-- A load that ended neither with a shard nor for a reason is handed to all who ask for its
bucket. -/
theorem shares_left_load (h : Traffic (agenda :: past))
    (hl : agenda.desk.cache.loads[number]? = some load) (he : load.ending = some ending)
    (hs : ∀ shard, ending ≠ .shard shard) (hf : ∀ reason, ending ≠ .failed reason) :
    agenda.desk.cache.request load.bucket = .ok (.load number, agenda.desk.cache) :=
  Cache.request_of_handed? (h.leadsTo.sound.handed?_of_left hl he hs hf)

/-- A bucket whose latest load brought no shard is loaded anew if and only if the load failed for a
reason, and was neither left nor cancelled. -/
theorem beginsAnew_iff_failed (h : Traffic (agenda :: past)) (ho : agenda.desk.cache.isOpen)
    (hl : agenda.desk.cache.IsLatest number load) (he : load.ending = some ending)
    (hs : ∀ shard, ending ≠ .shard shard) :
    agenda.desk.cache.BeginsAnew load.bucket ↔ ∃ reason, ending = .failed reason := by
  constructor
  · intro anew
    cases ending with
    | failed reason => exact ⟨reason, rfl⟩
    | shard shard => exact absurd rfl (hs shard)
    | exit | cancelled =>
      have old := h.leadsTo.sound.handed?_of_left hl.stands he hs nofun
      cases anew.handed?_eq_none.symm.trans old
  · rintro ⟨reason, rfl⟩
    obtain ⟨shards, inFlight⟩ := h.leadsTo.sound.gone_of_failed hl he
    exact Cache.beginsAnew_of_isOpen ho shards inFlight

/-- A bucket that could not be fetched is loaded anew, once that load is over. -/
theorem beginsAnew_of_outage :
    let outage : Outage := ⟨"symbols_0", .unreachable "no route", some 1⟩
    let course := sampleCourse [.restock { Desk.sample.supply with outages := [outage] },
      .ask ["symbols_0"], .drain]
    let load : Load := { bucket := "symbols_0", ending := some (.failed "no route") }
    course.1.tasks = [] ∧ course.1.desk.cache.held = [] ∧ course.1.desk.cache.isOpen ∧
      course.1.desk.cache.IsLatest 0 load ∧ course.1.desk.cache.BeginsAnew load.bucket := by
  intro outage course load
  have h : Course (course.1 :: course.2) := Course.sample _
  have stands : course.1.desk.cache.loads[0]? = some load := by decide +kernel
  have latest : course.1.desk.cache.IsLatest 0 load := .of_last stands (by decide +kernel)
  have open_ : course.1.desk.cache.isOpen := by decide +kernel
  exact ⟨by decide +kernel, by decide +kernel, open_, latest,
    (h.traffic.beginsAnew_iff_failed open_ latest rfl nofun).2 ⟨_, rfl⟩⟩

/-- A load that a request to end the program left is handed out again once it is over. -/
theorem not_beginsAnew_of_exit :
    let outage : Outage := ⟨"symbols_0", .exit "stop", some 1⟩
    let course := sampleCourse [.restock { Desk.sample.supply with outages := [outage] },
      .ask ["symbols_0"], .drain]
    let load : Load := { bucket := "symbols_0", ending := some (.exit "stop") }
    Course (course.1 :: course.2) ∧ course.1.tasks = [] ∧ course.1.desk.cache.held = [] ∧
      course.1.desk.cache.isOpen ∧ course.1.desk.cache.IsLatest 0 load ∧
      course.1.desk.cache.request load.bucket = .ok (.load 0, course.1.desk.cache) ∧
      ¬course.1.desk.cache.BeginsAnew load.bucket := by
  intro outage course load
  have h : Course (course.1 :: course.2) := Course.sample _
  have stands : course.1.desk.cache.loads[0]? = some load := by decide +kernel
  have inFlight : Keyed.get? "symbols_0" course.1.desk.cache.inFlight = some 0 := by
    decide +kernel
  refine ⟨h, by decide +kernel, by decide +kernel, by decide +kernel,
    .of_last stands (by decide +kernel), h.traffic.shares_left_load stands rfl nofun nofun, ?_⟩
  intro anew
  cases anew.inFlight.symm.trans inFlight

end Traffic

end SymbolLookup

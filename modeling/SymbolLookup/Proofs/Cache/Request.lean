import SymbolLookup.Cache.Basic
/-!
# Requests for buckets

What is handed out for a bucket, and how the cache changes by it.

## Main definitions

* `Cache.handed?`: what stands ready to be handed out for a bucket.
* `Cache.begun`: the cache in which a load was begun.
* `Load.Joined`: what a query that waits changes of a load.
* `Cache.Waits`: whether a query waits for a load.

## Main results

* `Cache.request_cases`: a request hands out what stands ready, or else begins a load.
* `Cache.requestAll_induction`: what holds of a cache, and is kept when a load is begun, holds after
  requests.
* `Cache.requestAll_eq_map`: each bucket is handed out the same whenever it is asked for.
* `Cache.load_await`: a query that waits joins the loads that have not ended.
-/

namespace SymbolLookup

/-- Whether a load is another one with at most one more query that waits for it. -/
structure Load.Joined (load : Load) (ticket : Ticket) (other : Load) : Prop where
  /-- The bucket is the same. -/
  bucket : other.bucket = load.bucket
  /-- Neither has ended, or both have in the same way. -/
  ending : other.ending = load.ending
  /-- All others wait for it as before. -/
  waiting : ∀ waiter ∈ load.waiting, waiter ∈ other.waiting
  /-- No one else waits for it. -/
  only : ∀ waiter ∈ other.waiting, waiter ∈ load.waiting ∨ waiter = ticket

theorem Load.Joined.refl (load : Load) (ticket : Ticket) : load.Joined ticket load :=
  ⟨rfl, rfl, fun _ h => h, fun _ h => .inl h⟩

theorem Load.Joined.trans {load middle other : Load} {ticket : Ticket}
    (first : load.Joined ticket middle) (second : middle.Joined ticket other) :
    load.Joined ticket other where
  bucket := second.bucket.trans first.bucket
  ending := second.ending.trans first.ending
  waiting waiter h := second.waiting waiter (first.waiting waiter h)
  only waiter h := (second.only waiter h).elim (first.only waiter) .inr

namespace Cache

variable {cache after : Cache} {bucket : String} {fetched : Fetched}

/-- What stands ready to be handed out for a bucket: its shard, or the load in flight. -/
def handed? (cache : Cache) (bucket : String) : Option Fetched :=
  match Keyed.get? bucket cache.shards with
  | some shard => some (.ready shard)
  | none => (Keyed.get? bucket cache.inFlight).map .load

/-- A shard that stands ready is in the cache. -/
theorem get?_of_handed? {shard : Shard} (h : cache.handed? bucket = some (.ready shard)) :
    Keyed.get? bucket cache.shards = some shard := by
  unfold handed? at h
  split at h
  · cases h
    assumption
  · obtain ⟨_, -, hn⟩ := Option.map_eq_some_iff.1 h
    cases hn

/-- The cache in which a load was begun. -/
def begun (cache : Cache) (bucket : String) : Cache :=
  { cache with
    inFlight := Keyed.put bucket cache.loads.length cache.inFlight
    loads := cache.loads ++ [{ bucket }]
    held := cache.held ++ [cache.loads.length] }

theorem handed?_of_shard {shard : Shard} (h : Keyed.get? bucket cache.shards = some shard) :
    cache.handed? bucket = some (.ready shard) := by rw [handed?, h]

theorem handed?_of_inFlight (h : Keyed.get? bucket cache.shards = none) :
    cache.handed? bucket = (Keyed.get? bucket cache.inFlight).map .load := by rw [handed?, h]

/-- A request hands out what stands ready, or else begins a load. -/
theorem request_cases (h : cache.request bucket = .ok (fetched, after)) :
    (after = cache ∧ cache.handed? bucket = some fetched) ∨
      (cache.isOpen ∧ cache.handed? bucket = none ∧ fetched = .load cache.loads.length ∧
        after = cache.begun bucket) := by
  unfold request at h
  split at h
  · cases h
    exact .inl ⟨rfl, handed?_of_shard ‹_›⟩
  · rename_i hs
    have hh := handed?_of_inFlight hs
    split at h
    · rename_i number hn
      cases h
      exact .inl ⟨rfl, by rw [hh, hn, Option.map_some]⟩
    · rename_i hn
      split at h
      · rename_i ho
        cases h
        exact .inr ⟨ho, by rw [hh, hn, Option.map_none], rfl, rfl⟩
      · cases h

theorem request_of_isOpen (h : cache.isOpen) (bucket : String) :
    ∃ fetched after, cache.request bucket = .ok (fetched, after) ∧ after.isOpen := by
  unfold request
  repeat' split
  · exact ⟨_, _, rfl, h⟩
  · exact ⟨_, _, rfl, h⟩
  · exact ⟨_, _, rfl, h⟩
  · contradiction

theorem handed?_begun_self (h : cache.handed? bucket = none) :
    (cache.begun bucket).handed? bucket = some (.load cache.loads.length) := by
  unfold handed? at h ⊢
  cases hs : Keyed.get? bucket cache.shards <;> simp_all [begun]

theorem handed?_begun_of_ne {other : String} (h : other ≠ bucket) :
    (cache.begun bucket).handed? other = cache.handed? other := by
  simp [handed?, begun, Keyed.get?_put_of_ne h]

/-- What stands ready for a bucket stays so when a load of another is begun. -/
theorem handed?_of_begun {other : String} (hn : cache.handed? bucket = none)
    (h : cache.handed? other = some fetched) :
    (cache.begun bucket).handed? other = some fetched := by
  have hne : other ≠ bucket := by
    rintro rfl
    rw [hn] at h
    cases h
  rw [handed?_begun_of_ne hne, h]

/-! ## Requests for some buckets -/

variable {buckets : List String} {all : List (String × Fetched)}

/-- What holds of a cache, and is kept when a load is begun, holds after requests. -/
theorem requestAll_induction {p : Cache → Prop}
    (begun : ∀ cache bucket, cache.isOpen → cache.handed? bucket = none → p cache →
      p (cache.begun bucket))
    (h : cache.requestAll buckets = .ok (all, after)) (hp : p cache) : p after := by
  induction buckets generalizing cache all with
  | nil =>
    cases h
    exact hp
  | cons bucket buckets ih =>
    unfold requestAll at h
    split at h
    · cases h
    · rename_i fetched middle hr
      split at h
      · cases h
      · rename_i others last hrs
        cases h
        refine ih hrs ?_
        obtain ⟨rfl, -⟩ | ⟨ho, hn, -, rfl⟩ := request_cases hr
        · exact hp
        · exact begun cache bucket ho hn hp

theorem requestAll_of_isOpen (h : cache.isOpen) (buckets : List String) :
    ∃ all after, cache.requestAll buckets = .ok (all, after) := by
  induction buckets generalizing cache with
  | nil => exact ⟨_, _, rfl⟩
  | cons bucket buckets ih =>
    obtain ⟨fetched, middle, hr, hm⟩ := request_of_isOpen h bucket
    obtain ⟨others, after, hrs⟩ := ih hm
    exact ⟨(bucket, fetched) :: others, after, by simp [requestAll, hr, hrs]⟩

/-- Requests hand out something for each bucket, and that stands ready afterwards. -/
theorem requestAll_handed (h : cache.requestAll buckets = .ok (all, after)) :
    all.map (·.1) = buckets ∧ ∀ pair ∈ all, after.handed? pair.1 = some pair.2 := by
  induction buckets generalizing cache all with
  | nil =>
    cases h
    exact ⟨rfl, by simp⟩
  | cons bucket buckets ih =>
    unfold requestAll at h
    split at h
    · cases h
    · rename_i fetched middle hr
      split at h
      · cases h
      · rename_i others last hrs
        cases h
        obtain ⟨hk, hh⟩ := ih hrs
        have hm : middle.handed? bucket = some fetched := by
          obtain ⟨rfl, hf⟩ | ⟨-, hn, rfl, rfl⟩ := request_cases hr
          · exact hf
          · exact handed?_begun_self hn
        have hl : after.handed? bucket = some fetched :=
          requestAll_induction (p := fun cache => cache.handed? bucket = some fetched)
            (fun _ _ _ => handed?_of_begun) hrs hm
        refine ⟨by simp [hk], ?_⟩
        rintro pair (_ | ⟨_, hp⟩)
        · exact hl
        · exact hh pair hp

/-- Each bucket is handed out the same whenever it is asked for. -/
theorem requestAll_eq_map (h : cache.requestAll buckets = .ok (all, after)) :
    ∃ handed : String → Fetched, all = buckets.map (fun bucket => (bucket, handed bucket)) ∧
      ∀ bucket ∈ buckets, after.handed? bucket = some (handed bucket) := by
  obtain ⟨rfl, hh⟩ := requestAll_handed h
  refine ⟨fun bucket => (after.handed? bucket).getD (.load 0), ?_, ?_⟩
  · rw [List.map_map]
    refine (List.map_id all).symm.trans (List.map_congr_left ?_)
    intro pair hp
    simp [hh pair hp]
  · intro bucket hb
    obtain ⟨pair, hp, rfl⟩ := List.mem_map.1 hb
    simp [hh pair hp]

/-! ## Endings -/

theorem endings?_cons (cache : Cache) (pair : String × Fetched) (all : List (String × Fetched)) :
    cache.endings? (pair :: all) = (cache.ending? pair.2).bind fun ending =>
      (cache.endings? all).map ((pair.1, ending) :: ·) := by
  unfold endings?
  rw [List.mapM_cons]
  generalize all.mapM (m := Option) _ = others
  cases cache.ending? pair.2 <;> cases others <;> rfl

/-- Not all that was handed out has ended if something has not. -/
theorem exists_of_endings?_eq_none (h : cache.endings? all = none) :
    ∃ pair ∈ all, cache.ending? pair.2 = none := by
  induction all with
  | nil => cases h
  | cons pair all ih =>
    rw [endings?_cons] at h
    cases he : cache.ending? pair.2 with
    | none => exact ⟨pair, List.mem_cons_self, he⟩
    | some ending =>
      rw [he, Option.bind_some, Option.map_eq_none_iff] at h
      obtain ⟨other, ho, hn⟩ := ih h
      exact ⟨other, List.mem_cons_of_mem _ ho, hn⟩

/-- All that was handed out has ended, each thing in its way. -/
theorem ending?_of_endings? {endings : List (String × Ending)}
    (h : cache.endings? all = some endings) : ∀ pair ∈ all, (cache.ending? pair.2).isSome := by
  induction all generalizing endings with
  | nil => simp
  | cons pair all ih =>
    rw [endings?_cons] at h
    obtain ⟨ending, he, hm⟩ := Option.bind_eq_some_iff.1 h
    obtain ⟨others, ho, -⟩ := Option.map_eq_some_iff.1 hm
    rintro other (_ | ⟨_, hp⟩)
    · rw [he, Option.isSome_some]
    · exact ih ho other hp

/-- How what was handed out for each bucket ended. -/
theorem endings?_map {handed : String → Fetched} {endings : List (String × Ending)}
    (h : cache.endings? (buckets.map fun bucket => (bucket, handed bucket)) = some endings) :
    ∃ ending : String → Ending, endings = buckets.map (fun bucket => (bucket, ending bucket)) ∧
      ∀ bucket ∈ buckets, cache.ending? (handed bucket) = some (ending bucket) := by
  refine ⟨fun bucket => (cache.ending? (handed bucket)).getD .cancelled, ?_, ?_⟩
  · induction buckets generalizing endings with
    | nil =>
      cases h
      rfl
    | cons bucket buckets ih =>
      rw [List.map_cons, endings?_cons] at h
      obtain ⟨ending, he, hm⟩ := Option.bind_eq_some_iff.1 h
      obtain ⟨others, ho, rfl⟩ := Option.map_eq_some_iff.1 hm
      have he : cache.ending? (handed bucket) = some ending := he
      rw [ih ho, List.map_cons]
      simp [he]
  · intro bucket hb
    obtain ⟨ending, he⟩ := Option.isSome_iff_exists.1
      (ending?_of_endings? h _ (List.mem_map_of_mem hb))
    have he : cache.ending? (handed bucket) = some ending := he
    simp [he]

/-! ## Waiting -/

theorem getElem?_awaitLoad (ticket : Ticket) (cache : Cache) (fetched : Fetched) (number : Nat) :
    (cache.awaitLoad ticket fetched).loads[number]? =
      cache.loads[number]?.map fun load =>
        if fetched = .load number ∧ load.ending = none then
          { load with waiting := load.waiting ++ [ticket] }
        else load := by
  cases fetched with
  | ready shard => simp [awaitLoad]
  | load place =>
    by_cases hp : place = number
    · subst hp
      cases hl : cache.loads[place]? with
      | none => simp [awaitLoad, hl]
      | some load => cases he : load.ending <;> simp [awaitLoad, hl, he]
    · simp [awaitLoad, hp]

theorem load_awaitLoad (ticket : Ticket) {number : Nat} {load : Load}
    (h : cache.loads[number]? = some load) (fetched : Fetched) :
    ∃ other, (cache.awaitLoad ticket fetched).loads[number]? = some other ∧
      load.Joined ticket other ∧
      (fetched = .load number → load.ending = none → ticket ∈ other.waiting) := by
  rw [getElem?_awaitLoad, h, Option.map_some]
  refine ⟨_, rfl, ?_⟩
  split
  · exact ⟨⟨rfl, rfl, by simp +contextual, by simp⟩, by simp⟩
  · rename_i hn
    exact ⟨.refl load ticket, fun hf he => absurd ⟨hf, he⟩ hn⟩

/-- A query that waits joins those of its loads that have not ended; of the loads nothing else
changes. -/
theorem load_await (ticket : Ticket) {number : Nat} {load : Load}
    (h : cache.loads[number]? = some load) :
    ∃ other, (cache.await ticket).loads[number]? = some other ∧ load.Joined ticket other ∧
      (∀ pair ∈ ticket.fetched, pair.2 = .load number → load.ending = none →
        ticket ∈ other.waiting) := by
  unfold await
  generalize ticket.fetched = pairs
  induction pairs generalizing cache load with
  | nil => exact ⟨load, h, .refl load ticket, by simp⟩
  | cons pair pairs ih =>
    obtain ⟨middle, hm, jm, wm⟩ := load_awaitLoad ticket h pair.2
    obtain ⟨other, ho, jo, wo⟩ := ih hm
    refine ⟨other, ho, jm.trans jo, ?_⟩
    rintro first (_ | ⟨_, hp⟩) hf he
    · exact jo.waiting ticket (wm hf he)
    · exact wo first hp hf (jm.ending.trans he)

/-- What a query that waits leaves as it is. -/
structure AwaitFrame (cache after : Cache) : Prop where
  shards : after.shards = cache.shards
  inFlight : after.inFlight = cache.inFlight
  held : after.held = cache.held
  length_loads : after.loads.length = cache.loads.length

theorem awaitFrame_awaitLoad (ticket : Ticket) (cache : Cache) (fetched : Fetched) :
    cache.AwaitFrame (cache.awaitLoad ticket fetched) := by
  cases fetched with
  | ready => exact ⟨rfl, rfl, rfl, rfl⟩
  | load => exact ⟨rfl, rfl, rfl, by simp [awaitLoad]⟩

theorem awaitFrame_await (cache : Cache) (ticket : Ticket) :
    cache.AwaitFrame (cache.await ticket) := by
  unfold await
  generalize ticket.fetched = pairs
  induction pairs generalizing cache with
  | nil => exact ⟨rfl, rfl, rfl, rfl⟩
  | cons pair pairs ih =>
    have first := awaitFrame_awaitLoad ticket cache pair.2
    have rest := ih (cache.awaitLoad ticket pair.2)
    exact
      { shards := rest.shards.trans first.shards
        inFlight := rest.inFlight.trans first.inFlight
        held := rest.held.trans first.held
        length_loads := rest.length_loads.trans first.length_loads }

/-- The loads of a cache in which a query waits are those that it joined. -/
theorem load_of_await (ticket : Ticket) {number : Nat} {other : Load}
    (h : (cache.await ticket).loads[number]? = some other) :
    ∃ load, cache.loads[number]? = some load ∧ load.Joined ticket other := by
  have hn : number < cache.loads.length := by
    have := (List.getElem?_eq_some_iff.1 h).1
    rwa [(awaitFrame_await cache ticket).length_loads] at this
  obtain ⟨joined, hj, jj, -⟩ := load_await ticket (List.getElem?_eq_getElem hn)
  cases h.symm.trans hj
  exact ⟨_, List.getElem?_eq_getElem hn, jj⟩

theorem getElem?_finish (cache : Cache) (number : Nat) (ending : Ending) (place : Nat) :
    (cache.finish number ending).loads[place]? =
      if number = place then
        cache.loads[place]?.map fun load => { load with ending := some ending, waiting := [] }
      else cache.loads[place]? := by
  rw [finish, List.getElem?_modify]
  split <;> simp

/-! ## Queries that wait -/

/-- Whether a query waits for a load. -/
def Waits (cache : Cache) (ticket : Ticket) : Prop :=
  ∃ (number : Nat) (load : Load), cache.loads[number]? = some load ∧ ticket ∈ load.waiting

variable {ticket : Ticket}

theorem waits_of_begun (h : (cache.begun bucket).Waits ticket) : cache.Waits ticket := by
  obtain ⟨number, load, hl, ht⟩ := h
  rcases Nat.lt_or_ge number cache.loads.length with hlt | hge
  · exact ⟨number, load, by simpa [begun, List.getElem?_append_left hlt] using hl, ht⟩
  · rw [begun, List.getElem?_append_right hge, List.getElem?_singleton] at hl
    split at hl
    · cases hl
      cases ht
    · cases hl

theorem waits_of_requestAll (h : cache.requestAll buckets = .ok (all, after))
    (hw : after.Waits ticket) : cache.Waits ticket :=
  requestAll_induction (p := fun after => ∀ ticket, after.Waits ticket → cache.Waits ticket)
    (fun _ _ _ _ ih ticket hw => ih ticket (waits_of_begun hw)) h (fun _ hw => hw) ticket hw

theorem waits_of_await {waiter : Ticket} (h : (cache.await ticket).Waits waiter) :
    cache.Waits waiter ∨ waiter = ticket := by
  obtain ⟨number, other, ho, hw⟩ := h
  obtain ⟨load, hl, hj⟩ := load_of_await ticket ho
  exact (hj.only waiter hw).imp_left fun hw => ⟨number, load, hl, hw⟩

theorem waits_of_finish {number : Nat} {ending : Ending}
    (h : (cache.finish number ending).Waits ticket) : cache.Waits ticket := by
  obtain ⟨place, load, hl, ht⟩ := h
  rw [getElem?_finish] at hl
  split at hl
  · obtain ⟨other, -, rfl⟩ := Option.map_eq_some_iff.1 hl
    cases ht
  · exact ⟨place, load, hl, ht⟩

theorem waits_of_mem_waitingFor {number : Nat} (h : ticket ∈ cache.waitingFor number) :
    cache.Waits ticket := by
  unfold waitingFor at h
  cases hl : cache.loads[number]? with
  | none => simp [hl] at h
  | some load => exact ⟨number, load, hl, by simpa [hl] using h⟩

end Cache

end SymbolLookup

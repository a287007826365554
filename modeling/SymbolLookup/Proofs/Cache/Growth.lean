import SymbolLookup.Proofs.Cache.Request
/-!
# Growth of a cache

Loads are never taken away, and each one stays that of its bucket.

## Main definitions

* `Cache.Grows`: whether a cache has all loads of another.
* `Cache.Linked`: whether the loads in flight are those of their buckets.
* `Cache.Backs`: whether something that was handed out for a bucket is one of its loads.

## Main results

* `Cache.grows_requestAll` and its like: whatever becomes of a cache, it grows.
* `Cache.Linked.backs_of_handed?`: what stands ready for a bucket is its shard or one of its loads.
-/

namespace SymbolLookup

namespace Cache

variable {cache after : Cache} {bucket : String} {buckets : List String}
  {all : List (String × Fetched)}

/-- Whether a cache has all loads of another. -/
def Grows (cache after : Cache) : Prop :=
  ∀ (number : Nat) (load : Load), cache.loads[number]? = some load →
    ∃ other, after.loads[number]? = some other ∧ other.bucket = load.bucket

theorem Grows.of_loads (h : after.loads = cache.loads) : cache.Grows after :=
  fun _ load hl => ⟨load, h ▸ hl, rfl⟩

theorem Grows.refl (cache : Cache) : cache.Grows cache := .of_loads rfl

theorem Grows.trans {middle : Cache} (first : cache.Grows middle) (second : middle.Grows after) :
    cache.Grows after := by
  intro number load hl
  obtain ⟨other, ho, hb⟩ := first number load hl
  obtain ⟨last, hl, hb'⟩ := second number other ho
  exact ⟨last, hl, hb'.trans hb⟩

theorem grows_begun (cache : Cache) (bucket : String) : cache.Grows (cache.begun bucket) := by
  intro number load hl
  refine ⟨load, ?_, rfl⟩
  rw [begun, List.getElem?_append_left (List.getElem?_eq_some_iff.1 hl).1, hl]

/-- Loads that were begun before stay as they are when others are begun. -/
theorem load_requestAll (h : cache.requestAll buckets = .ok (all, after)) {number : Nat}
    {load : Load} (hl : cache.loads[number]? = some load) : after.loads[number]? = some load := by
  apply requestAll_induction (p := fun cache => cache.loads[number]? = some load) ?_ h hl
  intro cache bucket _ _ hl
  rw [begun, List.getElem?_append_left (List.getElem?_eq_some_iff.1 hl).1, hl]

theorem grows_requestAll (h : cache.requestAll buckets = .ok (all, after)) : cache.Grows after :=
  fun _ load hl => ⟨load, load_requestAll h hl, rfl⟩

theorem grows_await (cache : Cache) (ticket : Ticket) : cache.Grows (cache.await ticket) := by
  intro number load hl
  obtain ⟨other, ho, hj, -⟩ := load_await ticket hl
  exact ⟨other, ho, hj.bucket⟩

theorem grows_finish (cache : Cache) (number : Nat) (ending : Ending) :
    cache.Grows (cache.finish number ending) := by
  intro place load hl
  rw [getElem?_finish, hl]
  split
  · exact ⟨_, rfl, rfl⟩
  · exact ⟨_, rfl, rfl⟩

/-! ## Loads of buckets -/

/-- Whether something that was handed out for a bucket is a shard or one of the loads of the
bucket. -/
def Backs (cache : Cache) (bucket : String) : Fetched → Prop
  | .ready _ => True
  | .load number => ∃ load, cache.loads[number]? = some load ∧ load.bucket = bucket

theorem Backs.of_grows {fetched : Fetched} (h : cache.Backs bucket fetched)
    (hg : cache.Grows after) : after.Backs bucket fetched := by
  cases fetched with
  | ready => trivial
  | load number =>
    obtain ⟨load, hl, hb⟩ := h
    obtain ⟨other, ho, he⟩ := hg number load hl
    exact ⟨other, ho, he.trans hb⟩

/-- Whether the loads in flight are those of their buckets. -/
def Linked (cache : Cache) : Prop :=
  ∀ bucket number, Keyed.get? bucket cache.inFlight = some number →
    cache.Backs bucket (.load number)

theorem Linked.backs_of_handed? (h : cache.Linked) {fetched : Fetched}
    (hf : cache.handed? bucket = some fetched) : cache.Backs bucket fetched := by
  unfold handed? at hf
  split at hf
  · cases hf
    trivial
  · obtain ⟨number, hn, rfl⟩ := Option.map_eq_some_iff.1 hf
    exact h bucket number hn

/-- The loads in flight stay those of their buckets when no other load takes to flight. -/
theorem Linked.of_grows (h : cache.Linked) (hg : cache.Grows after)
    (hi : ∀ bucket number, Keyed.get? bucket after.inFlight = some number →
      Keyed.get? bucket cache.inFlight = some number) : after.Linked :=
  fun bucket number hn => (h bucket number (hi bucket number hn)).of_grows hg

theorem Linked.begun (h : cache.Linked) (bucket : String) : (cache.begun bucket).Linked := by
  intro other number hn
  by_cases ho : other = bucket
  · subst ho
    rw [Cache.begun, Keyed.get?_put_self] at hn
    cases hn
    exact ⟨{ bucket := other }, by simp [Cache.begun], rfl⟩
  · rw [Cache.begun, Keyed.get?_put_of_ne ho] at hn
    exact (h other number hn).of_grows (grows_begun cache bucket)

theorem Linked.requestAll (h : cache.Linked)
    (hr : cache.requestAll buckets = .ok (all, after)) : after.Linked :=
  requestAll_induction (fun _ bucket _ _ h => h.begun bucket) hr h

theorem get?_erase_some {other : String} {number : Nat} {pairs : List (String × Nat)}
    (h : Keyed.get? other (Keyed.erase bucket pairs) = some number) :
    Keyed.get? other pairs = some number := by
  by_cases ho : other = bucket
  · subst ho
    rw [Keyed.get?_erase_self] at h
    cases h
  · rwa [Keyed.get?_erase_of_ne ho] at h

theorem Linked.keep (h : cache.Linked) (shard : Shard) : (cache.keep shard).Linked :=
  h.of_grows (.of_loads rfl) fun _ _ hn => get?_erase_some hn

theorem Linked.forget (h : cache.Linked) (bucket : String) : (cache.forget bucket).Linked :=
  h.of_grows (.of_loads rfl) fun _ _ hn => get?_erase_some hn

theorem Linked.await (h : cache.Linked) (ticket : Ticket) : (cache.await ticket).Linked :=
  h.of_grows (grows_await cache ticket) fun bucket number hn => by
    rwa [(awaitFrame_await cache ticket).inFlight] at hn

theorem Linked.finish (h : cache.Linked) (number : Nat) (ending : Ending) :
    (cache.finish number ending).Linked :=
  h.of_grows (grows_finish cache number ending) fun _ _ hn => hn

end Cache

end SymbolLookup

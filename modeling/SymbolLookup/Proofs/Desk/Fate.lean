import SymbolLookup.Proofs.Desk.Depot
/-!
# The fates of loads

How each load of a desk ends, told from the moment on at which this is settled.

## Main definitions

* `Fate`: the bucket of a load, and how it ends.
* `Depot.fates`, `Depot.queue`: the fates of all loads, and the loads whose turn is not over.
* `Depot.Sound`: how shards, loads in flight and fetches go with the fates of the loads.
* `Depot.Change`: what a step does to the fates.

## Main results

* `Depot.Step.sound`: every step of a depot keeps it sound.
* `Depot.LeadsTo.sound`: whatever becomes of an empty depot is sound.
* `Depot.LeadsTo.fate_of_settled`: a fate stays as it is once it is settled.

## Design notes

What a load brings is kept, or its bucket taken out of flight, before the load has ended; in between
hosts are told about the document and may ask for the bucket again. Between a fetch and the ending
the cache therefore runs ahead of the endings of the loads, but never of their fates.
-/

namespace SymbolLookup

/-- The bucket of a load, and how the load ends, once this is settled. -/
structure Fate where
  bucket : String
  ending : Option Ending := none

namespace Fate

/-- Whether a load of this fate is in flight. -/
def flies : Fate → Bool
  | ⟨_, none⟩ | ⟨_, some (.exit _)⟩ | ⟨_, some .cancelled⟩ => true
  | _ => false

/-- Whether the document of the bucket was fetched for a load of this fate. -/
def isFetched : Fate → Bool
  | ⟨_, none⟩ | ⟨_, some .cancelled⟩ => false
  | _ => true

/-- Whether a load of this fate ends without a shard and with a reason. -/
def isFailed : Fate → Bool
  | ⟨_, some (.failed _)⟩ => true
  | _ => false

theorem exists_shard {fate : Fate} (hn : fate.flies = false) (hf : fate.isFailed = false) :
    ∃ shard, fate = ⟨fate.bucket, some (.shard shard)⟩ := by
  obtain ⟨bucket, _ | ending⟩ := fate
  · cases hn
  · cases ending with
    | shard shard => exact ⟨shard, rfl⟩
    | failed => cases hf
    | exit | cancelled => cases hn

theorem isFailed_eq_false (fate : Fate) (h : fate.flies = true) : fate.isFailed = false := by
  obtain ⟨_, _ | _ | _ | _ | _⟩ := fate <;> first | rfl | cases h

theorem flies_eq_false (fate : Fate) (h : fate.isFailed = true) : fate.flies = false := by
  obtain ⟨_, _ | _ | _ | _ | _⟩ := fate <;> first | rfl | cases h

theorem isFetched_of_isFailed (fate : Fate) (h : fate.isFailed = true) :
    fate.isFetched = true := by
  obtain ⟨_, _ | _ | _ | _ | _⟩ := fate <;> first | rfl | cases h

theorem isFailed_of_not_fetched (fate : Fate) (h : fate.isFetched = false) :
    fate.isFailed = false := by
  rw [Bool.eq_false_iff]
  intro hf
  rw [fate.isFetched_of_isFailed hf] at h
  cases h

end Fate

/-- The fate of a load as far as the load has ended. -/
def Load.fate (load : Load) : Fate := ⟨load.bucket, load.ending⟩

/-- The load that has its turn. -/
def Task.turn? : Task → Option Nat
  | .load number => some number
  | _ => none

/-- How a load is about to end. -/
def Task.ending? (number : Nat) : Task → Option Ending
  | .finish other ending => if other = number then some ending else none
  | _ => none

namespace Depot

/-- The fate of a load by its number. -/
def fateOf (depot : Depot) (number : Nat) (load : Load) : Fate :=
  ⟨load.bucket, load.ending.or (depot.work.head?.bind (Task.ending? number))⟩

/-- The fates of all loads. -/
def fates (depot : Depot) : List Fate := depot.cache.loads.mapIdx depot.fateOf

/-- The loads whose turn is not over. -/
def queue (depot : Depot) : List Nat :=
  (depot.work.head?.bind Task.turn?).toList ++ depot.cache.held

theorem getElem?_fates (depot : Depot) (number : Nat) :
    depot.fates[number]? = depot.cache.loads[number]?.map (depot.fateOf number) :=
  List.getElem?_mapIdx

theorem fate_of_ended {depot : Depot} {number : Nat} {load : Load} {ending : Ending}
    (hl : depot.cache.loads[number]? = some load) (he : load.ending = some ending) :
    depot.fates[number]? = some ⟨load.bucket, some ending⟩ := by
  rw [getElem?_fates, hl, Option.map_some, fateOf, he, Option.some_or]

theorem length_fates (depot : Depot) : depot.fates.length = depot.cache.loads.length :=
  List.length_mapIdx

/-- Whether the tasks of a depot are in order: at most the first one deals with a load, and a load
that is about to end has not ended. -/
structure Orderly (depot : Depot) : Prop where
  rest : ∀ task ∈ depot.work.tail, task = .drain
  ends : ∀ number ending, depot.work.head? = some (.finish number ending) →
    ∃ load, depot.cache.loads[number]? = some load ∧ load.ending = none

/-- Whether shards, loads in flight and fetches go with the fates of the loads. -/
structure Sound (depot : Depot) : Prop where
  orderly : depot.Orderly
  nodup : depot.queue.Nodup
  /-- A load whose turn is not over was not fetched for. -/
  queued : ∀ number ∈ depot.queue, ∃ fate, depot.fates[number]? = some fate ∧
    fate.isFetched = false
  /-- A load whose fate is open will have its turn. -/
  due : ∀ number bucket, depot.fates[number]? = some (⟨bucket, none⟩ : Fate) →
    number ∈ depot.queue
  /-- The load of a bucket that is in flight is one that flies. -/
  flies : ∀ bucket number, Keyed.get? bucket depot.cache.inFlight = some number ↔
    ∃ fate, depot.fates[number]? = some fate ∧ fate.bucket = bucket ∧ fate.flies = true
  /-- A shard is kept if it is what some load brings. -/
  keeps : ∀ bucket shard, Keyed.get? bucket depot.cache.shards = some shard ↔
    ∃ number : Nat, depot.fates[number]? = some (⟨bucket, some (.shard shard)⟩ : Fate)
  /-- A load that is followed by another one of its bucket fails. -/
  failed : ∀ (first second : Nat) (fate other : Fate), first < second →
    depot.fates[first]? = some fate → depot.fates[second]? = some other →
    fate.bucket = other.bucket → fate.isFailed = true
  /-- Each bucket was fetched for just the loads that were fetched for. -/
  fetched : ∀ bucket, depot.fetches.count bucket =
    depot.fates.countP fun fate => fate.bucket == bucket && fate.isFetched

namespace Sound

variable {depot after : Depot}

/-- Of the loads of a bucket at most one does not fail. -/
theorem eq_of_not_failed (h : depot.Sound) {first second : Nat} {fate other : Fate}
    (hf : depot.fates[first]? = some fate) (ho : depot.fates[second]? = some other)
    (hb : fate.bucket = other.bucket) (nf : fate.isFailed = false) (no : other.isFailed = false) :
    first = second := by
  rcases Nat.lt_trichotomy first second with hlt | rfl | hgt
  · rw [h.failed first second fate other hlt hf ho hb] at nf
    cases nf
  · rfl
  · rw [h.failed second first other fate hgt ho hf hb.symm] at no
    cases no

/-- A bucket that is in flight is not kept. -/
theorem apart (h : depot.Sound) {bucket : String} {number : Nat} {shard : Shard}
    (hn : Keyed.get? bucket depot.cache.inFlight = some number) :
    Keyed.get? bucket depot.cache.shards ≠ some shard := by
  intro hs
  obtain ⟨fate, hf, rfl, hfly⟩ := (h.flies bucket number).1 hn
  obtain ⟨other, ho⟩ := (h.keeps fate.bucket shard).1 hs
  cases h.eq_of_not_failed hf ho rfl (fate.isFailed_eq_false hfly) rfl
  rw [Option.some.inj (hf.symm.trans ho)] at hfly
  cases hfly

/-- All loads fail of a bucket for which nothing stands ready. -/
theorem isFailed_of_handed? (h : depot.Sound) {bucket : String}
    (hn : depot.cache.handed? bucket = none) {number : Nat} {fate : Fate}
    (hf : depot.fates[number]? = some fate) (hb : fate.bucket = bucket) :
    fate.isFailed = true := by
  rw [← Bool.not_eq_false]
  intro hc
  have hs : Keyed.get? bucket depot.cache.shards = none := by
    cases hs : Keyed.get? bucket depot.cache.shards with
    | none => rfl
    | some shard => rw [Cache.handed?_of_shard hs] at hn; cases hn
  rw [Cache.handed?_of_inFlight hs, Option.map_eq_none_iff] at hn
  cases hfly : fate.flies with
  | true =>
    rw [(h.flies bucket number).2 ⟨fate, hf, hb, hfly⟩] at hn
    cases hn
  | false =>
    obtain ⟨shard, he⟩ := Fate.exists_shard hfly hc
    rw [he] at hf
    rw [← hb, (h.keeps fate.bucket shard).2 ⟨number, hf⟩] at hs
    cases hs

end Sound

/-! ## A load that is begun -/

theorem getElem?_concat_eq_some {α : Type} {l : List α} {last a : α} {number : Nat} :
    (l ++ [last])[number]? = some a ↔ l[number]? = some a ∨ number = l.length ∧ last = a := by
  rcases Nat.lt_or_ge number l.length with hlt | hge
  · simp [List.getElem?_append_left hlt, Nat.ne_of_lt hlt]
  · rw [List.getElem?_append_right hge, List.getElem?_eq_none hge, List.getElem?_singleton]
    split
    · simp [show number = l.length by omega]
    · simp [show number ≠ l.length by omega]

/-- Whether a load is begun of a bucket for which nothing stands ready. -/
structure Adds (depot after : Depot) (bucket : String) : Prop where
  handed : depot.cache.handed? bucket = none
  fates : after.fates = depot.fates ++ [⟨bucket, none⟩]
  queue : after.queue = depot.queue ++ [depot.fates.length]
  shards : after.cache.shards = depot.cache.shards
  inFlight : after.cache.inFlight = Keyed.put bucket depot.fates.length depot.cache.inFlight
  fetches : after.fetches = depot.fetches

namespace Adds

variable {depot after : Depot} {bucket : String}

theorem fate_iff (a : depot.Adds after bucket) (number : Nat) (fate : Fate) :
    after.fates[number]? = some fate ↔
      depot.fates[number]? = some fate ∨ number = depot.fates.length ∧ ⟨bucket, none⟩ = fate := by
  rw [a.fates, getElem?_concat_eq_some]

theorem nodup (a : depot.Adds after bucket) (h : depot.Sound) : after.queue.Nodup := by
  rw [a.queue]
  refine List.nodup_append.2 ⟨h.nodup, List.pairwise_singleton _ _, ?_⟩
  intro number hm other ho hne
  obtain ⟨fate, hl, -⟩ := h.queued number hm
  rw [List.mem_singleton.1 ho] at hne
  exact absurd (List.getElem?_eq_some_iff.1 hl).1 (by omega)

theorem queued (a : depot.Adds after bucket) (h : depot.Sound) (number : Nat)
    (hm : number ∈ after.queue) :
    ∃ fate, after.fates[number]? = some fate ∧ fate.isFetched = false := by
  rw [a.queue] at hm
  rcases List.mem_append.1 hm with hm | hm
  · obtain ⟨fate, hl, hw⟩ := h.queued number hm
    exact ⟨fate, (a.fate_iff _ _).2 (.inl hl), hw⟩
  · rw [List.mem_singleton.1 hm]
    exact ⟨_, (a.fate_iff _ _).2 (.inr ⟨rfl, rfl⟩), rfl⟩

theorem due (a : depot.Adds after bucket) (h : depot.Sound) (number : Nat) (other : String)
    (hm : after.fates[number]? = some ⟨other, none⟩) : number ∈ after.queue := by
  rw [a.queue]
  rcases (a.fate_iff _ _).1 hm with hm | ⟨rfl, -⟩
  · exact List.mem_append_left _ (h.due number other hm)
  · exact List.mem_append_right _ List.mem_cons_self

theorem flies (a : depot.Adds after bucket) (h : depot.Sound) (other : String) (number : Nat) :
    Keyed.get? other after.cache.inFlight = some number ↔
      ∃ fate, after.fates[number]? = some fate ∧ fate.bucket = other ∧ fate.flies = true := by
  rw [a.inFlight]
  by_cases hb : other = bucket
  · subst hb
    rw [Keyed.get?_put_self]
    constructor
    · intro he
      cases he
      exact ⟨_, (a.fate_iff _ _).2 (.inr ⟨rfl, rfl⟩), rfl, rfl⟩
    · rintro ⟨fate, hm, hb, hfly⟩
      rcases (a.fate_iff _ _).1 hm with hm | ⟨rfl, -⟩
      · rw [fate.flies_eq_false (h.isFailed_of_handed? a.handed hm hb)] at hfly
        cases hfly
      · rfl
  · rw [Keyed.get?_put_of_ne hb, h.flies]
    constructor
    · rintro ⟨fate, hm, hr⟩
      exact ⟨fate, (a.fate_iff _ _).2 (.inl hm), hr⟩
    · rintro ⟨fate, hm, hr⟩
      rcases (a.fate_iff _ _).1 hm with hm | ⟨rfl, rfl⟩
      · exact ⟨fate, hm, hr⟩
      · exact absurd hr.1.symm hb

theorem keeps (a : depot.Adds after bucket) (h : depot.Sound) (other : String) (shard : Shard) :
    Keyed.get? other after.cache.shards = some shard ↔
      ∃ number : Nat, after.fates[number]? = some ⟨other, some (.shard shard)⟩ := by
  rw [a.shards, h.keeps]
  constructor
  · rintro ⟨number, hm⟩
    exact ⟨number, (a.fate_iff _ _).2 (.inl hm)⟩
  · rintro ⟨number, hm⟩
    rcases (a.fate_iff _ _).1 hm with hm | ⟨-, he⟩
    · exact ⟨number, hm⟩
    · cases he

theorem failed (a : depot.Adds after bucket) (h : depot.Sound) (first second : Nat)
    (fate other : Fate) (hlt : first < second) (hf : after.fates[first]? = some fate)
    (ho : after.fates[second]? = some other) (hb : fate.bucket = other.bucket) :
    fate.isFailed = true := by
  have hsecond := (List.getElem?_eq_some_iff.1 ho).1
  rw [a.fates, List.length_append, List.length_singleton] at hsecond
  rcases (a.fate_iff _ _).1 hf with hf | ⟨rfl, -⟩
  · rcases (a.fate_iff _ _).1 ho with ho | ⟨-, rfl⟩
    · exact h.failed first second fate other hlt hf ho hb
    · exact h.isFailed_of_handed? a.handed hf hb
  · omega

theorem sound (a : depot.Adds after bucket) (h : depot.Sound) (ho : after.Orderly) :
    after.Sound where
  orderly := ho
  nodup := a.nodup h
  queued := a.queued h
  due := a.due h
  flies := a.flies h
  keeps := a.keeps h
  failed := a.failed h
  fetched other := by
    rw [a.fetches, a.fates, List.countP_append, h.fetched]
    simp [Fate.isFetched]

end Adds

/-! ## A load whose ending is settled -/

theorem getElem?_set_eq_some {α : Type} {l : List α} {number : Nat} (h : number < l.length)
    {new a : α} {other : Nat} :
    (l.set number new)[other]? = some a ↔
      other = number ∧ new = a ∨ other ≠ number ∧ l[other]? = some a := by
  rw [List.getElem?_set]
  split
  · subst other
    simp [h]
  · simp [Ne.symm ‹_›]

theorem loads_settled (cache : Cache) (bucket : String) (ending : Ending) :
    (cache.settled bucket ending).loads = cache.loads := by cases ending <;> rfl

theorem held_settled (cache : Cache) (bucket : String) (ending : Ending) :
    (cache.settled bucket ending).held = cache.held := by cases ending <;> rfl

theorem get?_inFlight_settled {cache : Cache} {bucket : String} {ending : Ending}
    (hb : ∀ shard, ending = .shard shard → shard.bucket = bucket) (other : String) :
    Keyed.get? other (cache.settled bucket ending).inFlight =
      if other = bucket ∧ (Fate.mk bucket (some ending)).flies = false then none
      else Keyed.get? other cache.inFlight := by
  have erased : Keyed.get? other (Keyed.erase bucket cache.inFlight) =
      if other = bucket then none else Keyed.get? other cache.inFlight := by
    split
    · subst other
      exact Keyed.get?_erase_self _ _
    · exact Keyed.get?_erase_of_ne ‹_› _
  cases ending with
  | shard shard => simpa [Cache.settled, Cache.keep, hb, Fate.flies] using erased
  | failed => simpa [Cache.settled, Cache.forget, Fate.flies] using erased
  | exit | cancelled => simp [Cache.settled, Fate.flies]

theorem get?_shards_settled {cache : Cache} {bucket : String} {ending : Ending}
    (hb : ∀ shard, ending = .shard shard → shard.bucket = bucket)
    (hn : Keyed.get? bucket cache.shards = none) (other : String) (shard : Shard) :
    Keyed.get? other (cache.settled bucket ending).shards = some shard ↔
      other = bucket ∧ ending = .shard shard ∨ Keyed.get? other cache.shards = some shard := by
  cases ending with
  | shard kept =>
    obtain rfl := hb kept rfl
    rw [Cache.settled, Cache.keep]
    by_cases ho : other = kept.bucket
    · subst ho
      simp [hn]
    · simp [Keyed.get?_put_of_ne ho, ho]
  | failed | exit | cancelled => simp [Cache.settled, Cache.forget]

/-- Whether it is settled how a load ends: by its turn, or because it is cancelled. -/
structure Settles (depot after : Depot) (number : Nat) (bucket : String) (ending : Ending) :
    Prop where
  fate : depot.fates[number]? = some ⟨bucket, none⟩
  brought : ∀ shard, ending = .shard shard → shard.bucket = bucket
  fates : after.fates = depot.fates.set number ⟨bucket, some ending⟩
  shards : after.cache.shards = (depot.cache.settled bucket ending).shards
  inFlight : after.cache.inFlight = (depot.cache.settled bucket ending).inFlight
  turn : ending = .cancelled ∧ after.queue = depot.queue ∧ after.fetches = depot.fetches ∨
    ending ≠ .cancelled ∧ depot.queue = number :: after.queue ∧
      after.fetches = depot.fetches ++ [bucket]

namespace Settles

variable {depot after : Depot} {number : Nat} {bucket : String} {ending : Ending}

theorem fate_iff (s : depot.Settles after number bucket ending) (other : Nat) (fate : Fate) :
    after.fates[other]? = some fate ↔
      other = number ∧ ⟨bucket, some ending⟩ = fate ∨
        other ≠ number ∧ depot.fates[other]? = some fate := by
  rw [s.fates, getElem?_set_eq_some (List.getElem?_eq_some_iff.1 s.fate).1]

theorem inFlight_before (s : depot.Settles after number bucket ending) (h : depot.Sound) :
    Keyed.get? bucket depot.cache.inFlight = some number :=
  (h.flies bucket number).2 ⟨_, s.fate, rfl, rfl⟩

theorem nodup (s : depot.Settles after number bucket ending) (h : depot.Sound) :
    after.queue.Nodup := by
  obtain ⟨-, hq, -⟩ | ⟨-, hq, -⟩ := s.turn
  · exact hq ▸ h.nodup
  · exact (List.nodup_cons.1 (hq ▸ h.nodup)).2

theorem queued (s : depot.Settles after number bucket ending) (h : depot.Sound) (other : Nat)
    (hm : other ∈ after.queue) :
    ∃ fate, after.fates[other]? = some fate ∧ fate.isFetched = false := by
  by_cases hne : other = number
  · refine ⟨_, (s.fate_iff _ _).2 (.inl ⟨hne, rfl⟩), ?_⟩
    obtain ⟨rfl, -⟩ | ⟨-, hq, -⟩ := s.turn
    · rfl
    · exact absurd (hne ▸ hm) (List.nodup_cons.1 (hq ▸ h.nodup)).1
  · have before : other ∈ depot.queue := by
      obtain ⟨-, hq, -⟩ | ⟨-, hq, -⟩ := s.turn
      · exact hq ▸ hm
      · exact hq ▸ List.mem_cons_of_mem _ hm
    obtain ⟨fate, hl, hw⟩ := h.queued other before
    exact ⟨fate, (s.fate_iff _ _).2 (.inr ⟨hne, hl⟩), hw⟩

theorem due (s : depot.Settles after number bucket ending) (h : depot.Sound) (other : Nat)
    (name : String) (hm : after.fates[other]? = some ⟨name, none⟩) : other ∈ after.queue := by
  rcases (s.fate_iff _ _).1 hm with ⟨-, he⟩ | ⟨hne, hl⟩
  · cases he
  · have hd := h.due other name hl
    obtain ⟨-, hq, -⟩ | ⟨-, hq, -⟩ := s.turn
    · exact hq ▸ hd
    · rw [hq] at hd
      exact (List.mem_cons.1 hd).resolve_left hne

theorem flies (s : depot.Settles after number bucket ending) (h : depot.Sound) (other : String)
    (place : Nat) : Keyed.get? other after.cache.inFlight = some place ↔
      ∃ fate, after.fates[place]? = some fate ∧ fate.bucket = other ∧ fate.flies = true := by
  rw [s.inFlight, get?_inFlight_settled s.brought]
  constructor
  · intro he
    split at he
    · cases he
    · obtain ⟨fate, hl, rfl, hfly⟩ := (h.flies other place).1 he
      by_cases hp : place = number
      · subst hp
        cases hl.symm.trans s.fate
        exact ⟨_, (s.fate_iff _ _).2 (.inl ⟨rfl, rfl⟩), rfl, by simp_all⟩
      · exact ⟨fate, (s.fate_iff _ _).2 (.inr ⟨hp, hl⟩), rfl, hfly⟩
  · rintro ⟨fate, hm, rfl, hfly⟩
    rcases (s.fate_iff _ _).1 hm with ⟨rfl, rfl⟩ | ⟨hne, hl⟩
    · rw [if_neg (by simp [hfly])]
      exact s.inFlight_before h
    · have ho : fate.bucket ≠ bucket := fun ho =>
        hne (h.eq_of_not_failed hl s.fate ho (fate.isFailed_eq_false hfly) rfl)
      rw [if_neg fun hc => ho hc.1]
      exact (h.flies fate.bucket place).2 ⟨fate, hl, rfl, hfly⟩

theorem keeps (s : depot.Settles after number bucket ending) (h : depot.Sound) (other : String)
    (shard : Shard) : Keyed.get? other after.cache.shards = some shard ↔
      ∃ place : Nat, after.fates[place]? = some ⟨other, some (.shard shard)⟩ := by
  have kept : Keyed.get? bucket depot.cache.shards = none :=
    Option.eq_none_iff_forall_ne_some.2 fun _ => h.apart (s.inFlight_before h)
  rw [s.shards, get?_shards_settled s.brought kept]
  constructor
  · rintro (⟨rfl, rfl⟩ | hs)
    · exact ⟨number, (s.fate_iff _ _).2 (.inl ⟨rfl, rfl⟩)⟩
    · obtain ⟨place, hl⟩ := (h.keeps other shard).1 hs
      refine ⟨place, (s.fate_iff _ _).2 (.inr ⟨?_, hl⟩)⟩
      rintro rfl
      cases s.fate.symm.trans hl
  · rintro ⟨place, hm⟩
    rcases (s.fate_iff _ _).1 hm with ⟨-, he⟩ | ⟨-, hl⟩
    · cases he
      exact .inl ⟨rfl, rfl⟩
    · exact .inr ((h.keeps other shard).2 ⟨place, hl⟩)

theorem failed (s : depot.Settles after number bucket ending) (h : depot.Sound)
    (first second : Nat) (fate other : Fate) (hlt : first < second)
    (hf : after.fates[first]? = some fate) (ho : after.fates[second]? = some other)
    (hb : fate.bucket = other.bucket) : fate.isFailed = true := by
  rcases (s.fate_iff _ _).1 hf with ⟨rfl, rfl⟩ | ⟨-, hf⟩ <;>
    rcases (s.fate_iff _ _).1 ho with ⟨rfl, rfl⟩ | ⟨-, ho⟩
  · exact absurd hlt (Nat.lt_irrefl _)
  · cases h.failed first second ⟨bucket, none⟩ other hlt s.fate ho hb
  · exact h.failed first second fate ⟨bucket, none⟩ hlt hf s.fate hb
  · exact h.failed first second fate other hlt hf ho hb

theorem fetched (s : depot.Settles after number bucket ending) (h : depot.Sound)
    (other : String) : after.fetches.count other =
      after.fates.countP fun fate => fate.bucket == other && fate.isFetched := by
  obtain ⟨hlt, hn⟩ := List.getElem?_eq_some_iff.1 s.fate
  rw [s.fates, List.countP_set hlt, hn, ← h.fetched]
  obtain ⟨rfl, -, hq⟩ | ⟨hne, -, hq⟩ := s.turn
  · simp [hq, Fate.isFetched]
  · have fetched : (Fate.mk bucket (some ending)).isFetched = true := by
      cases ending <;> first | rfl | exact absurd rfl hne
    rw [hq, List.count_append, List.count_singleton, fetched]
    simp [Fate.isFetched]

theorem sound (s : depot.Settles after number bucket ending) (h : depot.Sound)
    (ho : after.Orderly) : after.Sound where
  orderly := ho
  nodup := s.nodup h
  queued := s.queued h
  due := s.due h
  flies := s.flies h
  keeps := s.keeps h
  failed := s.failed h
  fetched := s.fetched h

end Settles

/-! ## Changes -/

/-- What a step does to the fates of the loads. -/
inductive Change (depot after : Depot) : Prop where
  -- they stay as they are, although the turns of loads that were cancelled may be over
  | same (ended : List Nat) (fates : after.fates = depot.fates)
      (queue : depot.queue.Perm (ended ++ after.queue))
      (closed : ∀ number ∈ ended, ∀ bucket, depot.fates[number]? ≠ some ⟨bucket, none⟩)
      (shards : after.cache.shards = depot.cache.shards)
      (inFlight : after.cache.inFlight = depot.cache.inFlight)
      (fetches : after.fetches = depot.fetches)
  -- a load is begun
  | adds {bucket : String} (a : depot.Adds after bucket)
  -- it is settled how a load ends
  | settles {number : Nat} {bucket : String} {ending : Ending}
      (s : depot.Settles after number bucket ending)

namespace Change

variable {depot after : Depot}

theorem sound (c : depot.Change after) (h : depot.Sound) (ho : after.Orderly) : after.Sound := by
  cases c with
  | adds a => exact a.sound h ho
  | settles s => exact s.sound h ho
  | same ended hf hq hn hs hi hc =>
    exact {
      orderly := ho
      nodup := (List.nodup_append.1 (hq.nodup_iff.1 h.nodup)).2.1
      queued := fun number hm => hf ▸ h.queued number (hq.mem_iff.2 (List.mem_append_right _ hm))
      due := fun number bucket hm => by
        rw [hf] at hm
        have hd := hq.mem_iff.1 (h.due number bucket hm)
        exact (List.mem_append.1 hd).resolve_left fun ho => hn number ho bucket hm
      flies := fun bucket number => by rw [hi, hf]; exact h.flies bucket number
      keeps := fun bucket shard => by rw [hs, hf]; exact h.keeps bucket shard
      failed := by rw [hf]; exact h.failed
      fetched := fun bucket => by rw [hc, hf]; exact h.fetched bucket }

/-- The fate of a load stays as it is once it is settled. -/
theorem fate_of_settled (c : depot.Change after) {number : Nat} {bucket : String}
    {ending : Ending} (h : depot.fates[number]? = some ⟨bucket, some ending⟩) :
    after.fates[number]? = some ⟨bucket, some ending⟩ := by
  cases c with
  | same _ hf => rwa [hf]
  | adds a => exact (a.fate_iff _ _).2 (.inl h)
  | settles s =>
    refine (s.fate_iff _ _).2 (.inr ⟨?_, h⟩)
    rintro rfl
    cases s.fate.symm.trans h

end Change

/-! ## Steps -/

theorem head?_bind_eq_none {α : Type} {f : Task → Option α} {work : List Task}
    (h : ∀ task ∈ work, task = .drain) (hf : f .drain = none) : work.head?.bind f = none := by
  cases work with
  | nil => rfl
  | cons task work => rw [h task List.mem_cons_self, List.head?_cons, Option.bind_some, hf]

theorem queue_of_drains {cache : Cache} {work : List Task} {fetches : List String}
    (h : ∀ task ∈ work, task = .drain) : queue ⟨cache, work, fetches⟩ = cache.held := by
  rw [queue, head?_bind_eq_none h rfl]
  rfl

theorem fateOf_eq {depot : Depot} {number : Nat}
    (h : depot.work.head?.bind (Task.ending? number) = none) : depot.fateOf number = Load.fate := by
  funext load
  rw [fateOf, h, Option.or_none, Load.fate]

/-- When no load is about to end, loads have the fates by which they ended. -/
theorem fates_eq_map {depot : Depot}
    (h : ∀ number, depot.work.head?.bind (Task.ending? number) = none) :
    depot.fates = depot.cache.loads.map Load.fate := by
  rw [fates, List.mapIdx_eq_iff]
  intro number
  rw [fateOf_eq (h number), List.getElem?_map]

/-- The fate of a load is open when no load is about to end and it has not ended. -/
theorem fate_of_open {depot : Depot} {number : Nat} {load : Load}
    (h : ∀ number, depot.work.head?.bind (Task.ending? number) = none)
    (hl : depot.cache.loads[number]? = some load) (he : load.ending = none) :
    depot.fates[number]? = some ⟨load.bucket, none⟩ := by
  rw [fates_eq_map h, List.getElem?_map, hl, Option.map_some, Load.fate, he]

/-- When a load is about to end, it has the fate of its ending. -/
theorem fates_eq_set {depot : Depot} {number : Nat} {ending : Ending} {load : Load}
    (hh : depot.work.head? = some (.finish number ending))
    (hl : depot.cache.loads[number]? = some load) (he : load.ending = none) :
    depot.fates = (depot.cache.loads.map Load.fate).set number ⟨load.bucket, some ending⟩ := by
  obtain ⟨hlt, -⟩ := List.getElem?_eq_some_iff.1 hl
  rw [fates, List.mapIdx_eq_iff]
  intro place
  rw [List.getElem?_set]
  split
  · subst place
    rw [if_pos (by simpa using hlt), hl, Option.map_some, fateOf, he, hh]
    simp [Task.ending?]
  · rw [fateOf_eq (by simp [hh, Task.ending?, ‹¬number = place›]), List.getElem?_map]

theorem fates_await (cache : Cache) (ticket : Ticket) (work : List Task) (fetches : List String) :
    fates ⟨cache.await ticket, work, fetches⟩ = fates ⟨cache, work, fetches⟩ := by
  refine List.ext_getElem? fun number => ?_
  rw [getElem?_fates, getElem?_fates]
  cases hl : cache.loads[number]? with
  | none =>
    rw [List.getElem?_eq_none_iff, ← (Cache.awaitFrame_await cache ticket).length_loads,
      ← List.getElem?_eq_none_iff] at hl
    rw [hl]
    rfl
  | some load =>
    obtain ⟨other, ho, hj, -⟩ := Cache.load_await ticket hl
    rw [ho]
    simp [fateOf, hj.bucket, hj.ending]

theorem fates_begun (cache : Cache) (bucket : String) {work : List Task} {fetches : List String}
    (ends : ∀ number ending, work.head? = some (.finish number ending) →
      ∃ load, cache.loads[number]? = some load ∧ load.ending = none) :
    fates ⟨cache.begun bucket, work, fetches⟩ =
      fates ⟨cache, work, fetches⟩ ++ [⟨bucket, none⟩] := by
  refine List.mapIdx_concat.trans (congrArg _ ?_)
  -- a load that is about to end was begun before
  have other : work.head?.bind (Task.ending? cache.loads.length) = none := by
    rw [Option.bind_eq_none_iff]
    intro task hh
    cases task with
    | finish number ending =>
      obtain ⟨load, hl, -⟩ := ends number ending hh
      rw [Task.ending?, if_neg (Nat.ne_of_lt (List.getElem?_eq_some_iff.1 hl).1)]
    | _ => rfl
  rw [fateOf_eq other]
  rfl

theorem fates_finish {cache : Cache} {number : Nat} {load : Load}
    (hl : cache.loads[number]? = some load) (ending : Ending) :
    (cache.finish number ending).loads.map Load.fate =
      (cache.loads.map Load.fate).set number ⟨load.bucket, some ending⟩ := by
  refine List.ext_getElem? fun place => ?_
  rw [List.getElem?_map, Cache.getElem?_finish, List.getElem?_set]
  split
  · subst place
    rw [if_pos (by simpa using (List.getElem?_eq_some_iff.1 hl).1), hl]
    rfl
  · rw [List.getElem?_map]

variable {depot after : Depot}

/-- Every step of a depot leaves its tasks in order. -/
theorem Step.orderly (h : depot.Sound) (s : depot.Step after) : after.Orderly := by
  have drains {cache : Cache} {work : List Task} {fetches : List String}
      (hw : ∀ task ∈ work, task = .drain) : Orderly ⟨cache, work, fetches⟩ := by
    refine ⟨fun task hm => hw task (List.mem_of_mem_tail hm), fun number ending hh => ?_⟩
    cases hw _ (List.mem_of_mem_head? hh)
  obtain ⟨⟨rest, ends⟩, -, queued⟩ := h
  cases s with
  | @begun cache _ _ bucket =>
    refine ⟨rest, fun number ending hh => ?_⟩
    obtain ⟨load, hl, he⟩ := ends number ending hh
    exact ⟨load, by rw [← hl]; exact List.getElem?_append_left (List.getElem?_eq_some_iff.1 hl).1,
      he⟩
  | awaited =>
    refine ⟨rest, fun number ending hh => ?_⟩
    obtain ⟨load, hl, he⟩ := ends number ending hh
    obtain ⟨other, ho, hj, -⟩ := Cache.load_await _ hl
    exact ⟨other, ho, hj.ending.trans he⟩
  | @loaded cache _ _ _ load ending hl he =>
    refine ⟨rest, ?_⟩
    rintro _ _ ⟨⟩
    exact ⟨load, by rw [loads_settled, hl], he⟩
  | skipped | finished | drained => exact drains rest
  | drain =>
    refine ⟨fun task hm => ?_, nofun⟩
    rcases List.mem_cons.1 hm with rfl | hm
    · rfl
    · exact rest task hm
  | run => exact ⟨nofun, nofun⟩
  | drainAll => exact drains fun task hm => List.mem_singleton.1 hm
  | @cancel cache _ number hh he =>
    refine ⟨nofun, ?_⟩
    rintro _ _ ⟨⟩
    obtain ⟨fate, hf, -⟩ := queued number hh
    rw [getElem?_fates] at hf
    obtain ⟨load, hl, -⟩ := Option.map_eq_some_iff.1 hf
    exact ⟨load, hl, by simpa [Cache.ending?, hl] using he⟩
  | closed => exact ⟨rest, ends⟩

theorem Step.change (h : depot.Sound) (s : depot.Step after) : depot.Change after := by
  obtain ⟨rest, ends⟩ := h.orderly
  cases s with
  | @begun cache work fetches bucket _ hn =>
    have added : Adds ⟨cache, work, fetches⟩ ⟨cache.begun bucket, work, fetches⟩ bucket :=
      { handed := hn
        fates := fates_begun cache bucket ends
        queue := by
          rw [length_fates]
          exact (List.append_assoc _ _ _).symm
        shards := rfl
        inFlight := by rw [length_fates]; rfl
        fetches := rfl }
    exact .adds added
  | @awaited cache _ _ ticket =>
    have frame := Cache.awaitFrame_await cache ticket
    refine .same [] (fates_await _ _ _ _) ?_ (by simp) frame.shards frame.inFlight rfl
    rw [List.nil_append, queue, queue, frame.held]
  | @loaded cache work fetches number load ending hl he hc hb =>
    have before : fates ⟨cache, .load number :: work, fetches⟩ = cache.loads.map Load.fate :=
      fates_eq_map fun _ => rfl
    have settled : Settles ⟨cache, .load number :: work, fetches⟩
        ⟨cache.settled load.bucket ending, .finish number ending :: work, fetches ++ [load.bucket]⟩
        number load.bucket ending :=
      { fate := fate_of_open (fun _ => rfl) hl he
        brought := hb
        fates := by
          rw [before, fates_eq_set rfl (by rw [loads_settled, hl]) he, loads_settled]
        shards := rfl
        inFlight := rfl
        turn := .inr ⟨hc, by simp [queue, held_settled, Task.turn?], rfl⟩ }
    exact .settles settled
  | @skipped cache work fetches number he =>
    have before : fates ⟨cache, .load number :: work, fetches⟩ = cache.loads.map Load.fate :=
      fates_eq_map fun _ => rfl
    have ended : fates ⟨cache, work, fetches⟩ = cache.loads.map Load.fate :=
      fates_eq_map fun _ => head?_bind_eq_none rest rfl
    refine .same [number] (ended.trans before.symm) ?_ ?_ rfl rfl rfl
    · exact .of_eq (congrArg _ (queue_of_drains rest).symm)
    · intro other hm bucket hn
      rw [List.mem_singleton.1 hm, before, List.getElem?_map] at hn
      obtain ⟨load, hl, hf⟩ := Option.map_eq_some_iff.1 hn
      exact he load hl (congrArg Fate.ending hf)
  | @finished cache work fetches number ending =>
    obtain ⟨load, hl, he⟩ := ends number ending rfl
    have turns : queue ⟨cache.finish number ending, work, fetches⟩ = cache.held :=
      queue_of_drains rest
    refine .same [] ?_ (.of_eq turns.symm) (by simp) rfl rfl rfl
    rw [fates_eq_set rfl hl he, fates_eq_map fun _ => head?_bind_eq_none rest rfl,
      fates_finish hl]
  | drain hh =>
    refine .same [] ?_ (.of_eq hh) (by simp) rfl rfl rfl
    exact (fates_eq_map fun _ => rfl).trans (fates_eq_map fun _ => rfl).symm
  | drained =>
    refine .same [] ?_ (.of_eq (queue_of_drains rest).symm) (by simp) rfl rfl rfl
    rw [fates_eq_map fun _ => head?_bind_eq_none rest rfl, fates_eq_map fun _ => rfl]
  | run hh =>
    refine .same [] ?_ (List.perm_cons_erase hh) (by simp) rfl rfl rfl
    exact (fates_eq_map fun _ => rfl).trans (fates_eq_map fun _ => rfl).symm
  | drainAll =>
    refine .same [] ?_ (.refl _) (by simp) rfl rfl rfl
    exact (fates_eq_map fun _ => rfl).trans (fates_eq_map fun _ => rfl).symm
  | @cancel cache fetches number hh he =>
    obtain ⟨load, hl, hn⟩ := (Step.orderly h (.cancel hh he)).ends number .cancelled rfl
    have before : fates ⟨cache, [], fetches⟩ = cache.loads.map Load.fate :=
      fates_eq_map fun _ => rfl
    have settled : Settles ⟨cache, [], fetches⟩ ⟨cache, [.finish number .cancelled], fetches⟩
        number load.bucket .cancelled :=
      { fate := fate_of_open (fun _ => rfl) hl hn
        brought := by simp
        fates := by rw [before, fates_eq_set rfl hl hn]
        shards := rfl
        inFlight := rfl
        turn := .inl ⟨rfl, rfl, rfl⟩ }
    exact .settles settled
  | closed => exact .same [] rfl (.refl _) (by simp) rfl rfl rfl

/-- Every step of a depot keeps it sound. -/
theorem Step.sound (h : depot.Sound) (s : depot.Step after) : after.Sound :=
  (s.change h).sound h (s.orderly h)

theorem sound_empty : Sound {} where
  orderly := ⟨nofun, nofun⟩
  nodup := .nil
  queued := nofun
  due := nofun
  flies _ _ := ⟨nofun, nofun⟩
  keeps _ _ := ⟨nofun, nofun⟩
  failed := nofun
  fetched _ := rfl

/-- Whatever becomes of an empty depot is sound. -/
theorem LeadsTo.sound (h : Depot.LeadsTo {} depot) : depot.Sound :=
  h.keeps sound_empty fun _ _ _ s h => s.sound h

theorem LeadsTo.fate_of_settled (h : depot.LeadsTo after) (before : Depot.LeadsTo {} depot)
    {number : Nat} {bucket : String} {ending : Ending}
    (hf : depot.fates[number]? = some ⟨bucket, some ending⟩) :
    after.fates[number]? = some ⟨bucket, some ending⟩ :=
  h.keeps (p := fun after => after.fates[number]? = some ⟨bucket, some ending⟩) hf
    fun _ _ ha s hf => (s.change (before.trans ha).sound).fate_of_settled hf

end Depot

end SymbolLookup

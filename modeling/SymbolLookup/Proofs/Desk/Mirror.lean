import SymbolLookup.Proofs.Desk.Tickets
/-!
# Shards and their documents

As long as each fetch of a bucket that does not fail answers the same, all shards that a desk has,
wherever it has them, are those that the documents make.

## Main definitions

* `Makes`: whether a shard is what the document of its bucket makes.
* `Agenda.Faithful`: whether the next fetch answers with the document of its bucket.
* `Supply.Answers`: whether all fetches do.
* `Mirrors`: whether all shards at a desk are those that the documents make.

## Main results

* `Course.mirrors`: they are, throughout every course with such fetches.
* `Desk.mirrors_drained`: they are when all loads had their turns.
-/

namespace SymbolLookup

/-- Whether a shard is what an interpreter makes of the document of a bucket. -/
def Makes (interpreter : Interpreter) (doc : String → Option String) (bucket : String)
    (shard : Shard) : Prop :=
  shardOf interpreter bucket (doc bucket) = .ok shard

theorem Shard.bucket_addParts {format : Format} {shard after : Shard} {place : Nat}
    {parts : List Part} (h : shard.addParts format place parts = .ok after) :
    after.bucket = shard.bucket := by
  fun_induction addParts format shard place parts with
  | case1 => rw [Except.ok.inj h]
  | case2 _ _ _ _ _ _ ih => exact ih h
  | case3 => cases h
  | case4 shard _ _ _ _ _ other ha ih =>
    refine (ih h).trans ?_
    unfold addRecord at ha
    split at ha
    · cases ha
    · obtain ⟨entries, -, rfl⟩ := exists_of_map_eq_ok ha
      rfl

theorem Shard.bucket_read {bucket text : String} {asked : Option String}
    {interpreter : Interpreter} {shard : Shard}
    (h : Shard.read bucket text asked interpreter = .ok shard) : shard.bucket = bucket := by
  unfold Shard.read at h
  simp only at h
  split at h
  · cases h
  · exact Shard.bucket_addParts h

/-- The shard that a document makes is that of the bucket. -/
theorem Makes.bucket_eq {interpreter : Interpreter} {doc : String → Option String}
    {bucket : String} {shard : Shard} (h : Makes interpreter doc bucket shard) :
    shard.bucket = bucket := by
  unfold Makes shardOf at h
  split at h
  · cases h
    rfl
  · split at h
    · cases h
      rfl
    · exact Shard.bucket_read h

/-! ## Fetches -/

/-- Whether the fetch that is made next answers with the document of its bucket, or fails. -/
def Agenda.Faithful (doc : String → Option String) (agenda : Agenda) : Prop :=
  ∀ number tasks load answer, agenda.tasks = .load number :: tasks →
    agenda.desk.cache.loads[number]? = some load →
    (agenda.desk.supply.fetch load.bucket).1 = .ok answer → answer = doc load.bucket

/-- The supply after some fetches. -/
def Supply.after (supply : Supply) (buckets : List String) : Supply :=
  buckets.foldl (fun supply bucket => (supply.fetch bucket).2) supply

/-- Whether all fetches answer with the documents of their buckets, or fail, whatever was fetched
before. -/
def Supply.Answers (supply : Supply) (doc : String → Option String) : Prop :=
  ∀ buckets bucket answer, ((supply.after buckets).fetch bucket).1 = .ok answer →
    answer = doc bucket

theorem Supply.Answers.fetch {supply : Supply} {doc : String → Option String}
    (h : supply.Answers doc) (bucket : String) : (supply.fetch bucket).2.Answers doc :=
  fun buckets => h (bucket :: buckets)

theorem mem_of_takeOutage {bucket : String} {outages rest : List Outage} {outage : Outage}
    (h : takeOutage bucket outages = (some outage, rest)) : outage ∈ outages := by
  fun_induction takeOutage bucket outages generalizing rest with
  | case1 => cases h
  | case2 =>
    cases h
    exact List.mem_cons_self
  | case3 _ _ _ _ _ ht ih =>
    cases h
    exact List.mem_cons_of_mem _ (ih ht)

/-- A fetch leaves the kinds of the outages as they are. -/
theorem kind_takeOutage {bucket : String} {outages : List Outage} {outage : Outage}
    (h : outage ∈ (takeOutage bucket outages).2) : ∃ other ∈ outages, other.kind = outage.kind := by
  fun_induction takeOutage bucket outages with
  | case1 => cases h
  | case2 first rest =>
    rcases List.mem_cons.1 h with rfl | h
    · exact ⟨first, List.mem_cons_self, rfl⟩
    · exact ⟨outage, List.mem_cons_of_mem _ h, rfl⟩
  | case3 first rest _ _ _ ht ih =>
    rcases List.mem_cons.1 h with rfl | h
    · exact ⟨outage, List.mem_cons_self, rfl⟩
    · rw [ht] at ih
      obtain ⟨other, hm, hk⟩ := ih h
      exact ⟨other, List.mem_cons_of_mem _ hm, hk⟩

/-- Documents in memory are answered as they are, unless an outage hides a bucket. -/
theorem Supply.answers_of_memory {supply : Supply} {documents alphabets : List (String × String)}
    (hs : supply.source = .memory documents alphabets)
    (ho : ∀ outage ∈ supply.outages, outage.kind ≠ .absent) :
    supply.Answers fun bucket => Keyed.get? bucket documents := by
  intro buckets bucket answer h
  induction buckets generalizing supply with
  | nil =>
    have h : (supply.fetch bucket).1 = .ok answer := h
    unfold Supply.fetch at h
    cases ht : takeOutage bucket supply.outages with
    | mk taken rest =>
      rw [ht] at h
      cases taken with
      | none =>
        dsimp only at h
        rw [hs] at h
        exact (Except.ok.inj h).symm
      | some outage =>
        -- of all outages only one of this kind answers at all
        have hk := ho outage (mem_of_takeOutage ht)
        dsimp only [Outage.answer] at h
        cases ha : outage.kind with
        | absent => exact absurd ha hk
        | _ => simp only [ha, reduceCtorEq] at h
  | cons first buckets ih =>
    have hs' : (supply.fetch first).2.source = .memory documents alphabets := hs
    have ho' : ∀ outage ∈ (supply.fetch first).2.outages, outage.kind ≠ .absent := by
      intro outage hm
      obtain ⟨other, hm, hk⟩ := kind_takeOutage hm
      exact hk ▸ ho other hm
    exact ih hs' ho' h

theorem Supply.Answers.faithful {agenda : Agenda} {doc : String → Option String}
    (h : agenda.desk.supply.Answers doc) : agenda.Faithful doc :=
  fun _ _ load answer _ _ ha => h [] load.bucket answer ha

/-- A shard that is brought is what the document of its bucket makes. -/
theorem Agenda.Faithful.makes {doc : String → Option String} {desk : Desk} {number : Nat}
    {tasks : List Task} {escaped : Option Fault} {load : Load} {shard : Shard}
    (h : Agenda.Faithful doc ⟨desk, .load number :: tasks, escaped⟩)
    (hl : desk.cache.loads[number]? = some load)
    (hf : (desk.fetch load.bucket).1 = .ok shard) :
    Makes desk.interpreter doc load.bucket shard := by
  have hb : (desk.fetch load.bucket).1 =
      (desk.supply.fetch load.bucket).1.bind (shardOf desk.interpreter load.bucket) := rfl
  rw [hb] at hf
  cases ha : (desk.supply.fetch load.bucket).1 with
  | error => rw [ha] at hf; cases hf
  | ok answer =>
    rw [ha] at hf
    rw [Makes, ← h number tasks load answer rfl hl ha]
    exact hf

/-! ## Shards -/

/-- Whether all shards at a desk with some tasks are those that the documents make. -/
structure Mirrors (doc : String → Option String) (desk : Desk) (tasks : List Task) : Prop where
  /-- The shards that were kept. -/
  shards : ∀ bucket shard, Keyed.get? bucket desk.cache.shards = some shard →
    Makes desk.interpreter doc bucket shard
  /-- The shards that loads ended with. -/
  loads : ∀ (number : Nat) (load : Load) (shard : Shard),
    desk.cache.loads[number]? = some load → load.ending = some (.shard shard) →
    Makes desk.interpreter doc load.bucket shard
  /-- The shards that loads are about to end with. -/
  finishes : ∀ number shard, .finish number (.shard shard) ∈ tasks →
    ∃ load, desk.cache.loads[number]? = some load ∧ Makes desk.interpreter doc load.bucket shard
  /-- The shards that were handed out. -/
  tickets : ∀ ticket, Seeks desk.cache tasks ticket → ∀ pair ∈ ticket.fetched,
    ∀ shard, pair.2 = .ready shard → Makes desk.interpreter doc pair.1 shard

theorem Cache.shards_requestAll {cache after : Cache} {buckets : List String}
    {all : List (String × Fetched)} (h : cache.requestAll buckets = .ok (all, after)) :
    after.shards = cache.shards :=
  requestAll_induction (p := fun other => other.shards = cache.shards) (fun _ _ _ _ hs => hs) h rfl

/-- A load that is begun has not ended. -/
theorem Cache.ended_requestAll {cache after : Cache} {buckets : List String}
    {all : List (String × Fetched)} (h : cache.requestAll buckets = .ok (all, after)) {number : Nat}
    {load : Load} (hl : after.loads[number]? = some load) (he : load.ending ≠ none) :
    cache.loads[number]? = some load := by
  apply requestAll_induction (p := fun other => other.loads[number]? = some load →
    cache.loads[number]? = some load) ?_ h id hl
  intro other bucket _ _ ih hl
  rcases Nat.lt_or_ge number other.loads.length with hlt | hge
  · rw [begun, List.getElem?_append_left hlt] at hl
    exact ih hl
  · rw [begun, List.getElem?_append_right hge, List.getElem?_singleton] at hl
    split at hl
    · cases hl
      exact absurd rfl he
    · cases hl

/-- A load that has ended had ended before a move, or ends by it. -/
theorem Move.ended_cases {desk after : Desk} {task : Task} {next : List Task}
    (h : Move desk task after next) {number : Nat} {load : Load} {ending : Ending}
    (hl : after.cache.loads[number]? = some load) (he : load.ending = some ending) :
    ∃ before, desk.cache.loads[number]? = some before ∧ before.bucket = load.bucket ∧
      (before.ending = some ending ∨ task = .finish number ending) := by
  cases h with
  | lookEnded _ hr => exact ⟨load, Cache.ended_requestAll hr hl (by simp [he]), rfl, .inl he⟩
  | lookWaits _ hr =>
    obtain ⟨middle, hm, hj⟩ := Cache.load_of_await _ hl
    have he := hj.ending.symm.trans he
    exact ⟨middle, Cache.ended_requestAll hr hm (by simp [he]), hj.bucket.symm, .inl he⟩
  | @finish place other =>
    rw [Cache.getElem?_finish] at hl
    split at hl
    · rename_i hp
      obtain ⟨before, hb, rfl⟩ := Option.map_eq_some_iff.1 hl
      cases he
      exact ⟨before, hb, rfl, .inr (by rw [hp])⟩
    · exact ⟨load, hl, rfl, .inl he⟩
  | _ => exact ⟨load, hl, rfl, .inl he⟩

/-- A shard that is kept was kept before a move, or is brought by it. -/
theorem Move.kept_cases {desk after : Desk} {task : Task} {next : List Task}
    (h : Move desk task after next) {bucket : String} {shard : Shard}
    (hs : Keyed.get? bucket after.cache.shards = some shard) :
    Keyed.get? bucket desk.cache.shards = some shard ∨ ∃ number load, task = .load number ∧
      desk.cache.loads[number]? = some load ∧ (desk.fetch load.bucket).1 = .ok shard ∧
      shard.bucket = bucket := by
  cases h with
  | lookEnded _ hr => exact .inl (Cache.shards_requestAll hr ▸ hs)
  | lookWaits _ hr =>
    rw [(Cache.awaitFrame_await _ _).shards, Cache.shards_requestAll hr] at hs
    exact .inl hs
  | @load number load brought hl _ hf =>
    by_cases hb : bucket = brought.bucket
    · rw [hb, Cache.keep, Keyed.get?_put_self] at hs
      cases hs
      exact .inr ⟨number, load, rfl, hl, hf, hb.symm⟩
    · rw [Cache.keep, Keyed.get?_put_of_ne hb] at hs
      exact .inl hs
  | _ => exact .inl hs

/-- What reads the documents stays. -/
theorem Move.interpreter_eq {desk after : Desk} {task : Task} {next : List Task}
    (h : Move desk task after next) : after.interpreter = desk.interpreter := by
  cases h <;> rfl

theorem Move.mirrors {desk after : Desk} {task : Task} {tasks next : List Task}
    {escaped : Option Fault} {doc : String → Option String} (hm : Move desk task after next)
    (hf : Agenda.Faithful doc ⟨desk, task :: tasks, escaped⟩)
    (h : Mirrors doc desk (task :: tasks)) : Mirrors doc after (next ++ tasks) where
  shards bucket shard hs := by
    rw [hm.interpreter_eq]
    obtain hs | ⟨number, load, rfl, hl, hb, rfl⟩ := hm.kept_cases hs
    · exact h.shards bucket shard hs
    · have := hf.makes hl hb
      rwa [this.bucket_eq]
  loads number load shard hl he := by
    rw [hm.interpreter_eq]
    obtain ⟨before, hb, hk, he | rfl⟩ := hm.ended_cases hl he
    · exact hk ▸ h.loads number before shard hb he
    · obtain ⟨other, ho, hw⟩ := h.finishes number shard List.mem_cons_self
      cases hb.symm.trans ho
      exact hk ▸ hw
  finishes number shard hn := by
    rw [hm.interpreter_eq]
    obtain ⟨load, hl, hw⟩ : ∃ load, desk.cache.loads[number]? = some load ∧
        Makes desk.interpreter doc load.bucket shard := by
      rcases List.mem_append.1 hn with hn | hn
      · cases hm.yields hn with
        | bring hl hb => exact ⟨_, hl, hf.makes hl hb⟩
        | miss hn => exact absurd rfl (hn shard)
      · exact h.finishes number shard (List.mem_cons_of_mem _ hn)
    obtain ⟨other, ho, hb⟩ := hm.grows number load hl
    exact ⟨other, ho, hb ▸ hw⟩
  tickets ticket ht pair hp shard hr := by
    rw [hm.interpreter_eq]
    obtain ht | ⟨earlier, session, fetched, cache, rfl, -, hq, rfl, -, -⟩ := hm.seeks_cases ht
    · exact h.tickets ticket ht pair hp shard hr
    · have hh := (Cache.requestAll_handed hq).2 pair hp
      rw [hr] at hh
      exact h.shards pair.1 shard (Cache.shards_requestAll hq ▸ Cache.get?_of_handed? hh)

theorem Agenda.Step.mirrors {agenda after : Agenda} {doc : String → Option String}
    (hs : agenda.Step after) (hf : agenda.Faithful doc) (h : Mirrors doc agenda.desk agenda.tasks) :
    Mirrors doc after.desk after.tasks := by
  cases hs with
  | move hm => exact hm.mirrors hf h
  | raise =>
    exact
      { shards := h.shards
        loads := h.loads
        finishes := fun number shard hn =>
          h.finishes number shard (mem_of_mem_unwind hn (by simp))
        tickets := fun ticket ht => h.tickets ticket (Seeks.of_unwind ht) }

theorem Begins.interpreter_eq {desk : Desk} {after : Agenda} (h : Begins desk after) :
    after.desk.interpreter = desk.interpreter := by
  cases h <;> rfl

theorem Agenda.Step.interpreter_eq {agenda after : Agenda} (h : agenda.Step after) :
    after.desk.interpreter = agenda.desk.interpreter := by
  cases h with
  | move hm => exact hm.interpreter_eq
  | raise => rfl

theorem interpreter_goOn (steps : Nat) (course : Agenda × List Agenda) :
    (goOn steps course).1.desk.interpreter = course.1.desk.interpreter := by
  fun_induction goOn steps course with
  | case1 => rfl
  | case2 => rfl
  | case3 course steps after hs ih => exact ih.trans (Agenda.step_of_step? hs).interpreter_eq

theorem interpreter_goThrough (steps : Nat) (course : Agenda × List Agenda) (deeds : List Deed) :
    (goThrough steps course deeds).1.desk.interpreter = course.1.desk.interpreter := by
  fun_induction goThrough steps course deeds with
  | case1 => rfl
  | case2 course deed deeds _ begun ih =>
    exact ih.trans ((interpreter_goOn steps begun).trans
      (Desk.begins_takeUp course.1.desk deed).interpreter_eq)
  | case3 => rfl

theorem Begins.mirrors {desk : Desk} {after : Agenda} {tasks : List Task}
    {doc : String → Option String} (hb : Begins desk after) (h : Mirrors doc desk tasks) :
    Mirrors doc after.desk after.tasks := by
  refine ⟨?_, ?_, ?_, ?_⟩ <;> rw [hb.interpreter_eq]
  · intro bucket shard hs
    apply h.shards bucket shard
    cases hb with
    | ask hr => exact Cache.shards_requestAll hr ▸ hs
    | _ => exact hs
  · intro number load shard hl he
    apply h.loads number load shard ?_ he
    cases hb with
    | ask hr => exact Cache.ended_requestAll hr hl (by simp [he])
    | _ => exact hl
  · intro number shard hn
    simpa using hb.mem_tasks hn
  · intro ticket ht
    exact h.tickets ticket (.inr (.inr (hb.frame.waits ticket ht.inHand)))

/-- As long as all fetches are faithful, all shards at a desk are those that the documents make. -/
theorem Course.mirrors {agenda : Agenda} {past : List Agenda} (h : Course (agenda :: past))
    {doc : String → Option String} (hf : ∀ earlier ∈ past, earlier.Faithful doc) :
    Mirrors doc agenda.desk agenda.tasks := by
  induction h using Course.induct with
  | opened =>
    refine ⟨nofun, by simp, by simp, ?_⟩
    intro ticket ht
    obtain ⟨_, hl, _⟩ | ⟨_, _, hl, _⟩ := ht.inHand
    · cases hl
    · simp at hl
  | worked _ hs ih =>
    exact hs.mirrors (hf _ List.mem_cons_self)
      (ih fun earlier hm => hf earlier (List.mem_cons_of_mem _ hm))
  | began _ _ hb ih =>
    exact hb.mirrors (ih fun earlier hm => hf earlier (List.mem_cons_of_mem _ hm))

/-! ## Waiting for loads -/

/-- What becomes of a desk that works without its host changing anything. -/
structure Desk.WorksOn (desk after : Desk) : Prop where
  cache : desk.cache.Grows after.cache
  buckets : after.bucketIds = desk.bucketIds
  partition : after.partition = desk.partition
  mode : after.mode = desk.mode
  interpreter : after.interpreter = desk.interpreter

theorem Desk.WorksOn.refl (desk : Desk) : desk.WorksOn desk := ⟨.refl _, rfl, rfl, rfl, rfl⟩

theorem Desk.WorksOn.trans {desk middle after : Desk} (first : desk.WorksOn middle)
    (second : middle.WorksOn after) : desk.WorksOn after :=
  ⟨first.cache.trans second.cache, second.buckets.trans first.buckets,
    second.partition.trans first.partition, second.mode.trans first.mode,
    second.interpreter.trans first.interpreter⟩

theorem Agenda.Step.worksOn {agenda after : Agenda} (h : agenda.Step after) :
    agenda.desk.WorksOn after.desk := by
  refine ⟨h.grows, ?_, ?_, ?_, ?_⟩ <;>
  · cases h with
    | move hm => cases hm <;> rfl
    | raise => rfl

/-- What is fetched in a step leaves the answers to later fetches as they are. -/
theorem Agenda.Step.answers {agenda after : Agenda} {doc : String → Option String}
    (h : agenda.Step after) (ha : agenda.desk.supply.Answers doc) :
    after.desk.supply.Answers doc := by
  cases h with
  | move hm =>
    cases hm with
    | load | loadLeft | loadFailed => exact ha.fetch _
    | _ => exact ha
  | raise => exact ha

/-- When all loads of a desk had their turns, all its shards are those that the documents make. -/
theorem Desk.mirrors_drained {desk : Desk} {doc : String → Option String}
    (ha : desk.supply.Answers doc) (h : Mirrors doc desk []) :
    Mirrors doc desk.drained [] ∧ desk.drained.supply.Answers doc ∧
      desk.WorksOn desk.drained := by
  have hb : Begins desk ⟨desk, [.drain], none⟩ := .drain
  obtain ⟨hm, ha, hw⟩ := Agenda.run_induction (p := fun agenda =>
      Mirrors doc agenda.desk agenda.tasks ∧ agenda.desk.supply.Answers doc ∧
        desk.WorksOn agenda.desk)
    (by
      rintro agenda after hs ⟨hm, ha, hw⟩
      have hs := Agenda.step_of_step? hs
      exact ⟨hs.mirrors ha.faithful hm, hs.answers ha, hw.trans hs.worksOn⟩)
    ⟨desk, [.drain], none⟩ ⟨hb.mirrors h, ha, .refl desk⟩
  rw [Agenda.tasks_run] at hm
  exact ⟨hm, ha, hw⟩

end SymbolLookup

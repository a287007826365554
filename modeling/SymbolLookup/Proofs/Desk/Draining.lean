import SymbolLookup.Proofs.Desk.Reference
import SymbolLookup.Proofs.Desk.Waiting
/-!
# Draining a desk

Whoever waits for shards gets them: when all held loads had their turns, all loads have ended.

## Main definitions

* `Drains`: whether the held loads of a desk will have their turns.
* `Agenda.Uncancelled`: whether no load of a desk is cancelled.
* `Desk.answers`: the answers to queries that are asked one after the other.

## Main results

* `Course.held_drained`: no load is held any more when all had their turns.
* `Course.obtain_ok`: a desk that is open gives an ending for each bucket.
* `Desk.search_induction`: what a search keeps.
* `Course.answers_ok`: a desk none of whose loads were cancelled answers all queries.

## Design notes

What hosts do when they are told of malformed documents may put queries on top of the tasks, and
the faults that they raise take tasks away. Neither takes away the task that gives the loads their
turns, which stays the last one.
-/

namespace SymbolLookup

/-- Whether the held loads of a desk will have their turns before it comes to rest, or none is held
and it is at rest. -/
def Drains (held : List Nat) (tasks : List Task) : Prop :=
  tasks.getLast? = some .drain ∨ (tasks = [] ∧ held = [])

/-- Below the next task nothing changes by a move. -/
theorem Move.drains {desk after : Desk} {task : Task} {tasks next : List Task}
    (hm : Move desk task after next) (h : Drains desk.cache.held (task :: tasks)) :
    Drains after.cache.held (next ++ tasks) := by
  obtain h | ⟨h, -⟩ := h
  · cases tasks with
    | cons other tasks =>
      rw [List.getLast?_cons_cons] at h
      exact .inl (by rw [List.getLast?_append, h]; rfl)
    | nil =>
      obtain rfl : task = .drain := by simpa using h
      cases hm with
      | drain => exact .inl rfl
      | drained hh => exact .inr ⟨rfl, hh⟩
  · cases h

/-- Faults take their way only above the last task. -/
theorem Drains.unwind {held : List Nat} {fault : Fault} {tasks : List Task}
    (h : Drains held (.raise fault :: tasks)) (hs : Sheltered (.raise fault :: tasks)) :
    Drains held (unwind fault tasks).1 := by
  obtain h | ⟨h, -⟩ := h
  · cases tasks with
    | nil => cases h
    | cons task tasks =>
      rw [List.getLast?_cons_cons] at h
      -- a fault is stopped above the task that gives loads their turns
      have hd := hs.mem_unwind rfl (List.mem_of_getLast? h)
      left
      obtain ⟨hn, -⟩ | ⟨passed, rest, -, ⟨he, hu⟩ | ⟨number, result, he, hu⟩⟩ :=
        unwind_cases fault (task :: tasks)
      · rw [hn] at hd
        cases hd
      · rw [hu] at hd ⊢
        rw [he, List.getLast?_append] at h
        cases rest with
        | nil => cases hd
        | cons first rest => simpa using h
      · rw [hu] at hd ⊢
        rw [he, List.getLast?_append] at h
        cases rest with
        | nil => simp at hd
        | cons first rest => simpa using h
  · cases h

/-- No load is held any more when an agenda has come to rest that ends with giving all their
turns. -/
theorem Course.held_run {agenda : Agenda} {past : List Agenda} (h : Course (agenda :: past))
    (hd : Drains agenda.desk.cache.held agenda.tasks) : agenda.run.desk.cache.held = [] := by
  fun_induction Agenda.run agenda generalizing past with
  | case1 agenda hn =>
    obtain hl | ⟨-, hh⟩ := hd
    · have ht : agenda.tasks = [] := by
        have := Agenda.tasks_run agenda
        rwa [Agenda.run_of_none hn] at this
      rw [ht] at hl
      cases hl
    · exact hh
  | case2 agenda after step _ ih =>
    refine ih (h.worked step) ?_
    cases Agenda.step_of_step? step with
    | move hm => exact hm.drains hd
    | raise => exact hd.unwind h.sheltered

theorem Course.held_drained {agenda : Agenda} {past : List Agenda} (h : Course (agenda :: past))
    (hr : agenda.tasks = []) : agenda.desk.drained.cache.held = [] := by
  have hd : Course (agenda.desk.takeUp .drain :: agenda :: past) := h.tookUp hr .drain
  exact hd.held_run (.inl rfl)

theorem Desk.worksOn_drained (desk : Desk) : desk.WorksOn desk.drained :=
  Agenda.run_induction (p := fun agenda => desk.WorksOn agenda.desk)
    (fun _ _ hs h => h.trans (Agenda.step_of_step? hs).worksOn) ⟨desk, [.drain], none⟩ (.refl _)

theorem Agenda.Step.index {agenda after : Agenda} (h : agenda.Step after) :
    after.desk.index = agenda.desk.index := by
  cases h with
  | move hm => cases hm <;> rfl
  | raise => rfl

theorem Desk.index_drained (desk : Desk) : desk.drained.index = desk.index :=
  Agenda.run_induction (p := fun agenda => agenda.desk.index = desk.index)
    (fun _ _ hs h => (Agenda.step_of_step? hs).index.trans h) ⟨desk, [.drain], none⟩ rfl

/-- All that was handed out has ended when all loads had their turns. -/
theorem Course.exists_endings {agenda : Agenda} {past : List Agenda} (h : Course (agenda :: past))
    (hr : agenda.tasks = []) {fetched : List (String × Fetched)}
    (hb : ∀ pair ∈ fetched, agenda.desk.cache.Backs pair.1 pair.2) :
    ∃ endings, agenda.desk.drained.cache.endings? fetched = some endings := by
  obtain ⟨last, earlier, hc, hl, he, -⟩ := agenda.desk.drained_leadsTo agenda past h hr rfl
  have ha := hc.accounts
  rw [hl, he] at ha
  have hh := h.held_drained hr
  rw [← Option.ne_none_iff_exists']
  intro hn
  -- a load that has not ended would still be held
  obtain ⟨⟨bucket, handed⟩, hp, hu⟩ := Cache.exists_of_endings?_eq_none hn
  cases handed with
  | ready shard => cases hu
  | load number =>
    obtain ⟨load, hl, -⟩ := (hb _ hp).of_grows agenda.desk.worksOn_drained.cache
    rw [Cache.ending?, hl, Option.bind_some] at hu
    obtain hm | hm | ⟨ending, hm⟩ := ha number load hl hu
    · rw [hh] at hm
      cases hm
    · cases hm
    · cases hm

theorem Course.obtain_ok {agenda : Agenda} {past : List Agenda} (h : Course (agenda :: past))
    (hr : agenda.tasks = []) (ho : agenda.desk.isOpen = true) (buckets : List String) :
    ∃ endings, (agenda.desk.obtain buckets).1 = .ok endings := by
  obtain ⟨fetched, cache, hq⟩ := Cache.requestAll_of_isOpen ho buckets
  have asked : Course (agenda.desk.takeUp (.ask buckets) :: agenda :: past) := h.tookUp hr _
  rw [Desk.takeUp, hq] at asked
  have hb : ∀ pair ∈ fetched, cache.Backs pair.1 pair.2 := by
    have linked : cache.Linked := asked.linked
    exact fun pair hp => linked.backs_of_handed? ((Cache.requestAll_handed hq).2 pair hp)
  obtain ⟨endings, he⟩ := asked.exists_endings rfl hb
  refine ⟨endings, ?_⟩
  rw [Desk.obtain, hq]
  simp only
  rw [he]

/-! ## Loads that are not cancelled -/

/-- Whether no load of a desk is cancelled, or about to be. -/
structure Agenda.Uncancelled (agenda : Agenda) : Prop where
  loads : ∀ (number : Nat) (load : Load), agenda.desk.cache.loads[number]? = some load →
    load.ending ≠ some .cancelled
  tasks : ∀ number, .finish number .cancelled ∉ agenda.tasks

/-- No load is cancelled while a desk works. -/
theorem Agenda.Step.uncancelled {agenda after : Agenda} (hs : agenda.Step after)
    (h : agenda.Uncancelled) : after.Uncancelled := by
  cases hs with
  | @move desk after task tasks next escaped hm =>
    constructor
    · intro number load hl he
      obtain ⟨before, hb, -, he | rfl⟩ := hm.ended_cases hl he
      · exact h.loads number before hb he
      · exact h.tasks number List.mem_cons_self
    · intro number hc
      rcases List.mem_append.1 hc with hf | hf
      · cases hm.yields hf with
        | miss =>
          -- a load that has its turn ends, but not by being cancelled
          cases hm with
          | load =>
            rcases List.mem_append.1 hf with hr | hr
            · obtain ⟨_, he⟩ | he := Desk.mem_reports hr <;> cases he
            · simp at hr
          | loadLeft | loadFailed => simp at hf
          | loadSkipped => cases hf
      · exact h.tasks number (List.mem_cons_of_mem _ hf)
  | raise =>
    refine ⟨h.loads, fun number hn => ?_⟩
    exact h.tasks number (mem_of_mem_unwind hn nofun)

theorem Desk.uncancelled_drained {desk : Desk}
    (h : Agenda.Uncancelled { desk, tasks := [] }) :
    Agenda.Uncancelled { desk := desk.drained, tasks := [] } := by
  have hd : Agenda.Uncancelled { desk, tasks := [.drain] } := ⟨h.loads, by simp⟩
  have hr := Agenda.run_induction (p := Agenda.Uncancelled)
    (fun _ _ hs h => (Agenda.step_of_step? hs).uncancelled h) _ hd
  exact ⟨hr.loads, nofun⟩

theorem Desk.uncancelled_poised {desk : Desk} (h : Agenda.Uncancelled { desk, tasks := [] })
    (turns : Turns) : Agenda.Uncancelled { desk := desk.poised turns, tasks := [] } :=
  match turns with
  | .first => uncancelled_drained h
  | .joined => h

theorem exists_collect {endings : List (String × Ending)}
    (h : ∀ pair ∈ endings, pair.2 ≠ .cancelled) : ∃ all, collect endings = .ok all := by
  induction endings with
  | nil => exact ⟨_, rfl⟩
  | cons pair endings ih =>
    obtain ⟨hp, hs⟩ := List.forall_mem_cons.1 h
    obtain ⟨all, ha⟩ := ih hs
    obtain ⟨bucket, ending⟩ := pair
    cases ending with
    | cancelled => exact absurd rfl hp
    | shard | failed | exit => exact ⟨_, by rw [collect, ha]; rfl⟩

/-! ## Searches -/

theorem Cache.isOpen_await (cache : Cache) (ticket : Ticket) :
    (cache.await ticket).isOpen = cache.isOpen := by
  have all (pairs : List (String × Fetched)) (cache : Cache) :
      (pairs.foldl (fun cache pair => cache.awaitLoad ticket pair.2) cache).isOpen =
        cache.isOpen := by
    induction pairs generalizing cache with
    | nil => rfl
    | cons pair pairs ih =>
      rw [List.foldl_cons, ih]
      cases pair.2 <;> rfl
  exact all ticket.fetched cache

theorem Cache.isOpen_requestAll {cache after : Cache} {buckets : List String}
    {fetched : List (String × Fetched)} (h : cache.requestAll buckets = .ok (fetched, after)) :
    after.isOpen = cache.isOpen :=
  requestAll_induction (p := fun other => other.isOpen = cache.isOpen) (fun _ _ _ _ h => h) h rfl

/-- A desk that works neither opens nor closes. -/
theorem Agenda.Step.isOpen {agenda after : Agenda} (h : agenda.Step after) :
    after.desk.isOpen = agenda.desk.isOpen := by
  cases h with
  | move hm =>
    cases hm with
    | lookEnded _ hr => exact Cache.isOpen_requestAll hr
    | lookWaits _ hr => exact (Cache.isOpen_await _ _).trans (Cache.isOpen_requestAll hr)
    | _ => rfl
  | raise => rfl

theorem Desk.isOpen_drained (desk : Desk) : desk.drained.isOpen = desk.isOpen :=
  Agenda.run_induction (p := fun agenda => agenda.desk.isOpen = desk.isOpen)
    (fun _ _ hs h => (Agenda.step_of_step? hs).isOpen.trans h) ⟨desk, [.drain], none⟩ rfl

theorem Desk.isOpen_poised (desk : Desk) (turns : Turns) :
    (desk.poised turns).isOpen = desk.isOpen :=
  match turns with
  | .first => desk.isOpen_drained
  | .joined => rfl

theorem Desk.worksOn_poised (desk : Desk) (turns : Turns) : desk.WorksOn (desk.poised turns) :=
  match turns with
  | .first => desk.worksOn_drained
  | .joined => .refl desk

theorem Desk.index_poised (desk : Desk) (turns : Turns) : (desk.poised turns).index = desk.index :=
  match turns with
  | .first => desk.index_drained
  | .joined => rfl

/-- What is kept when loads have their turns and when buckets are asked for is kept when shards are
gathered. -/
theorem Desk.gatherFrom_induction {p : Desk → Prop} (drain : ∀ desk, p desk → p desk.drained)
    (ask : ∀ (desk : Desk) (buckets : List String) (fetched : List (String × Fetched))
      (cache : Cache), desk.cache.requestAll buckets = .ok (fetched, cache) → p desk →
        p { desk with cache }) {desk : Desk} (h : p desk) (choose : List String → List String)
    (turns : Turns) : p (desk.gatherFrom choose turns).2 := by
  have hd : p (desk.poised turns) :=
    match turns with
    | .first => drain desk h
    | .joined => h
  have ho (buckets : List String) : p ((desk.poised turns).obtain buckets).2 := by
    unfold obtain
    split
    · exact hd
    · rename_i fetched cache hq
      have hn := drain _ (ask _ _ _ _ hq hd)
      simp only
      split <;> exact hn
  simp only [gatherFrom]
  split
  · exact h
  · split
    · exact hd
    · rename_i buckets _
      have ho := ho (choose buckets)
      generalize (desk.poised turns).obtain _ = obtained at ho
      obtain ⟨found, after⟩ := obtained
      cases found <;> exact ho

/-- It is kept by a search too. -/
theorem Desk.search_induction {p : Desk → Prop} (drain : ∀ desk, p desk → p desk.drained)
    (ask : ∀ (desk : Desk) (buckets : List String) (fetched : List (String × Fetched))
      (cache : Cache), desk.cache.requestAll buckets = .ok (fetched, cache) → p desk →
        p { desk with cache }) {desk : Desk} (h : p desk) (query : Option String)
    (limit : Option Amount) (turns : Turns) : p (desk.search query limit turns).2 := by
  simp only [search]
  exact gatherFrom_induction drain ask h _ turns

theorem Desk.worksOn_search (desk : Desk) (query : Option String) (limit : Option Amount)
    (turns : Turns) : desk.WorksOn (desk.search query limit turns).2 :=
  search_induction (p := desk.WorksOn) (fun other h => h.trans other.worksOn_drained)
    (fun _ _ _ _ hq h => h.trans ⟨Cache.grows_requestAll hq, rfl, rfl, rfl, rfl⟩) (.refl desk)
    query limit turns

theorem Desk.index_search (desk : Desk) (query : Option String) (limit : Option Amount)
    (turns : Turns) : (desk.search query limit turns).2.index = desk.index :=
  search_induction (p := fun after => after.index = desk.index)
    (fun other h => other.index_drained.trans h) (fun _ _ _ _ _ h => h) rfl query limit
    turns

theorem Desk.isOpen_search (desk : Desk) (query : Option String) (limit : Option Amount)
    (turns : Turns) : (desk.search query limit turns).2.isOpen = desk.isOpen :=
  search_induction (p := fun after => after.isOpen = desk.isOpen)
    (fun other h => other.isOpen_drained.trans h)
    (fun _ _ _ _ hq h => (Cache.isOpen_requestAll hq).trans h) rfl query limit turns

theorem Desk.uncancelled_requestAll {desk : Desk} (h : Agenda.Uncancelled { desk, tasks := [] })
    {buckets : List String} {fetched : List (String × Fetched)} {cache : Cache}
    (hq : desk.cache.requestAll buckets = .ok (fetched, cache)) :
    Agenda.Uncancelled { desk := { desk with cache }, tasks := [] } := by
  refine ⟨fun number load hl hc => ?_, nofun⟩
  exact h.loads number load (Cache.ended_requestAll hq hl (by simp [hc])) hc

theorem Desk.uncancelled_search {desk : Desk} (h : Agenda.Uncancelled { desk, tasks := [] })
    (query : Option String) (limit : Option Amount) (turns : Turns) :
    Agenda.Uncancelled { desk := (desk.search query limit turns).2, tasks := [] } :=
  search_induction (p := fun after => Agenda.Uncancelled { desk := after, tasks := [] })
    (fun _ h => uncancelled_drained h) (fun _ _ _ _ hq h => uncancelled_requestAll h hq) h query
    limit turns

/-- What is handed out is not cancelled, and what is waited for neither. -/
theorem Desk.exists_collect_obtain {desk : Desk}
    (h : Agenda.Uncancelled { desk, tasks := [] }) {buckets : List String}
    {endings : List (String × Ending)} (he : (desk.obtain buckets).1 = .ok endings) :
    ∃ all, collect endings = .ok all := by
  obtain ⟨fetched, cache, hq, -, hn⟩ := obtain_eq_ok he
  have hu := uncancelled_drained (uncancelled_requestAll h hq)
  obtain ⟨handed, rfl, -⟩ := Cache.requestAll_eq_map hq
  obtain ⟨ending, rfl, hs⟩ := Cache.endings?_map hn
  apply exists_collect
  intro pair hp hc
  obtain ⟨bucket, hb, rfl⟩ := List.mem_map.1 hp
  have hs := hs bucket hb
  have hc : ending bucket = .cancelled := hc
  rw [hc] at hs
  cases ho : handed bucket with
  | ready shard =>
    rw [ho] at hs
    cases hs
  | load number =>
    rw [ho, Cache.ending?] at hs
    obtain ⟨load, hl, hs⟩ := Option.bind_eq_some_iff.1 hs
    exact hu.loads number load hl hs

/-- An open desk, none of whose loads were cancelled, answers every query whose limit can be
read. -/
theorem Course.search_ok {agenda : Agenda} {past : List Agenda} (h : Course (agenda :: past))
    (hr : agenda.tasks = []) (ho : agenda.desk.isOpen = true)
    (hu : Agenda.Uncancelled { desk := agenda.desk, tasks := [] }) {buckets : List String}
    (hb : agenda.desk.bucketIds = .ok buckets) (query : Option String) {limit : Option Amount}
    {count : Option Int} (hl : readLimit limit = .ok count) (turns : Turns) :
    ∃ result, (agenda.desk.search query limit turns).1 = .ok result := by
  obtain ⟨last, earlier, hc, ht, he, -⟩ := agenda.desk.poised_leadsTo turns agenda past h hr rfl
  have hd := (agenda.desk.isOpen_poised turns).trans ho
  have hw := (agenda.desk.worksOn_poised turns).buckets.trans hb
  obtain ⟨endings, hq⟩ := hc.obtain_ok ht (by rw [he]; exact hd)
    (candidates (queryKey query) buckets agenda.desk.partition agenda.desk.mode)
  rw [he] at hq
  obtain ⟨all, ha⟩ := Desk.exists_collect_obtain (Desk.uncancelled_poised hu turns) hq
  have hg : (agenda.desk.gatherFrom (fun buckets => candidates (queryKey query) buckets
      agenda.desk.partition agenda.desk.mode) turns).1 = .ok all := by
    unfold Desk.gatherFrom
    simp only [ho, hw, Bool.not_true, Bool.false_eq_true, if_false]
    generalize (agenda.desk.poised turns).obtain _ = obtained at hq
    obtain ⟨found, after⟩ := obtained
    obtain rfl : found = .ok endings := hq
    exact ha
  unfold Desk.search
  simp only [hg, hl]
  exact ⟨_, rfl⟩

/-- The answers to some queries that are asked one after the other, each with its limit. -/
def Desk.answers (desk : Desk) (turns : Turns) :
    List (Option String × Option Amount) → List (Except Fault Result)
  | [] => []
  | (query, limit) :: asked =>
    let (answer, desk) := desk.search query limit turns
    answer :: desk.answers turns asked

/-- All queries are answered whose limits can be read. -/
theorem Course.answers_ok {agenda : Agenda} {past : List Agenda} (h : Course (agenda :: past))
    (hr : agenda.tasks = []) (ho : agenda.desk.isOpen = true)
    (hu : Agenda.Uncancelled { desk := agenda.desk, tasks := [] }) {buckets : List String}
    (hb : agenda.desk.bucketIds = .ok buckets) (turns : Turns)
    {asked : List (Option String × Option Amount)}
    (hl : ∀ query ∈ asked, ∃ count, readLimit query.2 = .ok count) :
    ∀ answer ∈ agenda.desk.answers turns asked, ∃ result, answer = .ok result := by
  induction asked generalizing agenda past with
  | nil => simp [Desk.answers]
  | cons first asked ih =>
    obtain ⟨query, limit⟩ := first
    obtain ⟨⟨count, hf⟩, hl⟩ := List.forall_mem_cons.1 hl
    rw [Desk.answers, List.forall_mem_cons]
    refine ⟨h.search_ok hr ho hu hb query hf turns, ?_⟩
    obtain ⟨last, earlier, hc, ht, he, -⟩ :=
      agenda.desk.search_leadsTo query limit turns agenda past h hr rfl
    have hi := (agenda.desk.isOpen_search query limit turns).trans ho
    have hn := Desk.uncancelled_search hu query limit turns
    have hw := (agenda.desk.worksOn_search query limit turns).buckets.trans hb
    rw [← he] at hi hn hw ⊢
    exact ih hc ht hi hn hw hl

end SymbolLookup

import SymbolLookup.Proofs.Desk.Broken
/-!
# Queries that wait

A query that is pending waits for a load, and the turn of that load is still to come.

## Main definitions

* `Accounts`: whether all loads that have not ended are held or about to end.
* `Cache.Joins`: whether a query waits for all its loads that have not ended.
* `Pursues`: whether the answer to a query is still looked for.

## Main results

* `Course.accounts`: all loads that have not ended are held or about to end.
* `Course.pursues`: the answer to a query that is pending is still looked for.
* `Course.load_of_awaits`: a query that is pending when all is done waits for a held load.
-/

namespace SymbolLookup

/-! ## Loads -/

/-- Whether all loads that have not ended are held, or about to have their turn or to end. -/
def Accounts (cache : Cache) (tasks : List Task) : Prop :=
  ∀ (number : Nat) (load : Load), cache.loads[number]? = some load → load.ending = none →
    number ∈ cache.held ∨ .load number ∈ tasks ∨ ∃ ending, .finish number ending ∈ tasks

namespace Accounts

variable {cache after : Cache} {tasks next : List Task} {task : Task}

/-- Loads that are begun are held. -/
theorem requestAll {buckets : List String} {all : List (String × Fetched)}
    (h : Accounts cache tasks) (hr : cache.requestAll buckets = .ok (all, after)) :
    Accounts after tasks := by
  apply Cache.requestAll_induction (p := fun cache => Accounts cache tasks) ?_ hr h
  intro cache bucket _ _ ih number load hl he
  rcases Nat.lt_or_ge number cache.loads.length with hlt | hge
  · rw [Cache.begun, List.getElem?_append_left hlt] at hl
    exact (ih number load hl he).imp_left fun hh => List.mem_append_left _ hh
  · rw [Cache.begun, List.getElem?_append_right hge, List.getElem?_singleton] at hl
    split at hl
    · refine .inl (List.mem_append_right _ (List.mem_singleton.2 ?_))
      omega
    · cases hl

theorem await {ticket : Ticket} (h : Accounts cache tasks) :
    Accounts (cache.await ticket) tasks := by
  intro number other ho he
  obtain ⟨load, hl, hj⟩ := Cache.load_of_await ticket ho
  rw [(Cache.awaitFrame_await cache ticket).held]
  exact h number load hl (hj.ending.symm.trans he)

/-- A task that neither runs nor ends a load leaves all of them accounted for. -/
theorem tail (h : Accounts cache (task :: tasks)) (hl : ∀ number, task ≠ .load number)
    (hf : ∀ number ending, task ≠ .finish number ending) : Accounts cache (next ++ tasks) := by
  intro number load hn he
  obtain hh | hm | ⟨ending, hm⟩ := h number load hn he
  · exact .inl hh
  · rcases List.mem_cons.1 hm with hm | hm
    · exact absurd hm.symm (hl number)
    · exact .inr (.inl (List.mem_append_right _ hm))
  · rcases List.mem_cons.1 hm with hm | hm
    · exact absurd hm.symm (hf number ending)
    · exact .inr (.inr ⟨ending, List.mem_append_right _ hm⟩)

/-- A load that had its turn is about to end, if it has not ended. -/
theorem load {number : Nat} (h : Accounts cache (.load number :: tasks))
    (hl : after.loads = cache.loads) (hh : after.held = cache.held)
    (hf : (∀ load, cache.loads[number]? = some load → load.ending ≠ none) ∨
      ∃ ending, .finish number ending ∈ next) : Accounts after (next ++ tasks) := by
  intro place load hn he
  rw [hl] at hn
  rw [hh]
  obtain hh | hm | ⟨ending, hm⟩ := h place load hn he
  · exact .inl hh
  · rcases List.mem_cons.1 hm with hm | hm
    · cases hm
      obtain hs | ⟨ending, hm⟩ := hf
      · exact absurd he (hs load hn)
      · exact .inr (.inr ⟨ending, List.mem_append_left _ hm⟩)
    · exact .inr (.inl (List.mem_append_right _ hm))
  · rcases List.mem_cons.1 hm with hm | hm
    · cases hm
    · exact .inr (.inr ⟨ending, List.mem_append_right _ hm⟩)

theorem finish {number : Nat} {ending : Ending}
    (h : Accounts cache (.finish number ending :: tasks)) :
    Accounts (cache.finish number ending) (next ++ tasks) := by
  intro place load hn he
  rw [Cache.getElem?_finish] at hn
  split at hn
  · obtain ⟨_, -, rfl⟩ := Option.map_eq_some_iff.1 hn
    cases he
  · rename_i hp
    obtain hh | hm | ⟨other, hm⟩ := h place load hn he
    · exact .inl hh
    · rcases List.mem_cons.1 hm with hm | hm
      · cases hm
      · exact .inr (.inl (List.mem_append_right _ hm))
    · rcases List.mem_cons.1 hm with hm | hm
      · cases hm
        exact absurd rfl hp
      · exact .inr (.inr ⟨other, List.mem_append_right _ hm⟩)

/-- A load whose turn has come is about to run. -/
theorem run {number : Nat} {held : List Nat} (h : Accounts cache tasks)
    (hm : .load number ∈ next) (hs : tasks ⊆ next)
    (hh : ∀ other ∈ cache.held, other = number ∨ other ∈ held) :
    Accounts { cache with held } next := by
  intro place load hn he
  obtain hp | hp | ⟨ending, hp⟩ := h place load hn he
  · obtain rfl | hp := hh place hp
    · exact .inr (.inl hm)
    · exact .inl hp
  · exact .inr (.inl (hs hp))
  · exact .inr (.inr ⟨ending, hs hp⟩)

end Accounts

theorem Move.accounts {desk after : Desk} {task : Task} {tasks next : List Task}
    (h : Move desk task after next) (ha : Accounts desk.cache (task :: tasks)) :
    Accounts after.cache (next ++ tasks) := by
  cases h with
  | lookEnded _ hr => exact (ha.requestAll hr).tail nofun nofun
  | lookWaits _ hr => exact (ha.requestAll hr).await.tail nofun nofun
  | finish => exact ha.finish
  | load => exact ha.load rfl rfl (.inr ⟨_, List.mem_append_right _ List.mem_cons_self⟩)
  | loadLeft => exact ha.load rfl rfl (.inr ⟨_, List.mem_cons_self⟩)
  | loadFailed => exact ha.load rfl rfl (.inr ⟨_, List.mem_cons_self⟩)
  | loadSkipped hl => exact ha.load rfl rfl (.inl hl)
  | drain hh =>
    have hd : Accounts desk.cache ([] ++ tasks) := ha.tail nofun nofun
    exact hd.run List.mem_cons_self (by simp) (by simp [hh])
  | _ => exact ha.tail nofun nofun

theorem Begins.accounts {agenda after : Agenda} (h : Begins agenda.desk after)
    (hr : agenda.tasks = []) (ha : Accounts agenda.desk.cache agenda.tasks) :
    Accounts after.desk.cache after.tasks := by
  rw [hr] at ha
  have more {tasks : List Task} : Accounts agenda.desk.cache tasks := fun number load hl he =>
    (ha number load hl he).imp_right fun hm => absurd hm (by simp)
  cases h with
  | ask hr => exact ha.requestAll hr
  | @runHeld number hn =>
    apply ha.run List.mem_cons_self (by simp)
    intro other ho
    rcases Nat.decEq other number with hne | rfl
    · exact .inr ((List.mem_erase_of_ne hne).2 ho)
    · exact .inl rfl
  | _ => exact more

/-- A fault leaves all loads accounted for. -/
theorem Accounts.unwind {cache : Cache} {fault : Fault} {tasks : List Task}
    (h : Accounts cache (.raise fault :: tasks)) (hs : Sheltered (.raise fault :: tasks)) :
    Accounts cache (unwind fault tasks).1 := by
  have left {task : Task} (hf : task.isFirm = true) (hm : task ∈ .raise fault :: tasks) :
      task ∈ (SymbolLookup.unwind fault tasks).1 := by
    refine hs.mem_unwind hf ((List.mem_cons.1 hm).resolve_left fun he => ?_)
    rw [he] at hf
    cases hf
  intro number load hl he
  obtain hh | hm | ⟨ending, hm⟩ := h number load hl he
  · exact .inl hh
  · exact .inr (.inl (left rfl hm))
  · exact .inr (.inr ⟨ending, left rfl hm⟩)

/-- Throughout every course all loads that have not ended are held or about to end. -/
theorem Course.accounts {agenda : Agenda} {past : List Agenda} (h : Course (agenda :: past)) :
    Accounts agenda.desk.cache agenda.tasks := by
  induction h using Course.induct with
  | opened =>
    intro number load hl
    simp at hl
  | worked hc hs ih =>
    cases hs with
    | move hm => exact hm.accounts ih
    | raise => exact ih.unwind hc.sheltered
  | began _ hr hb ih => exact hb.accounts hr ih

/-! ## Queries -/

/-- Whether a ticket names a load that has not ended. -/
def Cache.Lacks (cache : Cache) (ticket : Ticket) : Prop :=
  ∃ pair ∈ ticket.fetched, ∃ (number : Nat) (load : Load), pair.2 = .load number ∧
    cache.loads[number]? = some load ∧ load.ending = none

/-- Whether a query waits for all its loads that have not ended. -/
def Cache.Joins (cache : Cache) (ticket : Ticket) : Prop :=
  ∀ pair ∈ ticket.fetched, ∀ (number : Nat) (load : Load), pair.2 = .load number →
    cache.loads[number]? = some load → load.ending = none → ticket ∈ load.waiting

/-- Whether the answer to a query is still looked for: it is to be looked for, or may be answered
now, or waits for a load. -/
def Pursues (cache : Cache) (tasks : List Task) (outcome : Nat) : Prop :=
  ∃ ticket, ticket.outcome = outcome ∧ (.look ticket ∈ tasks ∨
    (cache.Joins ticket ∧ (.settle ticket ∈ tasks ∨ cache.Lacks ticket)))

/-- What was handed out for some buckets has ended, or some load has not. -/
theorem Cache.lacks_of_endings? {cache : Cache} {ticket : Ticket}
    (hb : ∀ pair ∈ ticket.fetched, cache.Backs pair.1 pair.2)
    (hn : cache.endings? ticket.fetched = none) : cache.Lacks ticket := by
  obtain ⟨pair, hp, he⟩ := exists_of_endings?_eq_none hn
  have hb := hb pair hp
  cases hf : pair.2 with
  | ready shard =>
    rw [hf] at he
    cases he
  | load number =>
    rw [hf] at hb he
    obtain ⟨load, hl, -⟩ := hb
    rw [ending?, hl, Option.bind_some] at he
    exact ⟨pair, hp, number, load, hf, hl, he⟩

/-- A ticket all of whose loads have ended waits for none. -/
theorem Cache.joins_of_endings? {cache : Cache} {ticket : Ticket}
    (hs : (cache.endings? ticket.fetched).isSome) : cache.Joins ticket := by
  intro pair hp number load hf hl he
  obtain ⟨endings, hs⟩ := Option.isSome_iff_exists.1 hs
  have hn := ending?_of_endings? hs pair hp
  rw [hf, ending?, hl, Option.bind_some, he] at hn
  cases hn

theorem Cache.joins_await (cache : Cache) (ticket : Ticket) :
    (cache.await ticket).Joins ticket := by
  intro pair hp number other hf ho he
  obtain ⟨load, hl, hj⟩ := load_of_await ticket ho
  obtain ⟨joined, hj', -, hw⟩ := load_await ticket hl
  obtain rfl := Option.some.inj (ho.symm.trans hj')
  exact hw pair hp hf (hj.ending.symm.trans he)

theorem Cache.Lacks.await {cache : Cache} {ticket : Ticket} (h : cache.Lacks ticket)
    (waiter : Ticket) : (cache.await waiter).Lacks ticket := by
  obtain ⟨pair, hp, number, load, hf, hl, he⟩ := h
  obtain ⟨other, ho, hj, -⟩ := load_await waiter hl
  exact ⟨pair, hp, number, other, hf, ho, hj.ending.trans he⟩

section Step

variable {desk after : Desk} {task : Task} {tasks next : List Task} {escaped : Option Fault}
  {past : List Agenda}

/-- A load stays as it is, but for queries that come to wait for it, until it ends. -/
theorem Move.load_cases (hm : Move desk task after next) {number : Nat} {load : Load}
    (hl : desk.cache.loads[number]? = some load) :
    ∃ other, after.cache.loads[number]? = some other ∧
      ((∃ ending, task = .finish number ending ∧ other.ending = some ending) ∨
        (other.ending = load.ending ∧ ∀ waiter ∈ load.waiting, waiter ∈ other.waiting)) := by
  cases hm with
  | lookEnded _ hr => exact ⟨load, Cache.load_requestAll hr hl, .inr ⟨rfl, fun _ h => h⟩⟩
  | lookWaits _ hr =>
    obtain ⟨other, ho, hj, -⟩ := Cache.load_await _ (Cache.load_requestAll hr hl)
    exact ⟨other, ho, .inr ⟨hj.ending, hj.waiting⟩⟩
  | @finish place ending =>
    by_cases hp : place = number
    · subst hp
      exact ⟨_, by rw [Cache.getElem?_finish, if_pos rfl, hl, Option.map_some], .inl ⟨_, rfl, rfl⟩⟩
    · exact ⟨load, by rw [Cache.getElem?_finish, if_neg hp, hl], .inr ⟨rfl, fun _ h => h⟩⟩
  | _ => exact ⟨load, hl, .inr ⟨rfl, fun _ h => h⟩⟩

theorem Move.joins (hm : Move desk task after next) {ticket : Ticket}
    (hb : ∀ pair ∈ ticket.fetched, desk.cache.Backs pair.1 pair.2)
    (hj : desk.cache.Joins ticket) : after.cache.Joins ticket := by
  intro pair hp number other hf ho he
  have hb := hb pair hp
  rw [hf] at hb
  obtain ⟨load, hl, -⟩ := hb
  obtain ⟨same, hs, ⟨ending, -, hn⟩ | ⟨hn, hw⟩⟩ := hm.load_cases hl
  · cases ho.symm.trans hs
    rw [hn] at he
    cases he
  · cases ho.symm.trans hs
    exact hw ticket (hj pair hp number load hf hl (hn.symm.trans he))

/-- What was handed out for a query that is pursued was handed out for its buckets. -/
theorem Course.backs_of_joins {agenda : Agenda} (h : Course (agenda :: past)) {ticket : Ticket}
    (hj : agenda.desk.cache.Joins ticket)
    (hs : .settle ticket ∈ agenda.tasks ∨ agenda.desk.cache.Lacks ticket) :
    ∀ pair ∈ ticket.fetched, agenda.desk.cache.Backs pair.1 pair.2 := by
  have hk : Seeks agenda.desk.cache agenda.tasks ticket := by
    obtain hm | ⟨pair, hp, number, load, hf, hl, he⟩ := hs
    · exact .inl hm
    · exact .inr (.inr ⟨number, load, hl, hj pair hp number load hf hl he⟩)
  obtain ⟨_, -, _, -, hb⟩ := h.serves hk
  exact hb

/-- A query that is looked for is answered, or waits, if it is not refused its buckets. -/
theorem Move.pursues_of_look {ticket : Ticket} (hm : Move desk (.look ticket) after next)
    (h : Course (⟨desk, .look ticket :: tasks, escaped⟩ :: past))
    (ho : desk.refuses ticket = false) :
    Pursues after.cache (next ++ tasks) ticket.outcome := by
  cases hm with
  | lookNowhere hn =>
    -- the query was typed into a session, and sessions are never closed
    have hk := h.owedFor (.inl ⟨_, List.mem_cons_self, rfl⟩)
    have hl := h.ledger.asker_lt _ (List.mem_of_getElem? hk.1)
    exact absurd hl (Nat.not_lt.2 (List.getElem?_eq_none_iff.1 hn))
  | lookRefused hs hr =>
    rw [Desk.refuses_of_error hs hr] at ho
    cases ho
  | @lookEnded _ _ fetched _ _ _ hr he =>
    exact ⟨{ ticket with fetched }, rfl, .inr ⟨Cache.joins_of_endings? he,
      .inl (List.mem_append_left _ List.mem_cons_self)⟩⟩
  | @lookWaits _ _ fetched cache _ hr he =>
    refine ⟨{ ticket with fetched }, rfl, .inr ⟨Cache.joins_await _ _, .inr (.await ?_ _)⟩⟩
    apply Cache.lacks_of_endings? ?_ he
    intro pair hp
    exact (h.linked.requestAll hr).backs_of_handed? ((Cache.requestAll_handed hr).2 pair hp)

/-- A query that may be answered is answered, or waits. -/
theorem Move.pursues_of_settle {ticket : Ticket} (hm : Move desk (.settle ticket) after next)
    (h : Course (⟨desk, .settle ticket :: tasks, escaped⟩ :: past))
    (hw : desk.awaits ticket.outcome = true) :
    after.awaits ticket.outcome = false ∨
      (after = desk ∧ desk.cache.endings? ticket.fetched = none) := by
  have hk := h.owedFor (.inl ⟨_, List.mem_cons_self, rfl⟩)
  cases hm with
  | settle hs | settleFailed hs =>
    exact .inl ((Desk.awaits_setSession ticket.outcome hs _).trans (if_pos hk.1))
  | settleDropped hh =>
    have hl := List.getElem?_eq_getElem (h.ledger.asker_lt _ (List.mem_of_getElem? hk.1))
    rw [Desk.awaits_of_asker hk.1 hl, beq_iff_eq] at hw
    have hg := (OwedFor.eq_of_eq hk ((h.ledger.session _ _ hl).pending _ hw)).2
    exact .inr ⟨rfl, (hh _ hl).resolve_right fun hn => hn ⟨hg, hw⟩⟩

/-- The answer to a query that is not broken off is looked for until the query is answered or
another takes its place. -/
theorem Move.pursues (hm : Move desk task after next)
    (h : Course (⟨desk, task :: tasks, escaped⟩ :: past)) {number : Nat}
    (ho : Agenda.breaksOff ⟨desk, task :: tasks, escaped⟩ number = false)
    (hw : desk.awaits number = true) (hp : Pursues desk.cache (task :: tasks) number) :
    after.awaits number = false ∨ Pursues after.cache (next ++ tasks) number := by
  obtain ⟨ticket, rfl, hl | ⟨hj, hs⟩⟩ := hp
  · rcases List.mem_cons.1 hl with rfl | hl
    · have granted : desk.refuses ticket = false := by
        simpa [Agenda.breaksOff] using ho
      exact .inr (hm.pursues_of_look h granted)
    · exact .inr ⟨ticket, rfl, .inl (List.mem_append_right _ hl)⟩
  · have hb := h.backs_of_joins hj hs
    obtain hs | ⟨pair, hp, place, load, hf, hl, he⟩ := hs
    · rcases List.mem_cons.1 hs with rfl | hs
      · obtain ha | ⟨rfl, he⟩ := hm.pursues_of_settle h hw
        · exact .inl ha
        · exact .inr ⟨ticket, rfl, .inr ⟨hj, .inr (Cache.lacks_of_endings? hb he)⟩⟩
      · exact .inr ⟨ticket, rfl, .inr ⟨hm.joins hb hj, .inl (List.mem_append_right _ hs)⟩⟩
    · right
      obtain ⟨other, ho, ⟨ending, rfl, hn⟩ | ⟨hn, -⟩⟩ := hm.load_cases hl
      · -- the load ends now, and all that wait for it are answered next
        have hw : ticket ∈ desk.cache.waitingFor place := by
          rw [Cache.waitingFor, hl]
          exact hj pair hp place load hf hl he
        refine ⟨ticket, rfl, .inr ⟨hm.joins hb hj, .inl (List.mem_append_left _ ?_)⟩⟩
        cases hm
        exact List.mem_flatMap.2 ⟨ticket, hw, List.mem_cons_self⟩
      · exact ⟨ticket, rfl, .inr ⟨hm.joins hb hj,
          .inr ⟨pair, hp, place, other, hf, ho, hn.trans he⟩⟩⟩

end Step

theorem Desk.look_mem_submitTasks (desk : Desk) (number : Nat) (session : Session)
    {query : Option String} (hk : queryKey query ≠ "") :
    .look (desk.ticketFor number session query) ∈ desk.submitTasks number session query := by
  simp only [submitTasks]
  rw [if_neg hk]
  exact List.mem_append_right _ List.mem_cons_self

/-- A query that is typed is looked for. -/
theorem Move.pursues_of_submit {desk after : Desk} {task : Task} {next tasks : List Task}
    (hm : Move desk task after next) {number : Nat} (hn : desk.askers.length ≤ number)
    (hw : after.awaits number = true) : Pursues after.cache (next ++ tasks) number := by
  obtain ⟨session, hs, hp⟩ := Desk.awaits_iff.1 hw
  obtain ⟨asker, hk, -⟩ := Desk.asker?_eq_some.1 hs
  obtain he | ⟨place, query, followUp, rfl, he⟩ := hm.askers_cases
  · rw [he] at hk
    exact absurd (List.getElem?_eq_some_iff.1 hk).1 (Nat.not_lt.2 hn)
  · have hl : number = desk.askers.length := by
      have := (List.getElem?_eq_some_iff.1 hk).1
      rw [he, List.length_append, List.length_singleton] at this
      omega
    cases hm with
    | submitNowhere => simp at he
    | @submit _ _ _ old ho =>
      have hl' : number = (desk.setSession place (desk.submitted old query)).askers.length := hl
      rw [Desk.awaits_owe, if_pos hl', Desk.setSession_sessions,
        List.getElem?_set_self (List.getElem?_eq_some_iff.1 ho).1, Option.any_some,
        Desk.submitted, Session.pending_submit, beq_iff_eq] at hw
      split at hw
      · cases hw
      · refine ⟨desk.ticketFor place old query, hl.symm ▸ Desk.length_askers.symm,
          .inl (List.mem_append_left _ ?_)⟩
        exact desk.look_mem_submitTasks place old ‹_›

/-- A fault leaves a query pursued that it does not break off. -/
theorem Pursues.unwind {desk : Desk} {fault : Fault} {tasks : List Task} {escaped : Option Fault}
    {number : Nat} (h : Pursues desk.cache (.raise fault :: tasks) number)
    (hs : Sheltered (.raise fault :: tasks))
    (hb : Agenda.breaksOff ⟨desk, .raise fault :: tasks, escaped⟩ number = false) :
    Pursues desk.cache (unwind fault tasks).1 number := by
  obtain ⟨ticket, rfl, hm | ⟨hj, hm | hl⟩⟩ := h
  · refine ⟨ticket, rfl, .inl (mem_unwind_of_mem (by simpa using hm) (fun hs => ?_) rfl)⟩
    have := (Agenda.not_swept_of_not_breaksOff hb _ hs).1
    simp [Task.looksFor] at this
  · exact ⟨ticket, rfl, .inr ⟨hj, .inl (hs.mem_unwind rfl (by simpa using hm))⟩⟩
  · exact ⟨ticket, rfl, .inr ⟨hj, .inr hl⟩⟩

/-- A query that is pursued when a deed begins is pursued then. -/
theorem Begins.pursues {agenda after : Agenda} {past : List Agenda}
    (hb : Begins agenda.desk after) (h : Course (agenda :: past)) (hr : agenda.tasks = [])
    {number : Nat} (hp : Pursues agenda.desk.cache agenda.tasks number) :
    Pursues after.desk.cache after.tasks number := by
  have same {place : Nat} {load : Load} (hl : agenda.desk.cache.loads[place]? = some load) :
      after.desk.cache.loads[place]? = some load := by
    cases hb with
    | ask hr => exact Cache.load_requestAll hr hl
    | _ => exact hl
  obtain ⟨ticket, he, hm | ⟨hj, hs⟩⟩ := hp
  · rw [hr] at hm
    cases hm
  · have hk := h.backs_of_joins hj hs
    refine ⟨ticket, he, .inr ⟨?_, .inr ?_⟩⟩
    · intro pair hp place load hf hl hn
      have hk := hk pair hp
      rw [hf] at hk
      obtain ⟨old, ho, -⟩ := hk
      cases hl.symm.trans (same ho)
      exact hj pair hp place load hf ho hn
    · obtain hm | ⟨pair, hp, place, load, hf, hl, hn⟩ := hs
      · rw [hr] at hm
        cases hm
      · exact ⟨pair, hp, place, load, hf, same hl, hn⟩

/-- The answer to a query that is pending is still looked for, if it was never broken off. -/
theorem Course.pursues {agenda : Agenda} {past : List Agenda} (h : Course (agenda :: past))
    {number : Nat} (hb : ∀ earlier ∈ past, earlier.breaksOff number = false)
    (hw : agenda.desk.awaits number = true) :
    Pursues agenda.desk.cache agenda.tasks number := by
  induction h using Course.induct with
  | opened => simp [Desk.awaits, Desk.asker?, Desk.askers] at hw
  | @worked agenda after past hc _ hs ih =>
    have ih := ih fun earlier hm => hb earlier (List.mem_cons_of_mem _ hm)
    have hb := hb agenda List.mem_cons_self
    cases hs with
    | @move desk after task tasks next escaped hm =>
      rcases Nat.lt_or_ge number desk.askers.length with hlt | hge
      · have before := hm.awaits_of_awaits hlt hw
        apply (hm.pursues hc hb before (ih before)).resolve_left
        intro hn
        dsimp only at hw
        rw [hn] at hw
        cases hw
      · exact hm.pursues_of_submit hge hw
    | raise => exact (ih hw).unwind hc.sheltered hb
  | began hc hr hn ih =>
    rw [hn.awaits hc.ledger] at hw
    exact hn.pursues hc hr (ih (fun earlier hm => hb earlier (List.mem_cons_of_mem _ hm)) hw)

/-- A query that is pending when all is done waits for a load of one of its buckets that is still
held. -/
theorem Course.load_of_awaits {agenda : Agenda} {past : List Agenda} (h : Course (agenda :: past))
    (hu : ∀ earlier ∈ past, earlier.Undisturbed) (hr : agenda.tasks = []) {outcome : Nat}
    (hw : agenda.desk.awaits outcome = true) :
    ∃ number ∈ agenda.desk.cache.held, ∃ load, agenda.desk.cache.loads[number]? = some load ∧
      load.ending = none ∧ ∃ ticket ∈ load.waiting, ticket.outcome = outcome ∧
        ∃ session, agenda.desk.sessions[ticket.session]? = some session ∧
          load.bucket ∈ candidates ticket.key session.buckets session.partition session.mode := by
  obtain ⟨ticket, he, hm | ⟨hj, hm | ⟨pair, hp, number, load, hf, hl, hn⟩⟩⟩ := h.pursues
    (h.not_breaksOff hu outcome) hw
  · rw [hr] at hm
    cases hm
  · rw [hr] at hm
    cases hm
  · have ht := hj pair hp number load hf hl hn
    obtain ⟨session, hs, handed, hd, hb⟩ := h.serves (.inr (.inr ⟨number, load, hl, ht⟩))
    have hk := hb pair hp
    rw [hf] at hk
    obtain ⟨same, hl', hk⟩ := hk
    obtain rfl := Option.some.inj (hl.symm.trans hl')
    obtain ⟨bucket, hc, rfl⟩ := List.mem_map.1 (hd ▸ hp)
    refine ⟨number, ?_, load, hl, hn, ticket, ht, he, session, hs, hk ▸ hc⟩
    obtain hh | hm | ⟨_, hm⟩ := h.accounts number load hl hn
    · exact hh
    · rw [hr] at hm
      cases hm
    · rw [hr] at hm
      cases hm

end SymbolLookup

import SymbolLookup.Proofs.Desk.Displaced
import SymbolLookup.Proofs.Desk.Steady
/-!
# Queries that are answered at once

A query whose buckets are all in the cache is answered before the desk has done with taking it.

## Main definitions

* `Frugal`: whether nothing was loaded since a query was typed, and it is looked for at most once.

## Main results

* `Frugal.step`: taking a query loads nothing.
* `Course.settles_at_once`: when a query over cached shards was taken, its outcome is settled.

## Design notes

What a host types while it is called is taken first and may look for buckets that are not in the
cache. So a load that is begun meanwhile is one of another query.
-/

namespace SymbolLookup

/-! ## Cached buckets -/

/-- Cached buckets are handed out as they are. -/
theorem Cache.requestAll_of_cached {cache : Cache} {buckets : List String} {shards : List Shard}
    (h : buckets.mapM (Keyed.get? · cache.shards) = some shards) :
    ∃ fetched endings, cache.requestAll buckets = .ok (fetched, cache) ∧
      cache.endings? fetched = some endings ∧ collect endings = .ok { shards } := by
  induction buckets generalizing shards with
  | nil =>
    cases h
    exact ⟨[], [], rfl, rfl, rfl⟩
  | cons bucket buckets ih =>
    rw [List.mapM_cons] at h
    obtain ⟨shard, hs, h⟩ := Option.bind_eq_some_iff.1 h
    obtain ⟨others, ho, h⟩ := Option.bind_eq_some_iff.1 h
    cases h
    obtain ⟨fetched, endings, hr, he, hc⟩ := ih ho
    refine ⟨(bucket, .ready shard) :: fetched, (bucket, .shard shard) :: endings, ?_, ?_, ?_⟩
    · simp only [requestAll, request, hs, hr]
    · rw [endings?_cons, he]
      rfl
    · rw [collect, hc]
      rfl

/-- The answer to a query whose buckets were all handed out is that of their shards. -/
theorem answerTicket_of_collect {session : Session} {ticket : Ticket}
    {endings : List (String × Ending)} {shards : List Shard} {limit : Option Int}
    (hc : collect endings = .ok { shards }) (hl : readLimit session.limit = .ok limit) :
    answerTicket session ticket endings = .ok ({
      query := ticket.query, key := ticket.key
      groups := answer shards ticket.key session.mode limit
      generation := ticket.generation }, []) := by
  simp only [answerTicket, hc, hl, List.map_nil]

section Move

variable {desk after : Desk} {task : Task} {next : List Task}

theorem Move.shards_eq (h : Move desk task after next) (hw : task.isWork = false) :
    after.cache.shards = desk.cache.shards := by
  cases h with
  | lookEnded _ hr => exact Cache.shards_requestAll hr
  | lookWaits _ hr =>
    exact (Cache.awaitFrame_await _ _).shards.trans (Cache.shards_requestAll hr)
  | load | loadLeft | loadFailed => cases hw
  | _ => rfl

theorem Move.cache_eq (h : Move desk task after next) (hw : task.isWork = false)
    (hl : ∀ ticket, task ≠ .look ticket) : after.cache = desk.cache := by
  cases h with
  | lookEnded | lookWaits => exact absurd rfl (hl _)
  | load | loadLeft | loadFailed | finish | drain => cases hw
  | _ => rfl

end Move

/-! ## Taking a query -/

/-- Whether nothing was loaded since a query was typed into a session, and it is looked for with one
ticket only. -/
structure Frugal (start : Desk) (session : Session) (ticket : Ticket) (agenda : Agenda) :
    Prop where
  typed : ticket.outcome < agenda.desk.outcomes.length
  idle : ∀ task ∈ agenda.tasks, task.isWork = false
  looks : ∀ other, .look other ∈ agenda.tasks → other.outcome = ticket.outcome → other = ticket
  shards : agenda.desk.cache.shards = start.cache.shards
  fetches : agenda.desk.events.filterMap Event.fetched? =
    start.events.filterMap Event.fetched?
  terms : ∃ other, agenda.desk.sessions[ticket.session]? = some other ∧ session.SameTerms other

namespace Frugal

variable {start desk : Desk} {session : Session} {ticket : Ticket} {agenda after : Agenda}
  {tasks : List Task} {escaped : Option Fault} {shards : List Shard}

/-- Taking a query loads nothing. -/
theorem step (h : Frugal start session ticket agenda) (hs : agenda.step? = some after) :
    Frugal start session ticket after := by
  cases Agenda.step_of_step? hs with
  | @move desk after task tasks next escaped hm =>
    have idle := h.idle task List.mem_cons_self
    have grown := hm.askers_prefix.length_le
    rw [Desk.length_askers, Desk.length_askers] at grown
    refine ⟨Nat.lt_of_lt_of_le h.typed grown, ?_, ?_, (hm.shards_eq idle).trans h.shards,
      (hm.fetches_eq idle).trans h.fetches, ?_⟩
    · refine List.forall_mem_append.2 ⟨?_, fun task hm => h.idle task (List.mem_cons_of_mem _ hm)⟩
      exact fun first hf => (hm.yields hf).isWork_eq_false idle
    · intro other hl ho
      rcases List.mem_append.1 hl with hl | hl
      · -- a query that is typed meanwhile is a later one
        cases hm.yields hl
        exact absurd ho (Nat.ne_of_gt h.typed)
      · exact h.looks other (List.mem_cons_of_mem _ hl) ho
    · obtain ⟨other, ho, ht⟩ := h.terms
      obtain ⟨last, hl, hn⟩ := hm.sameTerms ho
      exact ⟨last, hl, ht.trans hn⟩
  | @raise desk fault tasks escaped =>
    refine ⟨h.typed, ?_, ?_, h.shards, h.fetches, h.terms⟩
    · intro task ht
      obtain ht | ⟨_, _, rfl, -⟩ := mem_unwind ht
      · exact h.idle task (List.mem_cons_of_mem _ ht)
      · rfl
    · exact fun other hl => h.looks other (mem_of_mem_unwind hl (by simp))

theorem reaches (h : Frugal start session ticket agenda) (hr : agenda.Reaches after) :
    Frugal start session ticket after :=
  hr.stays (fun _ _ hs h => h.step hs) h

theorem top {below : List Task} (h : Frugal start session ticket ⟨desk, tasks ++ below, escaped⟩) :
    Frugal start session ticket ⟨desk, tasks, escaped⟩ :=
  { h with
    idle := fun task ht => h.idle task (List.mem_append_left _ ht)
    looks := fun other ht => h.looks other (List.mem_append_left _ ht) }

/-- A query over cached shards finds all of them at once. -/
theorem look (h : Frugal start session ticket ⟨desk, .look ticket :: tasks, escaped⟩)
    (hc : (candidates ticket.key session.buckets session.partition session.mode).mapM
      (Keyed.get? · start.cache.shards) = some shards) {after : Desk} {next : List Task}
    (hm : Move desk (.look ticket) after next) :
    after = desk ∧ ∃ fetched endings guards, next = .settle { ticket with fetched } :: guards ∧
      (guards = [] ∨ guards = [.guard]) ∧ desk.cache.endings? fetched = some endings ∧
      collect endings = .ok { shards } := by
  obtain ⟨other, ho, terms⟩ := h.terms
  rw [← terms.buckets, ← terms.partition, ← terms.mode, ← h.shards] at hc
  obtain ⟨fetched, endings, asked, ended, collected⟩ := Cache.requestAll_of_cached hc
  cases hm with
  | lookNowhere hn => cases ho.symm.trans hn
  | lookRefused hs hr =>
    cases ho.symm.trans hs
    cases asked.symm.trans hr
  | lookEnded hs hr _ hg =>
    cases ho.symm.trans hs
    cases asked.symm.trans hr
    exact ⟨rfl, fetched, endings, _, rfl, hg, ended, collected⟩
  | lookWaits hs hr he =>
    cases ho.symm.trans hs
    cases asked.symm.trans hr
    cases ended.symm.trans he

/-- What changes the cache meanwhile is looking for another query. -/
theorem looks_of_cache_ne (h : Frugal start session ticket agenda)
    (hc : (candidates ticket.key session.buckets session.partition session.mode).mapM
      (Keyed.get? · start.cache.shards) = some shards)
    (hs : agenda.step? = some after) (hn : after.desk.cache ≠ agenda.desk.cache) :
    ∃ other tasks, agenda.tasks = .look other :: tasks ∧ other.outcome ≠ ticket.outcome := by
  cases Agenda.step_of_step? hs with
  | @move desk after task tasks next escaped hm =>
    by_cases hl : ∃ other, task = .look other
    · obtain ⟨other, rfl⟩ := hl
      refine ⟨other, tasks, rfl, fun ho => ?_⟩
      obtain rfl := h.looks other List.mem_cons_self ho
      exact hn (congrArg Desk.cache (h.look hc hm).1)
    · refine absurd (hm.cache_eq (h.idle task List.mem_cons_self) ?_) hn
      exact fun other he => hl ⟨other, he⟩
  | raise => exact absurd rfl hn

end Frugal

/-! ## Typing it -/

section Submit

variable {desk after : Desk} {number : Nat} {query : Option String} {followUp : Option FollowUp}
  {next : List Task} {session : Session}

/-- A query that was just typed was not looked for. -/
theorem Frugal.of_submit (hs : desk.sessions[number]? = some session)
    (hm : Move desk (.submit number query followUp) after next) :
    Frugal desk session (desk.ticketFor number session query) ⟨after, next, none⟩ := by
  have terms := hm.sameTerms hs
  have grown := hm.askers_of_submit hs
  refine ⟨?_, fun task ht => (hm.yields ht).isWork_eq_false rfl, ?_, hm.shards_eq rfl,
    hm.fetches_eq rfl, terms⟩
  · show desk.outcomes.length < after.outcomes.length
    rw [← Desk.length_askers, ← Desk.length_askers, grown, List.length_append]
    exact Nat.lt_succ_self _
  · intro other ht _
    cases hm.yields ht with
    | look hn =>
      cases hs.symm.trans hn
      rfl

/-- A query that was just typed is pending, unless it is empty. -/
theorem Desk.awaits_of_submit (hs : desk.sessions[number]? = some session)
    (hk : queryKey query ≠ "") (hm : Move desk (.submit number query followUp) after next) :
    after.Awaits desk.outcomes.length := by
  have hl := (List.getElem?_eq_some_iff.1 hs).1
  cases hm with
  | submitNowhere hn => cases hs.symm.trans hn
  | submit hn =>
    cases hs.symm.trans hn
    constructor
    · rw [awaits_owe, ← length_askers, if_pos (by rfl), setSession_sessions,
        List.getElem?_set_self hl, Option.any_some, submitted, Session.pending_submit, if_neg hk,
        length_askers]
      exact beq_self_eq_true _
    · rw [answer?_owe _ rfl]
      simp [answer?]

end Submit

/-! ## Answering it -/

section Settle

variable {desk after : Desk} {ticket : Ticket} {next : List Task} {session : Session}

/-- The query of a session that a ticket belongs to is pending if its outcome is waited for. -/
theorem Course.pending_of_awaits {tasks : List Task} {escaped : Option Fault} {past : List Agenda}
    (h : Course (⟨desk, tasks, escaped⟩ :: past)) (ht : InHand desk.cache tasks ticket)
    (hs : desk.sessions[ticket.session]? = some session)
    (hw : desk.awaits ticket.outcome = true) :
    session.generation = ticket.generation ∧ session.pending = some ticket.outcome := by
  have ho := h.owedFor ht
  rw [Desk.awaits_of_asker ho.1 hs, beq_iff_eq] at hw
  have hp := (h.ledger.session _ session hs).pending _ hw
  exact ⟨(ho.eq_of_eq hp).2, hw⟩

/-- A pending query whose loads have all ended is answered. -/
theorem Move.settle_eq (hm : Move desk (.settle ticket) after next)
    (hs : desk.sessions[ticket.session]? = some session) {endings : List (String × Ending)}
    (he : desk.cache.endings? ticket.fetched = some endings)
    (hp : session.generation = ticket.generation ∧ session.pending = some ticket.outcome)
    {result : Result} {failures : List (String × String)}
    (ha : answerTicket session ticket endings = .ok (result, failures)) :
    next = [.call (.state ticket.session ticket.generation .settled),
      .deliver ticket failures result] := by
  cases hm with
  | settle hs' he' _ _ ha' =>
    cases hs.symm.trans hs'
    cases he.symm.trans he'
    cases ha.symm.trans ha'
    rfl
  | settleFailed hs' he' _ _ ha' =>
    cases hs.symm.trans hs'
    cases he.symm.trans he'
    cases ha.symm.trans ha'
  | settleDropped hh =>
    obtain hn | hn := hh session hs
    · cases he.symm.trans hn
    · exact absurd hp hn

/-- A query that is not pending is not answered. -/
theorem Move.settle_eq_nil (hm : Move desk (.settle ticket) after next) (hl : desk.Ledger)
    (hw : desk.awaits ticket.outcome = false) : after = desk ∧ next = [] := by
  cases hm with
  | settle hs _ _ hp | settleFailed hs _ _ hp =>
    rw [hl.awaits_of_pending hs hp] at hw
    cases hw
  | settleDropped => exact ⟨rfl, rfl⟩

end Settle

/-- What happened stays known. -/
theorem Agenda.Reaches.mem_events {agenda later : Agenda} (h : agenda.Reaches later)
    {event : Event} (he : event ∈ agenda.desk.events) : event ∈ later.desk.events := by
  refine h.stays (p := fun agenda => event ∈ agenda.desk.events) ?_ he
  intro before after hs he
  cases step_of_step? hs with
  | move hm =>
    obtain ⟨_, -, hw⟩ | ⟨_, hw, -⟩ := hm.event_cases <;>
      exact hw ▸ List.mem_append_left _ he
  | raise => exact he

theorem Agenda.reaches_guards {guards : List Task} (h : guards = [] ∨ guards = [.guard])
    (desk : Desk) : Reaches ⟨desk, guards, none⟩ ⟨desk, [], none⟩ := by
  obtain rfl | rfl := h
  · exact .refl _
  · exact .single rfl

namespace Amid

variable {start desk : Desk} {session : Session} {ticket : Ticket} {rest : List Task}

/-- The host of a query that was answered is told the answer, and the outcome is settled with it. -/
theorem tells {result : Result} {guards : List Task}
    (h : Amid rest desk (.deliver ticket [] result :: guards))
    (hg : guards = [] ∨ guards = [.guard]) (ho : .handOut ticket.outcome ∈ rest)
    (hs : desk.sessions[ticket.session]? = some session) :
    ∃ after, Agenda.Reaches ⟨desk, .deliver ticket [] result :: guards, none⟩ ⟨after, [], none⟩ ∧
      after.answer? ticket.outcome = some (.result result) ∧
      .called (.results ticket.session ticket.generation result.groups) ∈ after.events := by
  obtain ⟨_, _, hm, delivered, h⟩ := h.move rfl
  cases hm
  -- the host is called, and returns
  have h : Amid rest desk ([.call (.results ticket.session ticket.generation result.groups)] ++
      (.conclude ticket.outcome result :: guards)) := h
  obtain ⟨told, called⟩ := h.hosts.calls (by simp)
  have heard : .called (.results ticket.session ticket.generation result.groups) ∈
      told.events := by
    obtain ⟨after, next, hm, step⟩ := Agenda.exists_move desk [] (rfl : (Task.call
      (.results ticket.session ticket.generation result.groups)).raises = false)
    refine (called.reaches_end (.single step)).mem_events ?_
    cases hm with
    | call => exact List.mem_append_right _ (List.mem_singleton_self _)
    | callUnheard _ hh => simpa [Session.hears, Call.occasion] using hh session hs
  -- the outcome is settled, for nothing else can have settled it
  obtain ⟨_, _, hm, concluded, h⟩ := (h.tail called).move rfl
  cases hm
  obtain ⟨past, hc⟩ := h.reached
  have spared := hc.sparesLater.later _ (List.mem_append_right _ ho) _ (Nat.le_refl _)
  have owed := hc.answer?_of_holds List.mem_cons_self (by simp [Task.holds]) spared
  have typed := hc.subject_lt _ List.mem_cons_self ticket.outcome rfl
  obtain ⟨after, resolved, answered⟩ := Desk.reaches_of_resolve typed owed
  have left := (resolved.append rfl rfl guards).trans (Agenda.reaches_guards hg after)
  have goes := delivered.trans ((called.append rfl rfl _).trans (concluded.trans left))
  exact ⟨after, goes, answered, (concluded.trans left).mem_events heard⟩

section Look

variable {shards : List Shard} (h : Amid rest desk [.look ticket])
  (hf : Frugal start session ticket ⟨desk, [.look ticket], none⟩)
  (hc : (candidates ticket.key session.buckets session.partition session.mode).mapM
    (Keyed.get? · start.cache.shards) = some shards)
include h hf hc

/-- A query over cached shards is about to be settled when it is looked for. -/
theorem looks : ∃ fetched endings guards, (guards = [] ∨ guards = [.guard]) ∧
    desk.cache.endings? fetched = some endings ∧ collect endings = .ok { shards } ∧
    Agenda.Reaches ⟨desk, [.look ticket], none⟩
      ⟨desk, .settle { ticket with fetched } :: guards, none⟩ := by
  obtain ⟨after, next, hm, hr, -⟩ := h.move rfl
  obtain ⟨rfl, fetched, endings, guards, rfl, hg, he, ha⟩ := hf.look hc hm
  rw [List.append_nil] at hr
  exact ⟨fetched, endings, guards, hg, he, ha, hr⟩

/-- A query that is superseded before it is looked for is not answered any more. -/
theorem drops (ha : desk.answer? ticket.outcome = some .superseded) :
    Agenda.Reaches ⟨desk, [.look ticket], none⟩ ⟨desk, [], none⟩ := by
  obtain ⟨fetched, endings, guards, hg, -, -, looked⟩ := h.looks hf hc
  have h := h.reaches looked
  obtain ⟨past, hp⟩ := h.reached
  have idle : desk.awaits ticket.outcome = false := by
    rw [Bool.eq_false_iff]
    exact fun hw => hp.not_drops_of_awaits hw (.inl ha)
  obtain ⟨after, next, hm, settled, -⟩ := h.move rfl
  obtain ⟨rfl, rfl⟩ := hm.settle_eq_nil hp.ledger idle
  exact looked.trans (settled.trans (Agenda.reaches_guards hg after))

/-- A query that is pending when it is looked for is answered, and its host is told the answer. -/
theorem answers {limit : Option Int} (hl : readLimit session.limit = .ok limit)
    (ho : .handOut ticket.outcome ∈ rest) (hw : desk.awaits ticket.outcome = true) :
    ∃ after, Agenda.Reaches ⟨desk, [.look ticket], none⟩ ⟨after, [], none⟩ ∧
      after.answer? ticket.outcome = some (.result {
        query := ticket.query, key := ticket.key
        groups := answer shards ticket.key session.mode limit
        generation := ticket.generation }) ∧
      .called (.results ticket.session ticket.generation
        (answer shards ticket.key session.mode limit)) ∈ after.events := by
  obtain ⟨fetched, endings, guards, hg, ended, collected, looked⟩ := h.looks hf hc
  obtain ⟨other, hs, terms⟩ := hf.terms
  have h := h.reaches looked
  obtain ⟨past, hp⟩ := h.reached
  have inHand : InHand desk.cache (.settle { ticket with fetched } :: guards ++ rest)
      { ticket with fetched } := .inl ⟨_, List.mem_cons_self, rfl⟩
  have pending := hp.pending_of_awaits inHand hs hw
  have answered : answerTicket other { ticket with fetched } endings = .ok _ :=
    answerTicket_of_collect collected (terms.limit ▸ hl)
  obtain ⟨after, next, hm, settled, h⟩ := h.move rfl
  obtain rfl := hm.settle_eq hs ended pending answered
  -- the host is told that there is an answer, and then the answer itself
  have h : Amid rest after ([.call (.state ticket.session ticket.generation .settled)] ++
      (.deliver { ticket with fetched } [] _ :: guards)) := h
  obtain ⟨told, called⟩ := h.hosts.calls (by simp)
  have reached := looked.trans (settled.trans (called.append rfl rfl _))
  obtain ⟨last, hs, -⟩ := (hf.reaches reached).terms
  obtain ⟨after, delivered, answered, heard⟩ := (h.tail called).tells hg ho hs
  rw [terms.mode] at answered heard
  exact ⟨after, reached.trans delivered, answered, heard⟩

end Look

section Submit

variable {number : Nat} {query : Option String} {followUp : Option FollowUp}

/-- A query that was typed is looked for, unless it was displaced by then. -/
theorem submits (h : Amid rest desk [.submit number query followUp])
    (hs : desk.sessions[number]? = some session) (hk : queryKey query ≠ "") :
    let looking : List Task :=
      [.look (desk.ticketFor number session query), .handOut desk.outcomes.length]
    ∃ after, Agenda.Reaches ⟨desk, [.submit number query followUp], none⟩ ⟨after, looking, none⟩ ∧
      Frugal desk session (desk.ticketFor number session query) ⟨after, looking, none⟩ ∧
      (after.Awaits desk.outcomes.length ∨ Agenda.Displaced
        ⟨desk, [.submit number query followUp], none⟩ ⟨after, looking, none⟩
          desk.outcomes.length) := by
  intro looking
  obtain ⟨typed, next, hm, first, h⟩ := h.move rfl
  have frugal := Frugal.of_submit hs hm
  have awaits := Desk.awaits_of_submit hs hk hm
  obtain rfl : next = desk.preface number session query ++ looking := by
    cases hm with
    | submitNowhere hn => cases hs.symm.trans hn
    | submit hn =>
      cases hs.symm.trans hn
      rw [Desk.submitTasks_eq_preface, if_neg hk]
  rw [List.append_nil] at first h
  obtain ⟨after, prefaced, -⟩ := h.prefaced
  have others := prefaced.append rfl rfl looking
  refine ⟨after, first.trans others, frugal.reaches others, ?_⟩
  exact (h.awaits_or_displaced prefaced (fun _ => Desk.isAside_preface) awaits).imp_right
    fun hd => hd.extend first (.refl _)

/-- A query over cached shards that was typed is answered, or it is displaced meanwhile. -/
theorem settles (h : Amid rest desk [.submit number query followUp])
    (hs : desk.sessions[number]? = some session) (hk : queryKey query ≠ "")
    {shards : List Shard}
    (hc : (candidates (queryKey query) session.buckets session.partition session.mode).mapM
      (Keyed.get? · desk.cache.shards) = some shards)
    {limit : Option Int} (hl : readLimit session.limit = .ok limit) :
    let begun : Agenda := ⟨desk, [.submit number query followUp], none⟩
    let outcome := desk.outcomes.length
    let groups := answer shards (queryKey query) session.mode limit
    ∃ returned : Desk, begun.Reaches ⟨returned, [.handOut outcome], none⟩ ∧
      Frugal desk session (desk.ticketFor number session query)
        ⟨returned, [.handOut outcome], none⟩ ∧
      (begun.Displaced ⟨returned, [.handOut outcome], none⟩ outcome ∨
        returned.answer? outcome = some (.result
          { query, key := queryKey query, groups, generation := session.generation + 1 }) ∧
        .called (.results number (session.generation + 1) groups) ∈ returned.events) := by
  intro begun outcome groups
  obtain ⟨middle, looked, frugal, awaits⟩ := h.submits hs hk
  have above : Amid ([.handOut outcome] ++ rest) middle
    [.look (desk.ticketFor number session query)] := (h.reaches looked).top
  have top : Frugal desk session (desk.ticketFor number session query)
    ⟨middle, [.look _], none⟩ := frugal.top
  obtain ha | hd := awaits
  · obtain ⟨returned, answered, settled⟩ :=
      above.answers top hc hl (List.mem_append_left _ List.mem_cons_self) ha.pending
    have left := answered.append rfl rfl [.handOut outcome]
    exact ⟨returned, looked.trans left, frugal.reaches left, .inr settled⟩
  · -- it is not waited for any more, so nothing comes of what is found
    have left := (above.drops top hc hd.1).append rfl rfl [.handOut outcome]
    exact ⟨middle, looked.trans left, frugal.reaches left, .inl (hd.extend (.refl _) left)⟩

end Submit

end Amid

/-! ## Queries over cached shards -/

section Taken

variable {desk : Desk} {number : Nat} {query : Option String} {followUp : Option FollowUp}
  {session : Session}

/-- Giving a host the outcome of its query raises no fault. -/
theorem Desk.reaches_of_handOut (desk : Desk) (number : Nat) :
    ∃ after, Agenda.Reaches ⟨desk, [.handOut number], none⟩ ⟨after, [], none⟩ := by
  obtain ⟨after, next, hm, hs⟩ :=
    Agenda.exists_move desk [] (rfl : (Task.handOut number).raises = false)
  rw [List.append_nil] at hs
  cases hm with
  | handOut _ _ _ _ hf => exact ⟨_, .head hs (reaches_of_returns (hf.returns _))⟩
  | handOutNowhere => exact ⟨_, .single hs⟩

/-- A query that is typed has the next outcome, if no fault gets past it. -/
theorem Desk.type_eq_ok {after : Desk}
    (h : Agenda.Reaches ⟨desk, [.submit number query followUp], none⟩ ⟨after, [], none⟩) :
    desk.type number query followUp = (.ok desk.outcomes.length, after) := by
  have he : Agenda.run ⟨desk, [.submit number query followUp], none⟩ = ⟨after, [], none⟩ :=
    h.run_eq.symm.trans (Agenda.run_of_none rfl)
  simp only [type, run, he]

/-- While a query is taken nothing is loaded for it. -/
theorem Frugal.of_reaches {later : Agenda} (hs : desk.sessions[number]? = some session)
    (hr : Agenda.Reaches ⟨desk, [.submit number query followUp], none⟩ later) :
    later = ⟨desk, [.submit number query followUp], none⟩ ∨
      Frugal desk session (desk.ticketFor number session query) later := by
  obtain rfl | ⟨after, step, hl⟩ := hr.cases_head
  · exact .inl rfl
  · refine .inr (Frugal.reaches ?_ hl)
    cases Agenda.step_of_step? step with
    | move hm =>
      rw [List.append_nil]
      exact .of_submit hs hm

end Taken

/-- **A query over cached shards is answered at once.** Whenever a query with a key is typed whose
buckets are all in the cache, and the hosts that are called meanwhile return, the desk takes it
without a fault, whatever else there is to be done and whether it is open or not. It fetches nothing
and begins no load for the query. When the query was taken, its outcome is settled: with the answer
to a search of the cached shards, which the host of the session was told once by then, unless
another query that was typed meanwhile displaced it; then it is superseded. -/
theorem Course.settles_at_once {desk : Desk} {number : Nat} {query : Option String}
    {followUp : Option FollowUp} {rest : List Task} {escaped : Option Fault} {past : List Agenda}
    (h : Course (⟨desk, .submit number query followUp :: rest, escaped⟩ :: past))
    {session : Session} (hs : desk.sessions[number]? = some session) (hk : queryKey query ≠ "")
    {shards : List Shard}
    (hc : (candidates (queryKey query) session.buckets session.partition session.mode).mapM
      (Keyed.get? · desk.cache.shards) = some shards)
    {limit : Option Int} (hl : readLimit session.limit = .ok limit)
    (hh : Agenda.HostsReturn ⟨desk, [.submit number query followUp], none⟩) :
    let begun : Agenda := ⟨desk, [.submit number query followUp], none⟩
    let outcome := desk.outcomes.length
    let groups := answer shards (queryKey query) session.mode limit
    ∃ returned : Desk,
      let taken : Agenda := ⟨returned, [.handOut outcome], none⟩
      begun.Reaches taken ∧
      Agenda.Reaches ⟨desk, .submit number query followUp :: rest, escaped⟩
        ⟨returned, .handOut outcome :: rest, none⟩ ∧
      (desk.type number query followUp).1 = .ok outcome ∧
      returned.events.filterMap Event.fetched? = desk.events.filterMap Event.fetched? ∧
      (∀ before after, begun.Reaches before → before.step? = some after →
        after.desk.cache ≠ before.desk.cache →
        ∃ ticket tasks, before.tasks = .look ticket :: tasks ∧ ticket.outcome ≠ outcome) ∧
      (begun.Displaced taken outcome ∨
        returned.answer? outcome = some (.result
          { query, key := queryKey query, groups, generation := session.generation + 1 }) ∧
        .called (.results number (session.generation + 1) groups) ∈ returned.events ∧
        returned.events.countP (·.delivers number (session.generation + 1)) = 1) := by
  intro begun outcome groups
  obtain rfl : escaped = none := h.escaped_eq_none nofun
  have amid : Amid rest desk [.submit number query followUp] := ⟨⟨past, h⟩, hh⟩
  obtain ⟨returned, taken, frugal, settled⟩ := amid.settles hs hk hc hl
  have goesOn := taken.append rfl rfl rest
  refine ⟨returned, taken, goesOn, ?_, ?_, ?_, settled.imp_right fun ⟨ha, he⟩ => ⟨ha, he, ?_⟩⟩
  · obtain ⟨last, hr⟩ := returned.reaches_of_handOut outcome
    rw [Desk.type_eq_ok (taken.trans hr)]
  · exact frugal.fetches
  · intro before after hr step changed
    obtain rfl | hf := Frugal.of_reaches hs hr
    · cases Agenda.step_of_step? step with
      | move hm => exact absurd (hm.cache_eq rfl nofun) changed
    · exact hf.looks_of_cache_ne hc step changed
  · obtain ⟨earlier, course, -⟩ := h.reaches goesOn
    have most := course.countP_delivers_le number (session.generation + 1)
    have least : 0 < returned.events.countP (·.delivers number (session.generation + 1)) :=
      List.countP_pos_iff.2 ⟨_, he, by simp [Event.delivers, Call.delivers]⟩
    exact Nat.le_antisymm most least

/-- At a desk that was closed a query over the cached bucket is answered at once, although its host
types another one when it is told the answer. -/
theorem Course.settles_at_once_of_closed :
    let rule : Rule := { on := .results, nth := 2, submits := some "a" }
    let course := sampleCourse [.openSession { rules := [rule] }, .type 0 (some "a") none, .drain,
      .close]
    course.1.desk.isOpen = false ∧ ∃ returned result,
      Agenda.Reaches ⟨course.1.desk, [.submit 0 (some "al") none], none⟩
        ⟨returned, [.handOut 1], none⟩ ∧
      returned.answer? 1 = some (.result result) ∧ result.groups = [Group.sample] ∧
      returned.events.countP (·.delivers 0 2) = 1 := by
  intro rule course
  have h : Course (course.1 :: course.2) := Course.sample _
  have rests : course.1.tasks = [] := List.isEmpty_iff.1 (by decide +kernel)
  have closed : course.1.desk.isOpen = false := by decide +kernel
  have first : course.1.desk.outcomes.length = 1 := by decide +kernel
  have found : (course.1.desk.sessions[0]?.bind fun session =>
      ((candidates (queryKey (some "al")) session.buckets session.partition session.mode).mapM
        (Keyed.get? · course.1.desk.cache.shards)).map fun shards =>
          (session.generation, session.limit.isNone,
            answer shards (queryKey (some "al")) session.mode none)) =
      some (1, true, [Group.sample]) := by decide +kernel
  -- all that happens from then on
  let run := goOn 60 (⟨course.1.desk, [.submit 0 (some "al") none], none⟩, [])
  have ended : run.1.tasks = [] := List.isEmpty_iff.1 (by decide +kernel)
  have seen : ∀ moment ∈ run.1 :: run.2, moment.returnsWithin 60 = true := by decide +kernel
  have kept : run.1.desk.answer? 1 ≠ some .superseded := by decide +kernel
  have gone : goOn 60 (⟨course.1.desk, [.submit 0 (some "al") none], none⟩, []) = run := rfl
  clear_value run course
  obtain ⟨⟨desk, tasks, escaped⟩, before⟩ := run
  obtain rfl : tasks = [] := ended
  have hosts := Agenda.HostsReturn.of_goOn gone rfl seen
  have last := Agenda.reaches_goOn 60 (⟨course.1.desk, [.submit 0 (some "al") none], none⟩, [])
  rw [gone] at last
  obtain ⟨session, hs, found⟩ := Option.bind_eq_some_iff.1 found
  obtain ⟨shards, hc, found⟩ := Option.map_eq_some_iff.1 found
  obtain ⟨generation, limit, groups⟩ : session.generation = 1 ∧ session.limit = none ∧
      answer shards (queryKey (some "al")) session.mode none = [Group.sample] := by
    simpa using found
  have key : queryKey (some "al") ≠ "" := by decide +kernel
  obtain ⟨returned, taken, -, -, -, -, settled⟩ :=
    (h.tookUp rests (.type 0 (some "al") none)).settles_at_once hs key hc
      (congrArg readLimit limit) hosts
  rw [first, generation] at settled
  rw [first] at taken
  obtain displaced | ⟨answered, -, once⟩ := settled
  · exact absurd ((last.reaches_end taken).answer?_of_answer? displaced.1) kept
  · exact ⟨closed, returned, _, taken, answered, groups, once⟩

end SymbolLookup

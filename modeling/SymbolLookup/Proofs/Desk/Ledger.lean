import SymbolLookup.Proofs.Cache.Request
import SymbolLookup.Proofs.Desk.Move
/-!
# The ledger of a desk

Outcomes are numbered for the desk as a whole and queries for each session. The ledger is what ties
the two together.

## Main definitions

* `OwedFor`: whether an outcome is owed for the query of a generation of a session.
* `Session.Agrees`: whether a session agrees with the queries that were typed into it.
* `InHand`: the tickets that a desk still has to do with.
* `Agenda.Types`: whether a query is typed next.
* `Desk.Ledger`: all sessions agree with the queries that were typed.

## Main results

* `Course.ledger`: they always do.
* `Course.owedFor`, `Course.typed`: so do the tickets.
-/

namespace SymbolLookup

/-- Whether an outcome is owed for the query of a generation of a session, when this is the row of
the sessions into which queries were typed. -/
def OwedFor (askers : List Nat) (session generation number : Nat) : Prop :=
  askers[number]? = some session ∧ (askers.take (number + 1)).count session = generation

namespace OwedFor

variable {askers : List Nat} {session generation number : Nat}

theorem lt_length (h : OwedFor askers session generation number) : number < askers.length :=
  (List.getElem?_eq_some_iff.1 h.1).1

/-- Queries that are typed later do not matter. -/
theorem append (h : OwedFor askers session generation number) (later : List Nat) :
    OwedFor (askers ++ later) session generation number := by
  have hl := h.lt_length
  refine ⟨by rw [List.getElem?_append_left hl, h.1], ?_⟩
  rw [List.take_append_of_le_length (by omega), h.2]

/-- The query that is typed last is the latest of its session. -/
theorem last (askers : List Nat) (session : Nat) :
    OwedFor (askers ++ [session]) session (askers.count session + 1) askers.length := by
  refine ⟨by simp, ?_⟩
  rw [List.take_of_length_le (by simp)]
  simp

theorem lt_of_lt {other later : Nat} (h : OwedFor askers session generation number)
    (ho : OwedFor askers session later other) (hlt : number < other) : generation < later := by
  obtain ⟨hl, he⟩ := List.getElem?_eq_some_iff.1 ho.1
  have hs : askers.take (other + 1) = askers.take other ++ [session] := by
    rw [List.take_succ_eq_append_getElem hl, he]
  have hp : (askers.take (number + 1)).count session ≤ (askers.take other).count session :=
    List.Sublist.count_le _ ((List.take_prefix_take_left (by omega)).sublist)
  rw [← h.2, ← ho.2, hs, List.count_append, List.count_singleton_self]
  omega

/-- No two outcomes are owed for one query. -/
theorem unique {other : Nat} (h : OwedFor askers session generation number)
    (ho : OwedFor askers session generation other) : number = other := by
  rcases Nat.lt_trichotomy number other with hlt | rfl | hlt
  · exact absurd (h.lt_of_lt ho hlt) (Nat.lt_irrefl _)
  · rfl
  · exact absurd (ho.lt_of_lt h hlt) (Nat.lt_irrefl _)

/-- An outcome is owed for one query only. -/
theorem eq_of_eq {other later : Nat} (h : OwedFor askers session generation number)
    (ho : OwedFor askers other later number) : other = session ∧ later = generation := by
  obtain rfl : session = other := Option.some.inj (h.1.symm.trans ho.1)
  exact ⟨rfl, ho.2.symm.trans h.2⟩

/-- Outcomes of earlier queries are owed for the same queries as before. -/
theorem of_append {later : List Nat} (h : OwedFor (askers ++ later) session generation number)
    (hl : number < askers.length) : OwedFor askers session generation number := by
  refine ⟨by rw [← h.1, List.getElem?_append_left hl], ?_⟩
  rw [← h.2, List.take_append_of_le_length (by omega)]

end OwedFor

/-- Whether a session agrees with the queries that were typed into it. -/
structure Session.Agrees (session : Session) (askers : List Nat) (number : Nat) : Prop where
  /-- The generation counts the queries. -/
  generation : session.generation = askers.count number
  /-- The outcome of the pending query is owed for the latest one. -/
  pending : ∀ outcome, session.pending = some outcome →
    OwedFor askers number session.generation outcome
  /-- The latest outcome is owed for the latest query. -/
  latest : ∀ outcome, session.latest = some outcome ↔
    OwedFor askers number session.generation outcome
  /-- The state tells whether a query is pending. -/
  state : session.state = .pending ↔ session.pending ≠ none

namespace Session.Agrees

variable {session : Session} {askers : List Nat} {number : Nat}

theorem submit (h : session.Agrees askers number) (key : String) (supersedes : Bool) :
    (session.submit key askers.length supersedes).Agrees (askers ++ [number]) number := by
  have hl := OwedFor.last askers number
  rw [← h.generation] at hl
  refine ⟨by simp [Session.submit, h.generation], ?_, ?_, ?_⟩
  · intro outcome hp
    by_cases hk : key = ""
    · simp [Session.submit, hk] at hp
    · obtain rfl : askers.length = outcome := by simpa [Session.submit, hk] using hp
      exact hl
  · intro outcome
    constructor
    · rintro ⟨⟩
      exact hl
    · intro ho
      rw [hl.unique ho]
      rfl
  · by_cases hk : key = "" <;> simp [Session.submit, stateFor, hk]

/-- A query that is typed into another session does not matter. -/
theorem other (h : session.Agrees askers number) {asker : Nat} (hne : asker ≠ number) :
    session.Agrees (askers ++ [asker]) number := by
  refine ⟨?_, fun outcome hp => (h.pending outcome hp).append _, ?_, h.state⟩
  · simp [h.generation, hne]
  · intro outcome
    rw [h.latest]
    constructor
    · intro ho
      exact ho.append _
    · intro ho
      -- the outcome that is new is owed to the other session
      have hlt : outcome < askers.length := by
        have hl := ho.lt_length
        have ha := ho.1
        rcases Nat.lt_or_ge outcome askers.length with hlt | hge
        · exact hlt
        · obtain rfl : outcome = askers.length := by simp at hl; omega
          simp [hne] at ha
      exact ho.of_append hlt

theorem settle (h : session.Agrees askers number) : session.settle.Agrees askers number :=
  ⟨h.generation, by simp [Session.settle], h.latest, by simp [Session.settle]⟩

theorem called (h : session.Agrees askers number) (occasion : Occasion) :
    (session.called occasion).Agrees askers number :=
  ⟨h.generation, h.pending, h.latest, h.state⟩

end Session.Agrees

namespace Desk

/-- The sessions into which queries were typed, in the order of the outcomes. -/
def askers (desk : Desk) : List Nat := desk.outcomes.map (·.session)

/-- What became of a query, if that is settled. -/
def answer? (desk : Desk) (number : Nat) : Option Answered :=
  desk.outcomes[number]?.bind (·.answered)

theorem askers_note {desk : Desk} {number : Nat} {outcome other : Outcome} (done : List Event)
    (ho : desk.outcomes[number]? = some outcome) (hs : other.session = outcome.session) :
    (desk.note number other done).askers = desk.askers := by
  apply List.ext_getElem?
  intro place
  rw [askers, note_outcomes, askers, List.getElem?_map, List.getElem?_map, List.getElem?_set]
  split
  · rename_i hp
    rw [if_pos (List.getElem?_eq_some_iff.1 ho).1, ← hp, ho]
    simp [hs]
  · rfl

end Desk

/-- No query is typed by a move, or one is. -/
theorem Move.askers_cases {desk after : Desk} {task : Task} {next : List Task}
    (h : Move desk task after next) :
    after.askers = desk.askers ∨ ∃ session query followUp,
      task = .submit session query followUp ∧ after.askers = desk.askers ++ [session] := by
  cases h with
  | submit hs => exact .inr ⟨_, _, _, rfl, by simp [Desk.askers]⟩
  | handOut ho hs => exact .inl (Desk.askers_note _ ho hs)
  | resolve ho _ hs => exact .inl (Desk.askers_note _ ho hs)
  | _ => exact .inl rfl

/-- A query that is typed into a session is one more. -/
theorem Move.askers_of_submit {desk after : Desk} {number : Nat} {query : Option String}
    {followUp : Option FollowUp} {next : List Task} {session : Session}
    (h : Move desk (.submit number query followUp) after next)
    (hs : desk.sessions[number]? = some session) : after.askers = desk.askers ++ [number] := by
  cases h with
  | submit => simp [Desk.askers]
  | submitNowhere hn => cases hs.symm.trans hn

theorem Move.askers_prefix {desk after : Desk} {task : Task} {next : List Task}
    (h : Move desk task after next) : desk.askers <+: after.askers := by
  obtain he | ⟨session, _, _, -, he⟩ := h.askers_cases
  · exact he ▸ List.prefix_rfl
  · exact ⟨[session], he.symm⟩

/-! ## Tickets -/

/-- The ticket that a task deals with. -/
def Task.ticket? : Task → Option Ticket
  | .look ticket | .settle ticket | .deliver ticket _ _ => some ticket
  | _ => none

/-- Whether a ticket is one of those that a desk with some tasks still has to do with. -/
def InHand (cache : Cache) (tasks : List Task) (ticket : Ticket) : Prop :=
  (∃ task ∈ tasks, task.ticket? = some ticket) ∨ cache.Waits ticket

/-- A ticket is that of an earlier task, with what was handed out for it since, or that of a query
that was just typed. -/
theorem Move.ticket_cases {desk after : Desk} {task : Task} {next : List Task}
    (h : Move desk task after next) {ticket : Ticket} (ht : InHand after.cache next ticket) :
    (∃ earlier, InHand desk.cache [task] earlier ∧
        ticket = { earlier with fetched := ticket.fetched }) ∨
      ∃ number session query followUp, task = .submit number query followUp ∧
        desk.sessions[number]? = some session ∧ queryKey query ≠ "" ∧
        ticket = desk.ticketFor number session query := by
  have same (hd : InHand desk.cache [task] ticket ∨ ∃ earlier, task.ticket? = some earlier ∧
      ticket = { earlier with fetched := ticket.fetched }) :
      ∃ earlier, InHand desk.cache [task] earlier ∧
        ticket = { earlier with fetched := ticket.fetched } := by
    obtain hd | ⟨earlier, he, hf⟩ := hd
    · exact ⟨ticket, hd, rfl⟩
    · exact ⟨earlier, .inl ⟨task, List.mem_singleton_self _, he⟩, hf⟩
  obtain ⟨first, hm, ht⟩ | hw := ht
  · -- what comes of the task deals with the ticket
    cases h.yields hm with
    | look hs hk =>
      cases ht
      exact .inr ⟨_, _, _, _, rfl, hs, hk, rfl⟩
    | settle =>
      cases ht
      exact .inl (same (.inr ⟨_, rfl, rfl⟩))
    | deliver =>
      cases ht
      exact .inl (same (.inr ⟨_, rfl, rfl⟩))
    | wake hw =>
      cases ht
      exact .inl (same (.inl (.inr (Cache.waits_of_mem_waitingFor hw))))
    | _ => cases ht
  · -- the ticket waits
    refine .inl (same ?_)
    cases h with
    | lookEnded _ hr => exact .inl (.inr (Cache.waits_of_requestAll hr hw))
    | lookWaits _ hr =>
      obtain hw | rfl := Cache.waits_of_await hw
      · exact .inl (.inr (Cache.waits_of_requestAll hr hw))
      · exact .inr ⟨_, rfl, rfl⟩
    | finish => exact .inl (.inr (Cache.waits_of_finish hw))
    | _ => exact .inl (.inr hw)

/-! ## Sessions -/

/-- What a task makes of the session with a number: nothing, unless its host is called, its query
is answered or a query is typed into it. -/
inductive Session.Turn (desk : Desk) (number : Nat) (before : Session) : Task → Session → Prop
  | same {task : Task} (elsewhere : ∀ query followUp, task ≠ .submit number query followUp) :
      Turn desk number before task before
  | called {call : Call} (session : call.session = number) :
      Turn desk number before (.call call) (before.called call.occasion)
  | settled {ticket : Ticket} (session : ticket.session = number)
      (generation : before.generation = ticket.generation)
      (pending : before.pending = some ticket.outcome) :
      Turn desk number before (.settle ticket) before.settle
  | submitted {query : Option String} {followUp : Option FollowUp} :
      Turn desk number before (.submit number query followUp) (desk.submitted before query)

theorem Move.turn {desk after : Desk} {task : Task} {next : List Task}
    (h : Move desk task after next) {number : Nat} {session : Session}
    (hs : after.sessions[number]? = some session) :
    ∃ before, desk.sessions[number]? = some before ∧
      Session.Turn desk number before task session := by
  have set {place : Nat} {old new : Session} (ho : desk.sessions[place]? = some old)
      (hs : (desk.sessions.set place new)[number]? = some session) :
      (desk.sessions[number]? = some session ∧ place ≠ number) ∨
        (place = number ∧ desk.sessions[number]? = some old ∧ session = new) := by
    rw [List.getElem?_set] at hs
    split at hs
    · rename_i hp
      rw [if_pos (List.getElem?_eq_some_iff.1 ho).1] at hs
      exact .inr ⟨hp, hp ▸ ho, (Option.some.inj hs).symm⟩
    · exact .inl ⟨hs, ‹_›⟩
  cases h with
  | submit ho =>
    obtain ⟨hs, hn⟩ | ⟨rfl, ho, rfl⟩ := set ho hs
    · exact ⟨session, hs, .same fun _ _ he => hn (by cases he; rfl)⟩
    · exact ⟨_, ho, .submitted⟩
  | submitNowhere ho =>
    refine ⟨session, hs, .same ?_⟩
    rintro query followUp ⟨⟩
    rw [hs] at ho
    cases ho
  | call _ ho =>
    obtain ⟨hs, -⟩ | ⟨rfl, ho, rfl⟩ := set ho hs
    · exact ⟨session, hs, .same nofun⟩
    · exact ⟨_, ho, .called rfl⟩
  | settle ho _ hg hp | settleFailed ho _ hg hp =>
    obtain ⟨hs, -⟩ | ⟨rfl, ho, rfl⟩ := set ho hs
    · exact ⟨session, hs, .same nofun⟩
    · exact ⟨_, ho, .settled rfl hg hp⟩
  | _ => exact ⟨session, hs, .same nofun⟩

/-- Whether two sessions were opened in the same way. -/
structure Session.SameTerms (session other : Session) : Prop where
  mode : other.mode = session.mode
  limit : other.limit = session.limit
  partition : other.partition = session.partition
  buckets : other.buckets = session.buckets
  quiet : other.quiet = session.quiet

theorem Move.length_sessions {desk after : Desk} {task : Task} {next : List Task}
    (h : Move desk task after next) : after.sessions.length = desk.sessions.length := by
  cases h <;> simp

/-- A move leaves a session as it was opened. -/
theorem Move.sameTerms {desk after : Desk} {task : Task} {next : List Task}
    (h : Move desk task after next) {number : Nat} {session : Session}
    (hs : desk.sessions[number]? = some session) :
    ∃ other, after.sessions[number]? = some other ∧ session.SameTerms other := by
  have hl := (List.getElem?_eq_some_iff.1 hs).1
  rw [← h.length_sessions] at hl
  refine ⟨after.sessions[number], List.getElem?_eq_getElem hl, ?_⟩
  obtain ⟨before, hb, ht⟩ := h.turn (List.getElem?_eq_getElem hl)
  obtain rfl := Option.some.inj (hb.symm.trans hs)
  generalize after.sessions[number] = other at ht
  cases ht <;> exact ⟨rfl, rfl, rfl, rfl, rfl⟩

/-- A session that was just opened. -/
theorem Desk.eq_of_sessionFor {desk : Desk} {opening : SessionOpening} {session : Session}
    (h : desk.sessionFor opening = .ok session) :
    session.generation = 0 ∧ session.state = .idle ∧ session.pending = none ∧
      session.latest = none ∧ session.cancelled = 0 := by
  unfold sessionFor at h
  simp only [bind, Except.bind, pure, Except.pure, throw, throwThe, MonadExceptOf.throw] at h
  repeat' split at h
  all_goals cases h
  exact ⟨rfl, rfl, rfl, rfl, rfl⟩

theorem Session.Agrees.fresh {desk : Desk} {opening : SessionOpening} {session : Session}
    (h : desk.sessionFor opening = .ok session) {askers : List Nat} {number : Nat}
    (hn : number ∉ askers) : session.Agrees askers number := by
  obtain ⟨hg, hs, hp, hl, -⟩ := Desk.eq_of_sessionFor h
  refine ⟨by rw [hg, List.count_eq_zero_of_not_mem hn], by simp [hp], ?_, by simp [hs, hp]⟩
  intro outcome
  rw [hl]
  constructor
  · nofun
  · intro ho
    exact absurd (List.mem_of_getElem? ho.1) hn

/-! ## Agendas -/

/-- All sessions agree with the queries that were typed. -/
structure Desk.Ledger (desk : Desk) : Prop where
  /-- Queries were typed into sessions that exist. -/
  asker_lt : ∀ session ∈ desk.askers, session < desk.sessions.length
  /-- The sessions agree with the queries. -/
  session : ∀ (number : Nat) (session : Session), desk.sessions[number]? = some session →
    session.Agrees desk.askers number

theorem Session.Agrees.move {desk after : Desk} {task : Task} {next : List Task}
    (h : Move desk task after next) (hl : desk.Ledger) {number : Nat} {session : Session}
    (hs : after.sessions[number]? = some session) : session.Agrees after.askers number := by
  obtain ⟨before, hb, ht⟩ := h.turn hs
  have ha := hl.session number before hb
  cases ht with
  | same hn =>
    obtain he | ⟨asker, query, followUp, rfl, he⟩ := h.askers_cases
    · rwa [he]
    · rw [he]
      apply ha.other
      rintro rfl
      exact hn query followUp rfl
  | called =>
    rw [h.askers_cases.resolve_right nofun]
    exact ha.called _
  | settled =>
    rw [h.askers_cases.resolve_right nofun]
    exact ha.settle
  | @submitted query =>
    rw [h.askers_of_submit hb]
    have := ha.submit (queryKey query) (desk.superseded? before).isSome
    rwa [Desk.askers, List.length_map] at this

theorem Move.ledger {desk after : Desk} {task : Task} {next : List Task}
    (h : Move desk task after next) (hl : desk.Ledger) : after.Ledger := by
  refine ⟨?_, fun _ _ => Session.Agrees.move h hl⟩
  intro session hs
  rw [h.length_sessions]
  obtain he | ⟨asker, query, followUp, rfl, he⟩ := h.askers_cases
  · exact hl.asker_lt session (he ▸ hs)
  · rw [he, List.mem_append, List.mem_singleton] at hs
    rcases hs with hs | rfl
    · exact hl.asker_lt session hs
    · cases h with
      | submit ho => exact (List.getElem?_eq_some_iff.1 ho).1
      | submitNowhere ho => simp at he

/-- What comes of a deed at once: a session may be new, and everything else that sessions and
tickets depend on is as before. -/
structure BeginFrame (desk : Desk) (after : Agenda) : Prop where
  outcomes : after.desk.outcomes = desk.outcomes
  events : after.desk.events = desk.events
  sessions : after.desk.sessions = desk.sessions ∨
    ∃ opening session, desk.sessionFor opening = .ok session ∧
      after.desk.sessions = desk.sessions ++ [session]
  waits : ∀ ticket, InHand after.desk.cache after.tasks ticket → desk.cache.Waits ticket

theorem Begins.frame {desk : Desk} {after : Agenda} (h : Begins desk after) :
    BeginFrame desk after := by
  have waits {cache : Cache} {tasks : List Task} (hn : ∀ task ∈ tasks, task.ticket? = none)
      {ticket : Ticket} (ht : InHand cache tasks ticket) : cache.Waits ticket :=
    ht.resolve_left fun ⟨task, hm, he⟩ => by rw [hn task hm] at he; cases he
  cases h with
  | openSession ho =>
    exact ⟨rfl, rfl, .inr ⟨_, _, ho, rfl⟩, fun ticket ht => waits (by simp) ht⟩
  | ask hr =>
    exact ⟨rfl, rfl, .inl rfl, fun ticket ht => Cache.waits_of_requestAll hr (waits (by simp) ht)⟩
  | _ => exact ⟨rfl, rfl, .inl rfl, fun ticket ht => waits (by simp [Task.ticket?]) ht⟩

theorem Begins.answer? {desk : Desk} {after : Agenda} (h : Begins desk after) (number : Nat) :
    after.desk.answer? number = desk.answer? number := by
  rw [Desk.answer?, h.frame.outcomes, Desk.answer?]

theorem Begins.askers {desk : Desk} {after : Agenda} (h : Begins desk after) :
    after.desk.askers = desk.askers := by
  rw [Desk.askers, h.frame.outcomes, Desk.askers]

/-- A session at the beginning of a deed was there before, or is opened by the deed. -/
theorem Begins.session_cases {desk : Desk} {after : Agenda} (h : Begins desk after) {number : Nat}
    {session : Session} (hs : after.desk.sessions[number]? = some session) :
    desk.sessions[number]? = some session ∨
      (number = desk.sessions.length ∧ ∃ opening, desk.sessionFor opening = .ok session) := by
  obtain he | ⟨opening, new, hf, he⟩ := h.frame.sessions
  · exact .inl (he ▸ hs)
  · rw [he] at hs
    rcases Nat.lt_or_ge number desk.sessions.length with hlt | hge
    · exact .inl (by rwa [List.getElem?_append_left hlt] at hs)
    · rw [List.getElem?_append_right hge, List.getElem?_singleton] at hs
      split at hs
      · cases hs
        exact .inr ⟨by omega, opening, hf⟩
      · cases hs

/-- A session is still there at the beginning of a deed. -/
theorem Begins.session_of_session {desk : Desk} {after : Agenda} (h : Begins desk after)
    {number : Nat} {session : Session} (hs : desk.sessions[number]? = some session) :
    after.desk.sessions[number]? = some session := by
  obtain he | ⟨_, _, _, he⟩ := h.frame.sessions
  · rw [he, hs]
  · rw [he, List.getElem?_append_left (List.getElem?_eq_some_iff.1 hs).1, hs]

theorem Begins.length_sessions_le {desk : Desk} {after : Agenda} (h : Begins desk after) :
    desk.sessions.length ≤ after.desk.sessions.length := by
  obtain he | ⟨_, _, _, he⟩ := h.frame.sessions <;> simp [he]

theorem Begins.ledger {desk : Desk} {after : Agenda} (h : Begins desk after)
    (hl : desk.Ledger) : after.desk.Ledger := by
  constructor
  · intro asker hm
    exact Nat.lt_of_lt_of_le (hl.asker_lt asker (h.askers ▸ hm)) h.length_sessions_le
  · intro number session hs
    rw [h.askers]
    obtain hs | ⟨rfl, _, hf⟩ := h.session_cases hs
    · exact hl.session number session hs
    · -- nothing was typed into the session that is new
      exact .fresh hf fun hm => Nat.lt_irrefl _ (hl.asker_lt _ hm)

/-- Throughout every course all sessions agree with the queries that were typed. -/
theorem Course.ledger {agenda : Agenda} {past : List Agenda} (h : Course (agenda :: past)) :
    agenda.desk.Ledger := by
  induction h using Course.induct with
  | opened => exact ⟨by simp [Desk.askers], by simp⟩
  | worked _ hs ih =>
    cases hs with
    | move hm => exact hm.ledger ih
    | raise => exact ih
  | began _ _ hb ih => exact hb.ledger ih

/-- Whether a query is typed into a session next, for which an outcome will be owed. -/
def Agenda.Types (agenda : Agenda) (session : Nat) (query : Option String) (number : Nat) : Prop :=
  ∃ followUp tasks, agenda.tasks = .submit session query followUp :: tasks ∧
    session < agenda.desk.sessions.length ∧ number = agenda.desk.outcomes.length

/-- What holds of the ticket of a query that is typed, and does not depend on what is handed out for
it, holds of all tickets throughout every course. -/
theorem Course.of_inHand {p : List Agenda → List Nat → Ticket → Prop}
    (typed : ∀ {desk number query followUp tasks escaped past session},
      Course (⟨desk, .submit number query followUp :: tasks, escaped⟩ :: past) →
      desk.sessions[number]? = some session → queryKey query ≠ "" →
      p (⟨desk, .submit number query followUp :: tasks, escaped⟩ :: past) (desk.askers ++ [number])
        (desk.ticketFor number session query))
    (append : ∀ {past askers ticket} agenda later, p past askers ticket →
      p (agenda :: past) (askers ++ later) ticket)
    (handed : ∀ {past askers ticket} fetched, p past askers ticket →
      p past askers { ticket with fetched })
    {agenda : Agenda} {past : List Agenda} (h : Course (agenda :: past)) {ticket : Ticket}
    (ht : InHand agenda.desk.cache agenda.tasks ticket) : p past agenda.desk.askers ticket := by
  induction h using Course.induct generalizing ticket with
  | opened =>
    obtain ⟨_, hm, _⟩ | ⟨_, _, hl, _⟩ := ht
    · cases hm
    · simp at hl
  | @worked agenda after past hc _ hs ih =>
    cases hs with
    | @move desk after task tasks next escaped hm =>
      obtain ⟨later, he⟩ := hm.askers_prefix
      have old {earlier : Ticket} (ho : InHand desk.cache (task :: tasks) earlier) :
          p (⟨desk, task :: tasks, escaped⟩ :: past) after.askers earlier :=
        he ▸ append _ later (ih ho)
      have new (hn : InHand after.cache next ticket) :
          p (⟨desk, task :: tasks, escaped⟩ :: past) after.askers ticket := by
        obtain ⟨earlier, hi, hf⟩ | ⟨number, session, query, followUp, rfl, hs, hk, rfl⟩ :=
          hm.ticket_cases hn
        · have ho : InHand desk.cache (task :: tasks) earlier := by
            refine hi.imp_left fun ⟨first, hm, ht⟩ => ⟨first, ?_, ht⟩
            rw [List.mem_singleton.1 hm]
            exact List.mem_cons_self
          rw [hf]
          exact handed _ (old ho)
        · rw [hm.askers_of_submit hs]
          exact typed hc hs hk
      obtain ⟨first, hm, ht⟩ | hw := ht
      · rcases List.mem_append.1 hm with hm | hm
        · exact new (.inl ⟨first, hm, ht⟩)
        · exact old (.inl ⟨first, List.mem_cons_of_mem _ hm, ht⟩)
      · exact new (.inr hw)
    | @raise desk fault tasks escaped =>
      have ho : InHand desk.cache (.raise fault :: tasks) ticket := by
        refine ht.imp_left fun ⟨first, hm, ht⟩ => ⟨first, ?_, ht⟩
        exact mem_of_mem_unwind hm fun number he => by rw [he] at ht; cases ht
      simpa using append ⟨desk, .raise fault :: tasks, escaped⟩ [] (ih ho)
  | @began agenda after past _ _ _ hb ih =>
    rw [hb.askers]
    simpa using append agenda [] (ih (.inr (hb.frame.waits ticket ht)))

/-- Throughout every course the tickets name the outcomes that are owed for their queries. -/
theorem Course.owedFor {agenda : Agenda} {past : List Agenda} (h : Course (agenda :: past))
    {ticket : Ticket} (ht : InHand agenda.desk.cache agenda.tasks ticket) :
    OwedFor agenda.desk.askers ticket.session ticket.generation ticket.outcome := by
  apply h.of_inHand (p := fun _ askers ticket =>
    OwedFor askers ticket.session ticket.generation ticket.outcome) ?_
    (fun _ later ho => ho.append later) (fun _ ho => ho) ht
  intro desk number query followUp tasks escaped past session hc hs _
  have hn := OwedFor.last desk.askers number
  rw [← (hc.ledger.session number session hs).generation] at hn
  simpa [Desk.askers, Desk.ticketFor] using hn

/-- Throughout every course the tickets are those of queries that were typed and are not empty. -/
theorem Course.typed {agenda : Agenda} {past : List Agenda} (h : Course (agenda :: past))
    {ticket : Ticket} (ht : InHand agenda.desk.cache agenda.tasks ticket) :
    ticket.key = queryKey ticket.query ∧ ticket.key ≠ "" ∧
      ∃ earlier ∈ past, earlier.Types ticket.session ticket.query ticket.outcome := by
  apply h.of_inHand (p := fun past _ ticket => ticket.key = queryKey ticket.query ∧
    ticket.key ≠ "" ∧ ∃ earlier ∈ past, earlier.Types ticket.session ticket.query ticket.outcome)
    ?_ ?_ (fun _ hp => hp) ht
  · intro desk number query followUp tasks escaped past session hc hs hk
    exact ⟨rfl, hk, _, List.mem_cons_self, _, _, rfl, (List.getElem?_eq_some_iff.1 hs).1, rfl⟩
  · rintro past askers ticket agenda later ⟨he, hk, earlier, hm, hp⟩
    exact ⟨he, hk, earlier, List.mem_cons_of_mem _ hm, hp⟩

end SymbolLookup

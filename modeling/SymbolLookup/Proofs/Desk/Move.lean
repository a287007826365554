import SymbolLookup.Proofs.Desk.Course
/-!
# Moves of a desk

Everything that one task can do, told once: which tasks change what at a desk, and which tasks come
of them.

## Main definitions

* `Move`: what a task does at a desk.
* `Yields`: which tasks may come of a task.
* `Agenda.Step`: what becomes of an agenda when its next task is done.
* `Begins`: with what agenda a desk may begin a deed.

## Main results

* `Agenda.step_of_step?`: the next task is done by a move, or a fault takes its way.
* `Course.induct`, `Course.stays`: what steps and the beginnings of deeds keep holds throughout.
* `unwind_cases`: where the way of a fault ends.

## Design notes

A move tells no more of an outcome than whose it is and what became of it: whether the host was
given the outcome, and what it means to do then, decides only which queries are typed next.
-/

namespace SymbolLookup

/-- What comes of a call for which a host set itself some rules. -/
def reactions (session : Nat) (occasion : Occasion) (rules : List Rule) : List Task :=
  (applying occasion rules).flatMap (·.tasks session)

/-- Whether a task is that a query is typed. -/
def Task.IsTyping (task : Task) : Prop :=
  ∃ session query followUp, task = .submit session query followUp

/-- Scripts are of nothing but queries. -/
theorem Script.isTyping_of_mem_tasks {own : Nat} {script : Script} {task : Task}
    (h : task ∈ script.tasks own) : task.IsTyping := by
  induction script with
  | stop => cases h
  | type _ _ _ ih | typeThen _ _ _ _ _ _ _ _ _ ih =>
    rcases List.mem_cons.1 h with rfl | h
    · exact ⟨_, _, _, rfl⟩
    · exact ih h

/-- What a host is called for is answered by queries that it types and by faults of its own. -/
theorem reactions_cases {session : Nat} {occasion : Occasion} {rules : List Rule} {task : Task}
    (h : task ∈ reactions session occasion rules) :
    task.IsTyping ∨ ∃ message, task = .raise (.handler message) := by
  obtain ⟨rule, -, hr⟩ := List.mem_flatMap.1 h
  rcases List.mem_append.1 hr with ht | ht
  · rcases List.mem_append.1 ht with ht | ht
    · obtain ⟨text, -, rfl⟩ := Option.map_eq_some_iff.1 (Option.mem_toList.1 ht)
      exact .inl ⟨_, _, _, rfl⟩
    · exact .inl (Script.isTyping_of_mem_tasks ht)
  · obtain ⟨message, -, rfl⟩ := Option.map_eq_some_iff.1 (Option.mem_toList.1 ht)
    exact .inr ⟨message, rfl⟩

/-- Whether some tasks are at most those of queries that a host types when it is told what became of
an earlier one. -/
def FollowsUp (next : List Task) : Prop :=
  next = [] ∨ ∃ typed : List Task, (∀ task ∈ typed, task.IsTyping) ∧ next = typed ++ [.guard]

theorem FollowUp.isTyping_of_mem_tasks {followUp : FollowUp} {session : Nat} {answered : Answered}
    {task : Task} (h : task ∈ followUp.tasks session answered) : task.IsTyping := by
  unfold tasks at h
  split at h
  · rcases List.mem_cons.1 h with rfl | h
    · exact ⟨_, _, _, rfl⟩
    · exact Script.isTyping_of_mem_tasks h
  · exact Script.isTyping_of_mem_tasks h

/-- The desk with another record of an outcome, after its host may have been told of it. -/
def Desk.note (desk : Desk) (number : Nat) (outcome : Outcome) (done : List Event) : Desk :=
  { desk with outcomes := desk.outcomes.set number outcome, events := desk.events ++ done }

namespace Desk

@[simp] theorem setSession_sessions (desk : Desk) (number : Nat) (session : Session) :
    (desk.setSession number session).sessions = desk.sessions.set number session := rfl

@[simp] theorem setSession_outcomes (desk : Desk) (number : Nat) (session : Session) :
    (desk.setSession number session).outcomes = desk.outcomes := rfl

@[simp] theorem setSession_events (desk : Desk) (number : Nat) (session : Session) :
    (desk.setSession number session).events = desk.events := rfl

@[simp] theorem owe_sessions (desk : Desk) (outcome : Outcome) :
    (desk.owe outcome).sessions = desk.sessions := rfl

@[simp] theorem owe_outcomes (desk : Desk) (outcome : Outcome) :
    (desk.owe outcome).outcomes = desk.outcomes ++ [outcome] := rfl

@[simp] theorem note_sessions (desk : Desk) (number : Nat) (outcome : Outcome)
    (done : List Event) : (desk.note number outcome done).sessions = desk.sessions := rfl

@[simp] theorem note_outcomes (desk : Desk) (number : Nat) (outcome : Outcome)
    (done : List Event) :
    (desk.note number outcome done).outcomes = desk.outcomes.set number outcome := rfl

@[simp] theorem record_sessions (desk : Desk) (event : Event) :
    (desk.record event).sessions = desk.sessions := rfl

@[simp] theorem record_events (desk : Desk) (event : Event) :
    (desk.record event).events = desk.events ++ [event] := rfl

@[simp] theorem fetch_sessions (desk : Desk) (bucket : String) :
    (desk.fetch bucket).2.sessions = desk.sessions := rfl

end Desk

theorem Desk.note_nil (desk : Desk) (number : Nat) (outcome : Outcome) :
    desk.note number outcome [] = desk.setOutcome number outcome := by
  simp [note, setOutcome]

/-- What a task does at a desk: the desk afterwards, and what comes of the task. -/
inductive Move (desk : Desk) : Task → Desk → List Task → Prop where
  -- a query is typed into a session, or into one that does not exist
  | submit {number query followUp session} (hs : desk.sessions[number]? = some session) :
      Move desk (.submit number query followUp)
        ((desk.setSession number (desk.submitted session query)).owe
          { session := number, followUp })
        (desk.submitTasks number session query)
  | submitNowhere {number query followUp} (hs : desk.sessions[number]? = none) :
      Move desk (.submit number query followUp) desk []
  -- the answer to a query is looked for: its buckets are refused, or all that was handed out for
  -- them has ended, or the query waits
  | lookNowhere {ticket} (hs : desk.sessions[ticket.session]? = none) :
      Move desk (.look ticket) desk []
  | lookRefused {ticket session fault} (hs : desk.sessions[ticket.session]? = some session)
      (hr : desk.cache.requestAll
        (candidates ticket.key session.buckets session.partition session.mode) = .error fault) :
      Move desk (.look ticket) desk [.raise fault]
  | lookEnded {ticket session fetched cache} {guards : List Task}
      (hs : desk.sessions[ticket.session]? = some session)
      (hr : desk.cache.requestAll (candidates ticket.key session.buckets session.partition
        session.mode) = .ok (fetched, cache))
      (he : (cache.endings? fetched).isSome) (hg : guards = [] ∨ guards = [.guard]) :
      Move desk (.look ticket) { desk with cache } (.settle { ticket with fetched } :: guards)
  | lookWaits {ticket session fetched cache} (hs : desk.sessions[ticket.session]? = some session)
      (hr : desk.cache.requestAll (candidates ticket.key session.buckets session.partition
        session.mode) = .ok (fetched, cache))
      (he : cache.endings? fetched = none) :
      Move desk (.look ticket) { desk with cache := cache.await { ticket with fetched } } []
  -- the host is given an outcome, and what became of it stays as it is
  | handOut {number outcome other done next} (ho : desk.outcomes[number]? = some outcome)
      (hs : other.session = outcome.session) (ha : other.answered = outcome.answered)
      (hd : ∀ event ∈ done, ∃ answered, event = .done number answered)
      (hn : FollowsUp next) :
      Move desk (.handOut number) (desk.note number other done) next
  | handOutNowhere {number} (ho : desk.outcomes[number]? = none) :
      Move desk (.handOut number) desk []
  -- a host is called, if it hears the call
  | call {call session} (hc : ∀ diagnostic, call ≠ .diagnostic diagnostic)
      (hs : desk.sessions[call.session]? = some session) (hh : session.hears call.occasion) :
      Move desk (.call call)
        ((desk.record (.called call)).setSession call.session (session.called call.occasion))
        (reactions call.session call.occasion session.rules)
  | callUnheard {call} (hc : ∀ diagnostic, call ≠ .diagnostic diagnostic)
      (hh : ∀ session, desk.sessions[call.session]? = some session →
        session.hears call.occasion = false) :
      Move desk (.call call) desk []
  | callDiagnostic {diagnostic} :
      Move desk (.call (.diagnostic diagnostic))
        { desk.record (.called (.diagnostic diagnostic)) with
          rules := afterCall .diagnostic desk.rules }
        (reactions 0 .diagnostic desk.rules)
  -- an outcome is settled, unless it is settled already
  | resolve {number outcome answered other done next}
      (ho : desk.outcomes[number]? = some outcome) (hw : outcome.answered = none)
      (hs : other.session = outcome.session) (ha : other.answered = some answered)
      (hd : ∀ event ∈ done, ∃ answered, event = .done number answered)
      (hn : FollowsUp next) :
      Move desk (.resolve number answered) (desk.note number other done) next
  | resolveAgain {number outcome answered} (ho : desk.outcomes[number]? = some outcome)
      (hw : outcome.answered ≠ none) :
      Move desk (.resolve number answered) desk [.raise .settledTwice]
  | resolveNowhere {number answered} (ho : desk.outcomes[number]? = none) :
      Move desk (.resolve number answered) desk []
  -- a query is answered, unless it waits or is not the pending one of its session
  | settle {ticket session endings result failures}
      (hs : desk.sessions[ticket.session]? = some session)
      (he : desk.cache.endings? ticket.fetched = some endings)
      (hg : session.generation = ticket.generation) (hp : session.pending = some ticket.outcome)
      (ha : answerTicket session ticket endings = .ok (result, failures)) :
      Move desk (.settle ticket) (desk.setSession ticket.session session.settle)
        [.call (.state ticket.session ticket.generation .settled), .deliver ticket failures result]
  | settleFailed {ticket session endings fault}
      (hs : desk.sessions[ticket.session]? = some session)
      (he : desk.cache.endings? ticket.fetched = some endings)
      (hg : session.generation = ticket.generation) (hp : session.pending = some ticket.outcome)
      (ha : answerTicket session ticket endings = .error fault) :
      Move desk (.settle ticket) (desk.setSession ticket.session session.settle)
        [.call (.state ticket.session ticket.generation .settled),
          .resolve ticket.outcome (.fault fault)]
  | settleDropped {ticket}
      (hh : ∀ session, desk.sessions[ticket.session]? = some session →
        desk.cache.endings? ticket.fetched = none ∨
          ¬(session.generation = ticket.generation ∧ session.pending = some ticket.outcome)) :
      Move desk (.settle ticket) desk []
  -- an answer is told, and its outcome settled when that is done
  | deliver {ticket failures result} :
      Move desk (.deliver ticket failures result) desk (Desk.deliver ticket failures result)
  | conclude {number result} :
      Move desk (.conclude number result) desk [.resolve number (.result result)]
  -- a load ends, and those that wait for it may be answered
  | finish {number ending} :
      Move desk (.finish number ending) { desk with cache := desk.cache.finish number ending }
        ((desk.cache.waitingFor number).flatMap fun ticket => [.settle ticket, .guard])
  -- a load has its turn: it brings a shard, or is left by a request to end the program, or fails,
  -- if it has not ended before
  | load {number load shard} (hl : desk.cache.loads[number]? = some load)
      (he : load.ending = none) (hf : (desk.fetch load.bucket).1 = .ok shard) :
      Move desk (.load number)
        { (desk.fetch load.bucket).2 with cache := desk.cache.keep shard }
        (Desk.reports shard ++ [.finish number (.shard shard)])
  | loadLeft {number load reason} (hl : desk.cache.loads[number]? = some load)
      (he : load.ending = none) (hf : (desk.fetch load.bucket).1 = .error (.exit reason)) :
      Move desk (.load number) (desk.fetch load.bucket).2 [.finish number (.exit reason)]
  | loadFailed {number load fault reason} (hl : desk.cache.loads[number]? = some load)
      (he : load.ending = none) (hf : (desk.fetch load.bucket).1 = .error fault) :
      Move desk (.load number)
        { (desk.fetch load.bucket).2 with cache := desk.cache.forget load.bucket }
        [.finish number (.failed reason)]
  | loadSkipped {number} (hl : ∀ load, desk.cache.loads[number]? = some load → load.ending ≠ none) :
      Move desk (.load number) desk []
  -- the oldest load has its turn, and then the others
  | drain {number held} (hh : desk.cache.held = number :: held) :
      Move desk .drain { desk with cache := { desk.cache with held }, turns := desk.turns + 1 }
        [.load number, .drain]
  | drained (hh : desk.cache.held = []) : Move desk .drain desk []
  | guard : Move desk .guard desk []

namespace Desk

variable {desk after : Desk} {next : List Task}

theorem move_submit {number : Nat} {query : Option String} {followUp : Option FollowUp}
    (h : desk.submit number query followUp = (after, next)) :
    Move desk (.submit number query followUp) after next := by
  unfold submit at h
  split at h <;> cases h
  · exact .submitNowhere ‹_›
  · exact .submit ‹_›

theorem move_look {ticket : Ticket} (h : desk.look ticket = (after, next)) :
    Move desk (.look ticket) after next := by
  unfold look at h
  split at h
  · cases h
    exact .lookNowhere ‹_›
  · rename_i session hs
    simp only at h
    split at h
    · cases h
      exact .lookRefused hs ‹_›
    · rename_i fetched cache hr
      unfold join at h
      split at h
      · -- nothing was asked for, so that nothing is waited for either
        rename_i hf
        cases h
        simp only at hf
        subst hf
        exact .lookEnded hs hr (by simp [Cache.endings?]) (.inl rfl)
      · split at h
        · cases h
          exact .lookEnded hs hr ‹_› (.inr rfl)
        · rename_i he
          cases h
          exact .lookWaits hs hr (by simpa using he)

/-- Telling a host what became of a query changes nothing of what became of it. -/
theorem tellDone_cases {number : Nat} {outcome : Outcome} {answered : Answered}
    (h : desk.tellDone number outcome answered = (after, next)) :
    FollowsUp next ∧
      (after = desk ∨ after = desk.note number { outcome with followUp := none }
        [.done number answered]) := by
  unfold tellDone at h
  split at h
  · cases h
    exact ⟨.inl rfl, .inl rfl⟩
  · cases h
    exact ⟨.inr ⟨_, fun _ => FollowUp.isTyping_of_mem_tasks, rfl⟩, .inr rfl⟩

theorem note_setOutcome (number : Nat) (outcome other : Outcome) (done : List Event) :
    (desk.setOutcome number outcome).note number other done = desk.note number other done := by
  simp [note, setOutcome]

theorem move_handOut {number : Nat} (h : desk.handOut number = (after, next)) :
    Move desk (.handOut number) after next := by
  unfold handOut at h
  split at h
  · cases h
    exact .handOutNowhere ‹_›
  · rename_i outcome ho
    simp only at h
    split at h
    · cases h
      rw [← note_nil]
      exact .handOut ho rfl rfl (by simp) (.inl rfl)
    · obtain ⟨hn, rfl | rfl⟩ := tellDone_cases h
      · rw [← note_nil]
        exact .handOut ho rfl rfl (by simp) hn
      · rw [note_setOutcome]
        exact .handOut ho rfl rfl (by simp) hn

theorem move_resolve {number : Nat} {answered : Answered}
    (h : desk.resolve number answered = (after, next)) :
    Move desk (.resolve number answered) after next := by
  unfold resolve at h
  split at h
  · cases h
    exact .resolveNowhere ‹_›
  · rename_i outcome ho
    simp only at h
    split at h
    · rename_i ha
      cases h
      exact .resolveAgain ho (Option.isSome_iff_ne_none.1 ha)
    · rename_i hw
      have hw : outcome.answered = none := by simpa using hw
      split at h
      · obtain ⟨hn, rfl | rfl⟩ := tellDone_cases h
        · rw [← note_nil]
          exact .resolve ho hw rfl rfl (by simp) hn
        · rw [note_setOutcome]
          exact .resolve ho hw rfl rfl (by simp) hn
      · cases h
        rw [← note_nil]
        exact .resolve ho hw rfl rfl (by simp) (.inl rfl)

theorem move_call {call : Call} (h : desk.call call = (after, next)) :
    Move desk (.call call) after next := by
  unfold Desk.call at h
  split at h
  · cases h
    exact .callDiagnostic
  · rename_i hd
    have hc : ∀ diagnostic, call ≠ .diagnostic diagnostic := fun diagnostic e => hd diagnostic e
    split at h
    · rename_i hs
      cases h
      exact .callUnheard hc (by simp [hs])
    · rename_i session hs
      split at h
      · cases h
        exact .call hc hs ‹_›
      · rename_i hh
        cases h
        apply Move.callUnheard hc
        intro other ho
        cases hs.symm.trans ho
        simpa using hh

theorem move_settle {ticket : Ticket} (h : desk.settle ticket = (after, next)) :
    Move desk (.settle ticket) after next := by
  unfold settle at h
  split at h
  · rename_i hs
    cases h
    exact .settleDropped (by simp [hs])
  · rename_i session hs
    split at h
    · rename_i he
      cases h
      exact .settleDropped fun _ _ => .inl he
    · rename_i endings he
      split at h
      · rename_i hg
        simp only at h
        split at h <;> cases h
        · exact .settleFailed hs he hg.1 hg.2 ‹_›
        · exact .settle hs he hg.1 hg.2 ‹_›
      · rename_i hg
        cases h
        apply Move.settleDropped
        intro other ho
        cases hs.symm.trans ho
        exact .inr hg

theorem move_load {number : Nat} (h : desk.runLoad number = (after, next)) :
    Move desk (.load number) after next := by
  unfold runLoad at h
  split at h
  · rename_i hl
    cases h
    exact .loadSkipped (by simp [hl])
  · rename_i load hl
    split at h
    · rename_i he
      cases h
      apply Move.loadSkipped
      intro other ho
      cases hl.symm.trans ho
      simpa [Option.isSome_iff_ne_none] using he
    · rename_i he
      have he : load.ending = none := by simpa using he
      have hc : (desk.fetch load.bucket).2.cache = desk.cache := rfl
      simp only [arrive] at h
      split at h <;> cases h
      · exact .load hl he ‹_›
      · exact .loadLeft hl he ‹_›
      · exact .loadFailed hl he ‹_›
      · exact .loadFailed hl he ‹_›

theorem move_drain (h : desk.drain = (after, next)) : Move desk .drain after next := by
  unfold drain at h
  split at h <;> cases h
  · exact .drained ‹_›
  · exact .drain ‹_›

/-- A task other than a fault does a move. -/
theorem move_perform {task : Task} (ht : ∀ fault, task ≠ .raise fault)
    (h : desk.perform task = (after, next)) : Move desk task after next := by
  cases task with
  | submit number query followUp => exact move_submit h
  | look ticket => exact move_look h
  | handOut number => exact move_handOut h
  | call call => exact move_call h
  | resolve number answered => exact move_resolve h
  | settle ticket => exact move_settle h
  | deliver ticket failures result =>
    cases h
    exact .deliver
  | conclude number result =>
    cases h
    exact .conclude
  | raise fault => exact absurd rfl (ht fault)
  | guard =>
    cases h
    exact .guard
  | finish number ending =>
    cases h
    exact .finish
  | load number => exact move_load h
  | drain => exact move_drain h

end Desk

/-! ## What comes of a task -/

/-- The ticket of a query that is typed into a session. -/
def Desk.ticketFor (desk : Desk) (number : Nat) (session : Session) (query : Option String) :
    Ticket :=
  { session := number, generation := session.generation + 1, query, key := queryKey query
    outcome := desk.outcomes.length }

/-- What comes of a query that is typed. -/
theorem Desk.mem_submitTasks {desk : Desk} {number : Nat} {session : Session}
    {query : Option String} {task : Task} (h : task ∈ desk.submitTasks number session query) :
    (∃ generation state, state ≠ .settled ∧ task = .call (.state number generation state)) ∨
      (∃ pending, desk.superseded? session = some pending ∧ task = .resolve pending .superseded) ∨
      (queryKey query = "" ∧ task = .resolve desk.outcomes.length (.result
        { query, key := "", groups := [], generation := session.generation + 1 })) ∨
      (queryKey query ≠ "" ∧ task = .look (desk.ticketFor number session query)) ∨
      task = .handOut desk.outcomes.length := by
  have hstate : (desk.submitted session query).state ≠ .settled := by
    simp only [submitted, Session.submit, Session.stateFor]
    split <;> simp
  have hgen : (desk.submitted session query).generation = session.generation + 1 := rfl
  simp only [submitTasks, List.mem_append, List.mem_cons, List.mem_map, List.not_mem_nil,
    Option.mem_toList, or_false] at h
  rcases h with (⟨_, _, rfl⟩ | rfl | ⟨pending, hp, rfl⟩) | h | rfl
  · exact .inl ⟨_, .cancelled, by simp, rfl⟩
  · exact .inl ⟨_, _, hstate, rfl⟩
  · exact .inr (.inl ⟨pending, hp, rfl⟩)
  · by_cases hk : queryKey query = ""
    · rw [if_pos hk] at h
      exact .inr (.inr (.inl ⟨hk, by rw [h, hgen, hk]⟩))
    · rw [if_neg hk] at h
      exact .inr (.inr (.inr (.inl ⟨hk, by rw [h, hgen]; rfl⟩)))
  · exact .inr (.inr (.inr (.inr rfl)))

/-- What comes of a load that ended. -/
theorem mem_settlings {tickets : List Ticket} {task : Task}
    (h : task ∈ tickets.flatMap fun ticket => [.settle ticket, .guard]) :
    (∃ ticket ∈ tickets, task = .settle ticket) ∨ task = .guard := by
  obtain ⟨ticket, ht, hm⟩ := List.mem_flatMap.1 h
  obtain rfl | rfl : task = .settle ticket ∨ task = .guard := by simpa using hm
  · exact .inl ⟨ticket, ht, rfl⟩
  · exact .inr rfl

/-- What comes of a document that is malformed. -/
theorem Desk.mem_reports {shard : Shard} {task : Task} (h : task ∈ reports shard) :
    (∃ diagnostic, task = .call (.diagnostic diagnostic)) ∨ task = .guard := by
  obtain ⟨diagnostic, -, hm⟩ := List.mem_flatMap.1 h
  obtain rfl | rfl : task = .call (.diagnostic diagnostic) ∨ task = .guard := by simpa using hm
  · exact .inl ⟨diagnostic, rfl⟩
  · exact .inr rfl

/-- The tasks by which an answer is told. -/
theorem Desk.mem_deliver {ticket : Ticket} {failures : List (String × String)} {result : Result}
    {task : Task} (h : task ∈ deliver ticket failures result) :
    (∃ bucket reason, task = .call (.warning ticket.session ticket.generation bucket reason)) ∨
      task = .call (.results ticket.session ticket.generation result.groups) ∨
      task = .conclude ticket.outcome result := by
  rcases List.mem_append.1 h with hm | hm
  · obtain ⟨failure, -, rfl⟩ := List.mem_map.1 hm
    exact .inl ⟨_, _, rfl⟩
  · exact .inr (by simpa using hm)

/-- The tasks by which an answer is told, but for the warnings, when these are not counted. -/
theorem Desk.countP_deliver {ticket : Ticket} {p : Task → Bool}
    (hp : ∀ bucket reason,
      p (.call (.warning ticket.session ticket.generation bucket reason)) = false)
    (failures : List (String × String)) (result : Result) :
    (deliver ticket failures result).countP p =
      [.call (.results ticket.session ticket.generation result.groups),
        .conclude ticket.outcome result].countP p := by
  have hw : (failures.map fun failure => Task.call (.warning ticket.session ticket.generation
      failure.1 failure.2)).countP p = 0 := by
    rw [List.countP_eq_zero]
    intro task hm
    obtain ⟨failure, -, rfl⟩ := List.mem_map.1 hm
    rw [hp]
    exact Bool.false_ne_true
  rw [deliver, List.countP_append, hw, Nat.zero_add]

/-- Which tasks may come of a task at a desk. -/
inductive Yields (desk : Desk) : Task → Task → Prop where
  -- what hosts do when they are called
  | type {task session query followUp} : Yields desk task (.submit session query followUp)
  | guard {task} : Yields desk task .guard
  | fail {call message} : Yields desk (.call call) (.raise (.handler message))
  -- what comes of a query that is typed
  | change {number query followUp generation state} (hs : state ≠ .settled) :
      Yields desk (.submit number query followUp) (.call (.state number generation state))
  | supersede {number query followUp session pending} (hs : desk.sessions[number]? = some session)
      (hp : desk.superseded? session = some pending) :
      Yields desk (.submit number query followUp) (.resolve pending .superseded)
  | empty {number query followUp session} (hs : desk.sessions[number]? = some session)
      (hk : queryKey query = "") :
      Yields desk (.submit number query followUp) (.resolve desk.outcomes.length (.result
        { query, key := "", groups := [], generation := session.generation + 1 }))
  | look {number query followUp session} (hs : desk.sessions[number]? = some session)
      (hk : queryKey query ≠ "") :
      Yields desk (.submit number query followUp) (.look (desk.ticketFor number session query))
  | handOut {number query followUp} :
      Yields desk (.submit number query followUp) (.handOut desk.outcomes.length)
  -- what comes of looking for an answer
  | refuse {ticket session fault} (hs : desk.sessions[ticket.session]? = some session)
      (hr : desk.cache.requestAll
        (candidates ticket.key session.buckets session.partition session.mode) = .error fault) :
      Yields desk (.look ticket) (.raise fault)
  | settle {ticket session fetched cache} (hs : desk.sessions[ticket.session]? = some session)
      (hr : desk.cache.requestAll (candidates ticket.key session.buckets session.partition
        session.mode) = .ok (fetched, cache)) :
      Yields desk (.look ticket) (.settle { ticket with fetched })
  -- an outcome that was answered stays as it is
  | again {number answered} (hn : (desk.outcomes[number]?.bind (·.answered)).isSome) :
      Yields desk (.resolve number answered) (.raise .settledTwice)
  -- what comes of a query that is answered, or whose answer fails
  | settled {ticket} :
      Yields desk (.settle ticket) (.call (.state ticket.session ticket.generation .settled))
  | deliver {ticket session endings failures result}
      (hs : desk.sessions[ticket.session]? = some session)
      (he : desk.cache.endings? ticket.fetched = some endings)
      (ha : answerTicket session ticket endings = .ok (result, failures)) :
      Yields desk (.settle ticket) (.deliver ticket failures result)
  | unanswered {ticket fault} :
      Yields desk (.settle ticket) (.resolve ticket.outcome (.fault fault))
  -- what comes of telling an answer
  | warning {ticket failures result bucket reason} :
      Yields desk (.deliver ticket failures result)
        (.call (.warning ticket.session ticket.generation bucket reason))
  | results {ticket failures result} :
      Yields desk (.deliver ticket failures result)
        (.call (.results ticket.session ticket.generation result.groups))
  | conclude {ticket failures result} :
      Yields desk (.deliver ticket failures result) (.conclude ticket.outcome result)
  | resolve {number result} :
      Yields desk (.conclude number result) (.resolve number (.result result))
  -- what comes of loads
  | wake {number ending ticket} (hw : ticket ∈ desk.cache.waitingFor number) :
      Yields desk (.finish number ending) (.settle ticket)
  | report {number diagnostic} : Yields desk (.load number) (.call (.diagnostic diagnostic))
  | bring {number load shard} (hl : desk.cache.loads[number]? = some load)
      (hf : (desk.fetch load.bucket).1 = .ok shard) :
      Yields desk (.load number) (.finish number (.shard shard))
  | miss {number ending} (hn : ∀ shard, ending ≠ .shard shard) :
      Yields desk (.load number) (.finish number ending)
  | load {number} : Yields desk .drain (.load number)
  | drain : Yields desk .drain .drain

/-- What comes of a task by a move. -/
theorem Move.yields {desk after : Desk} {task first : Task} {next : List Task}
    (h : Move desk task after next) (hm : first ∈ next) : Yields desk task first := by
  cases h with
  | submit hs =>
    obtain ⟨_, _, hr, rfl⟩ | ⟨_, hp, rfl⟩ | ⟨hk, rfl⟩ | ⟨hk, rfl⟩ | rfl := Desk.mem_submitTasks hm
    · exact .change hr
    · exact .supersede hs hp
    · exact .empty hs hk
    · exact .look hs hk
    · exact .handOut
  | lookRefused hs hr =>
    rw [List.mem_singleton.1 hm]
    exact .refuse hs hr
  | lookEnded hs hr _ hg =>
    rcases List.mem_cons.1 hm with rfl | hm
    · exact .settle hs hr
    · obtain rfl | rfl := hg
      · cases hm
      · rw [List.mem_singleton.1 hm]
        exact .guard
  | call | callDiagnostic =>
    obtain ⟨_, _, _, rfl⟩ | ⟨_, rfl⟩ := reactions_cases hm
    · exact .type
    · exact .fail
  | handOut _ _ _ _ hn | resolve _ _ _ _ _ hn =>
    obtain rfl | ⟨typed, ht, rfl⟩ := hn
    · cases hm
    · rcases List.mem_append.1 hm with hm | hm
      · obtain ⟨_, _, _, rfl⟩ := ht first hm
        exact .type
      · rw [List.mem_singleton.1 hm]
        exact .guard
  | resolveAgain ho hw =>
    rw [List.mem_singleton.1 hm]
    exact .again (by simpa [ho, Option.isSome_iff_ne_none] using hw)
  | settle hs he _ _ ha =>
    obtain rfl | rfl : first = _ ∨ first = _ := by simpa using hm
    · exact .settled
    · exact .deliver hs he ha
  | settleFailed =>
    obtain rfl | rfl : first = _ ∨ first = _ := by simpa using hm
    · exact .settled
    · exact .unanswered
  | deliver =>
    obtain ⟨_, _, rfl⟩ | rfl | rfl := Desk.mem_deliver hm
    · exact .warning
    · exact .results
    · exact .conclude
  | conclude =>
    rw [List.mem_singleton.1 hm]
    exact .resolve
  | finish =>
    obtain ⟨_, hw, rfl⟩ | rfl := mem_settlings hm
    · exact .wake hw
    · exact .guard
  | load hl _ hf =>
    rcases List.mem_append.1 hm with hm | hm
    · obtain ⟨_, rfl⟩ | rfl := Desk.mem_reports hm
      · exact .report
      · exact .guard
    · rw [List.mem_singleton.1 hm]
      exact .bring hl hf
  | loadLeft | loadFailed =>
    rw [List.mem_singleton.1 hm]
    exact .miss (by simp)
  | drain =>
    obtain rfl | rfl : first = _ ∨ first = .drain := by simpa using hm
    · exact .load
    · exact .drain
  | _ => cases hm

/-- What becomes of an agenda when its next task is done. -/
inductive Agenda.Step : Agenda → Agenda → Prop where
  | move {desk after task tasks next escaped} (h : Move desk task after next) :
      Step ⟨desk, task :: tasks, escaped⟩ ⟨after, next ++ tasks, escaped⟩
  | raise {desk fault tasks escaped} :
      Step ⟨desk, .raise fault :: tasks, escaped⟩
        ⟨desk, (unwind fault tasks).1, (unwind fault tasks).2⟩

theorem Agenda.step_of_step? {agenda after : Agenda} (h : agenda.step? = some after) :
    agenda.Step after := by
  obtain ⟨desk, tasks, escaped⟩ := agenda
  unfold step? at h
  split at h
  · cases h
  · rename_i fault tasks ht
    cases h
    cases ht
    exact .raise
  · rename_i task tasks hr ht
    cases h
    cases ht
    exact .move (Desk.move_perform (fun fault e => hr fault e) rfl)

/-- With what agenda a desk may begin a deed. -/
inductive Begins (desk : Desk) : Agenda → Prop where
  | rest : Begins desk ⟨desk, [], none⟩
  | openSession {opening session} (h : desk.sessionFor opening = .ok session) :
      Begins desk ⟨{ desk with sessions := desk.sessions ++ [session] }, [], none⟩
  | type {session query followUp} : Begins desk ⟨desk, [.submit session query followUp], none⟩
  | ask {buckets fetched cache} (h : desk.cache.requestAll buckets = .ok (fetched, cache)) :
      Begins desk ⟨{ desk with cache }, [], none⟩
  | runHeld {number} (h : number ∈ desk.cache.held) :
      Begins desk ⟨{ desk with cache := { desk.cache with held := desk.cache.held.erase number } },
        [.load number], none⟩
  | drain : Begins desk ⟨desk, [.drain], none⟩
  | cancelLoad {number} (h : number ∈ desk.cache.held)
      (he : desk.cache.ending? (.load number) = none) :
      Begins desk ⟨desk, [.finish number .cancelled], none⟩
  | cancelOutcome {number} (h : desk.isOwed number) :
      Begins desk ⟨desk, [.resolve number .cancelled], none⟩
  | restock {supply} : Begins desk ⟨{ desk with supply }, [], none⟩
  | close : Begins desk ⟨{ desk with cache := { desk.cache with isOpen := false } }, [.drain], none⟩

/-- The tasks with which a deed may begin. -/
theorem Begins.mem_tasks {desk : Desk} {after : Agenda} (h : Begins desk after) {task : Task}
    (ht : task ∈ after.tasks) : (∃ session query followUp, task = .submit session query followUp) ∨
      (∃ number, task = .load number) ∨ task = .drain ∨
      (∃ number, task = .finish number .cancelled) ∨
      ∃ number, task = .resolve number .cancelled := by
  cases h <;> simp_all

theorem Desk.begins_takeUp (desk : Desk) (deed : Deed) : Begins desk (desk.takeUp deed) := by
  have mem_held {bucket : String} {number : Nat}
      (h : desk.cache.heldLoad? bucket = some number) : number ∈ desk.cache.held :=
    List.mem_of_find?_eq_some h
  cases deed with
  | openSession opening =>
    dsimp only [takeUp, Desk.openSession]
    split
    · exact .rest
    · exact .openSession ‹_›
  | type session query followUp => exact .type
  | ask buckets =>
    dsimp only [takeUp]
    split
    · exact .rest
    · exact .ask ‹_›
  | runHeld bucket =>
    dsimp only [takeUp]
    split
    · exact .rest
    · exact .runHeld (mem_held ‹_›)
  | drain => exact .drain
  | cancelLoad bucket =>
    dsimp only [takeUp]
    split
    · exact .rest
    · rename_i hn
      split
      · exact .rest
      · rename_i he
        exact .cancelLoad (mem_held hn) (by simpa using he)
  | cancelOutcome number =>
    dsimp only [takeUp]
    split
    · exact .cancelOutcome ‹_›
    · exact .rest
  | restock supply => exact .restock
  | close => exact .close

/-- What holds of an agenda and those before it when a desk is opened, and is kept by the steps and
by the beginnings of deeds, holds throughout every course. -/
@[elab_as_elim]
theorem Course.induct
    {p : ∀ (agenda : Agenda) (past : List Agenda), Course (agenda :: past) → Prop}
    (opened : ∀ {supply index mode partition rules interpreter}
      {h : Course [⟨{ supply, index, mode, partition, rules, interpreter }, [], none⟩]}, p _ [] h)
    (worked : ∀ {agenda after past} (hc : Course (agenda :: past))
      {h : Course (after :: agenda :: past)}, agenda.Step after → p agenda past hc →
      p after (agenda :: past) h)
    (began : ∀ {agenda after past} (hc : Course (agenda :: past))
      {h : Course (after :: agenda :: past)}, agenda.tasks = [] → Begins agenda.desk after →
      p agenda past hc → p after (agenda :: past) h)
    {agenda : Agenda} {past : List Agenda} (h : Course (agenda :: past)) : p agenda past h := by
  -- the induction is on the course as a whole, of which the agenda is only the latest
  suffices ∀ course, Course course → ∀ agenda past (h : Course (agenda :: past)),
      agenda :: past = course → p agenda past h from this _ h _ _ h rfl
  intro course hc
  induction hc with
  | opened ho =>
    rintro agenda past h ⟨⟩
    obtain ⟨index, mode, partition, rules, rfl⟩ := Desk.eq_of_ofSupply ho
    exact opened
  | worked hc step ih =>
    rintro agenda past h ⟨⟩
    exact worked hc (Agenda.step_of_step? step) (ih _ _ hc rfl)
  | tookUp hc rests deed ih =>
    rintro agenda past h ⟨⟩
    exact began hc rests (Desk.begins_takeUp _ deed) (ih _ _ hc rfl)

/-- What is kept by the steps and by the beginnings of deeds stays throughout a course. -/
theorem Course.stays {p : Agenda → Prop}
    (worked : ∀ {agenda after : Agenda}, agenda.Step after → p agenda → p after)
    (began : ∀ {agenda after : Agenda}, Begins agenda.desk after → p agenda → p after)
    {agenda earlier : Agenda} {past : List Agenda} (h : Course (agenda :: past))
    (he : earlier ∈ agenda :: past) (hp : p earlier) : p agenda := by
  induction h using Course.induct with
  | opened => exact List.mem_singleton.1 he ▸ hp
  | worked _ hs ih =>
    rcases List.mem_cons.1 he with rfl | he
    · exact hp
    · exact worked hs (ih he)
  | began _ _ hb ih =>
    rcases List.mem_cons.1 he with rfl | he
    · exact hp
    · exact began hb (ih he)

/-- Whether a task handles the faults of the tasks on top of it. -/
def Task.handles : Task → Bool
  | .guard | .conclude _ _ => true
  | _ => false

/-- The way of a fault ends at the first task that handles it, or nothing is left. -/
theorem unwind_cases (fault : Fault) (tasks : List Task) :
    ((unwind fault tasks).1 = [] ∧ ∀ task ∈ tasks, task.handles = false) ∨
      ∃ passed rest, (∀ task ∈ passed, task.handles = false) ∧
        ((tasks = passed ++ .guard :: rest ∧ unwind fault tasks = (rest, none)) ∨
          ∃ number result, tasks = passed ++ .conclude number result :: rest ∧
            unwind fault tasks = (.resolve number (.fault fault) :: rest, none)) := by
  fun_induction unwind fault tasks with
  | case1 => exact .inl ⟨rfl, by simp⟩
  | case2 rest => exact .inr ⟨[], rest, by simp, .inl ⟨rfl, rfl⟩⟩
  | case3 number result rest => exact .inr ⟨[], rest, by simp, .inr ⟨number, result, rfl, rfl⟩⟩
  | case4 task tasks hg hc ih =>
    have ht : task.handles = false := by
      cases task <;> simp_all [Task.handles]
    rcases ih with ⟨hn, ha⟩ | ⟨passed, rest, hp, h⟩
    · exact .inl ⟨hn, by simpa [ht] using ha⟩
    · refine .inr ⟨task :: passed, rest, by simpa [ht] using hp, ?_⟩
      rcases h with ⟨rfl, h⟩ | ⟨number, result, rfl, h⟩
      · exact .inl ⟨rfl, h⟩
      · exact .inr ⟨number, result, rfl, h⟩

/-- What is left when a fault took its way was there before, or settles an outcome that was to be
concluded. -/
theorem mem_unwind {fault : Fault} {tasks : List Task} {task : Task}
    (h : task ∈ (unwind fault tasks).1) :
    task ∈ tasks ∨ ∃ number result, task = .resolve number (.fault fault) ∧
      .conclude number result ∈ tasks := by
  obtain ⟨hn, -⟩ | ⟨passed, rest, -, ⟨rfl, hu⟩ | ⟨number, result, rfl, hu⟩⟩ :=
    unwind_cases fault tasks
  · rw [hn] at h
    cases h
  · rw [hu] at h
    exact .inl (by simp [h])
  · rw [hu] at h
    rcases List.mem_cons.1 h with rfl | h
    · exact .inr ⟨number, result, rfl, by simp⟩
    · exact .inl (by simp [h])

/-- Of what is left when a fault took its way, only outcomes that are settled with it are new. -/
theorem mem_of_mem_unwind {fault : Fault} {tasks : List Task} {task : Task}
    (h : task ∈ (unwind fault tasks).1) (hn : ∀ number, task ≠ .resolve number (.fault fault)) :
    task ∈ .raise fault :: tasks := by
  obtain hm | ⟨number, _, he, -⟩ := mem_unwind h
  · exact List.mem_cons_of_mem _ hm
  · exact absurd he (hn number)

end SymbolLookup

import SymbolLookup.Proofs.Desk.Holders
/-!
# Telling hosts the answers

What hosts are told of their queries, and how often.

## Main definitions

* `Call.tells`: whether a call tells of the answer to a query.
* `Desk.deliveries`: how often the answer to a query was, is or may be delivered.

## Main results

* `Move.event_cases`, `Move.call_cases`, `Move.deliver_cases`: where calls come from.
* `Course.deliveries_le`: no answer is delivered twice.
-/

namespace SymbolLookup

/-- Whether a call delivers the answer to a query. -/
def Call.delivers (session generation : Nat) : Call → Bool
  | .results other number _ => other == session && number == generation
  | _ => false

/-- Whether a call tells of the answer to a query: that it is there, what it lacks, or itself. -/
def Call.tells (session generation : Nat) : Call → Bool
  | .state other number reached => other == session && number == generation && reached == .settled
  | .warning other number _ _ | .results other number _ => other == session && number == generation
  | .diagnostic _ => false

/-- Whether an answer was delivered when this happened. -/
def Event.delivers (session generation : Nat) : Event → Bool
  | .called call => call.delivers session generation
  | _ => false

/-- Whether a task is about to deliver the answer to a query. -/
def Task.delivers (session generation : Nat) : Task → Bool
  | .call told => told.delivers session generation
  | .deliver ticket _ _ => ticket.session == session && ticket.generation == generation
  | _ => false

/-! ## Where calls come from -/

/-- What happens in a move is a call, or tells nothing. -/
theorem Move.event_cases {desk after : Desk} {task : Task} {next : List Task}
    (h : Move desk task after next) :
    (∃ call, task = .call call ∧ after.events = desk.events ++ [.called call]) ∨
      ∃ done, after.events = desk.events ++ done ∧ ∀ call, .called call ∉ done := by
  have none {events : List Event} (he : events = desk.events) :
      ∃ done, events = desk.events ++ done ∧ ∀ call, .called call ∉ done :=
    ⟨[], by simp [he], by simp⟩
  have told {number : Nat} {done : List Event}
      (hd : ∀ event ∈ done, ∃ answered, event = .done number answered) (call : Call) :
      .called call ∉ done := by
    intro hm
    obtain ⟨answered, he⟩ := hd _ hm
    cases he
  cases h with
  | call => exact .inl ⟨_, rfl, rfl⟩
  | callDiagnostic => exact .inl ⟨_, rfl, rfl⟩
  | handOut _ _ _ hd => exact .inr ⟨_, rfl, told hd⟩
  | resolve _ _ _ _ hd => exact .inr ⟨_, rfl, told hd⟩
  | load | loadLeft | loadFailed => exact .inr ⟨_, rfl, by simp⟩
  | _ => exact .inr (none rfl)

/-- A task that comes of a move is a call of one of these kinds, or none. -/
theorem Move.call_cases {desk after : Desk} {task : Task} {next : List Task}
    (h : Move desk task after next) {call : Call} (hc : .call call ∈ next) :
    (∀ session generation, call.tells session generation = false) ∨
      (∃ ticket, task = .settle ticket ∧
        call = .state ticket.session ticket.generation .settled) ∨
      ∃ ticket failures result, task = .deliver ticket failures result ∧
        ((∃ bucket reason, call = .warning ticket.session ticket.generation bucket reason) ∨
          call = .results ticket.session ticket.generation result.groups) := by
  cases h.yields hc with
  | change hs => exact .inl fun _ _ => by simp [Call.tells, hs]
  | settled => exact .inr (.inl ⟨_, rfl, rfl⟩)
  | warning => exact .inr (.inr ⟨_, _, _, rfl, .inl ⟨_, _, rfl⟩⟩)
  | results => exact .inr (.inr ⟨_, _, _, rfl, .inr rfl⟩)
  | report => exact .inl fun _ _ => rfl

/-- An answer is about to be told when a pending query was answered. -/
theorem Move.deliver_cases {desk after : Desk} {task : Task} {next : List Task}
    (h : Move desk task after next) {ticket : Ticket} {failures : List (String × String)}
    {result : Result} (hc : .deliver ticket failures result ∈ next) :
    task = .settle ticket ∧ ∃ session, desk.sessions[ticket.session]? = some session ∧
      session.generation = ticket.generation ∧ session.pending = some ticket.outcome ∧
      after = desk.setSession ticket.session session.settle ∧
      next = [.call (.state ticket.session ticket.generation .settled),
        .deliver ticket failures result] ∧
      ∃ endings, desk.cache.endings? ticket.fetched = some endings ∧
        answerTicket session ticket endings = .ok (result, failures) := by
  cases h.yields hc
  cases h with
  | settle hs he hg hp ha =>
    obtain ⟨rfl, rfl⟩ : failures = _ ∧ result = _ := by simpa using hc
    exact ⟨rfl, _, hs, hg, hp, rfl, rfl, _, he, ha⟩
  | settleFailed => simp at hc
  | settleDropped => cases hc

/-! ## How often an answer is delivered -/

namespace Desk

variable {desk after : Desk} {session generation : Nat}

/-- Whether the query of a generation of a session is pending. -/
def pendsAt (desk : Desk) (session generation : Nat) : Bool :=
  (desk.sessions[session]?).any fun session =>
    session.pending.isSome && session.generation == generation

/-- How often the answer to a query was delivered, and is about to be. -/
def delivered (desk : Desk) (tasks : List Task) (session generation : Nat) : Nat :=
  desk.events.countP (·.delivers session generation) +
    tasks.countP (·.delivers session generation)

/-- How often the answer to a query was, is or may be delivered. -/
def deliveries (desk : Desk) (tasks : List Task) (session generation : Nat) : Nat :=
  (desk.pendsAt session generation).toNat + desk.delivered tasks session generation

/-- How many queries of a generation were typed into a session, if the first one is not
distinguished from none. -/
def reached (desk : Desk) (session generation : Nat) : Nat :=
  if generation ≤ desk.askers.count session then 1 else 0

theorem pendsAt_setSession (session generation : Nat) {place : Nat} {old : Session}
    (hs : desk.sessions[place]? = some old) (other : Session) :
    (desk.setSession place other).pendsAt session generation =
      if place = session then other.pending.isSome && other.generation == generation
      else desk.pendsAt session generation := by
  unfold pendsAt
  rw [setSession_sessions, List.getElem?_set, if_pos (List.getElem?_eq_some_iff.1 hs).1]
  split <;> rfl

theorem pendsAt_of_session {old : Session} (hs : desk.sessions[session]? = some old) :
    desk.pendsAt session generation = (old.pending.isSome && old.generation == generation) := by
  simp [pendsAt, hs]

end Desk

/-- Nothing that comes of other tasks than these delivers an answer. -/
theorem Move.countP_delivers {desk after : Desk} {task : Task} {next : List Task}
    (h : Move desk task after next) (hs : ∀ ticket, task ≠ .settle ticket)
    (hd : ∀ ticket failures result, task ≠ .deliver ticket failures result)
    (session generation : Nat) : next.countP (·.delivers session generation) = 0 := by
  rw [List.countP_eq_zero]
  intro first hm
  cases h.yields hm with
  | deliver => exact absurd rfl (hs _)
  | results => exact absurd rfl (hd _ _ _)
  | _ => exact Bool.false_ne_true

/-- An answer is delivered by a task that was about to deliver it. -/
theorem Move.delivered_le {desk after : Desk} {task : Task} {next : List Task}
    (h : Move desk task after next) (hs : ∀ ticket, task ≠ .settle ticket)
    (session generation : Nat) :
    after.delivered next session generation ≤ desk.delivered [task] session generation := by
  unfold Desk.delivered
  obtain ⟨call, rfl, he⟩ | ⟨done, he, hn⟩ := h.event_cases
  · rw [he, h.countP_delivers (by simp) (by simp), List.countP_append]
    exact Nat.le_refl _
  · have hz : done.countP (·.delivers session generation) = 0 := by
      rw [List.countP_eq_zero]
      intro event hm
      cases event with
      | called call => exact absurd hm (hn call)
      | _ => exact Bool.false_ne_true
    rw [he, List.countP_append, hz]
    by_cases hd : ∃ ticket failures result, task = .deliver ticket failures result
    · obtain ⟨ticket, failures, result, rfl⟩ := hd
      cases h
      rw [Desk.countP_deliver fun _ _ => rfl]
      simp [List.countP_cons, Task.delivers, Call.delivers]
    · rw [h.countP_delivers hs fun ticket failures result e => hd ⟨_, _, _, e⟩]
      omega

theorem toNat_le_of_imp {a b : Bool} (h : a = true → b = true) : a.toNat ≤ b.toNat := by
  cases a
  · exact Nat.zero_le _
  · exact Nat.le_of_eq (by rw [h rfl])

/-- A pending query that is answered is delivered at most once. -/
theorem Desk.deliveries_settle {desk : Desk} {ticket : Ticket} {old : Session} {next : List Task}
    {session generation : Nat} (hs : desk.sessions[ticket.session]? = some old)
    (hg : old.generation = ticket.generation) (hp : old.pending = some ticket.outcome)
    (hn : next.countP (·.delivers session generation) ≤
      if ticket.session = session ∧ ticket.generation = generation then 1 else 0) :
    (desk.setSession ticket.session old.settle).deliveries next session generation +
        desk.reached session generation ≤ desk.deliveries [.settle ticket] session generation +
        (desk.setSession ticket.session old.settle).reached session generation := by
  have hr : (desk.setSession ticket.session old.settle).reached session generation =
    desk.reached session generation := rfl
  have hc : [Task.settle ticket].countP (·.delivers session generation) = 0 := rfl
  rw [deliveries, deliveries, pendsAt_setSession session generation hs, hr, delivered, delivered,
    hc, setSession_events]
  by_cases hd : ticket.session = session
  · subst hd
    rw [if_pos rfl, pendsAt_of_session hs, hp, hg]
    by_cases hg : ticket.generation = generation
    · rw [if_pos ⟨rfl, hg⟩] at hn
      simp [Session.settle, hg]
      omega
    · rw [if_neg fun h => hg h.2] at hn
      simp [Session.settle]
      omega
  · rw [if_neg fun h => hd h.1] at hn
    rw [if_neg hd]
    omega

/-- A query that is typed may be pending; no other is that was not. -/
theorem Desk.pendsAt_submit {desk : Desk} {place session generation : Nat} {old : Session}
    {query : Option String} {outcome : Outcome} (hs : desk.sessions[place]? = some old)
    (h : ((desk.setSession place (desk.submitted old query)).owe outcome).pendsAt session
      generation = true) :
    desk.pendsAt session generation = true ∨
      (place = session ∧ generation = old.generation + 1) := by
  have he : ((desk.setSession place (desk.submitted old query)).owe outcome).pendsAt session
      generation = (desk.setSession place (desk.submitted old query)).pendsAt session generation :=
    rfl
  rw [he, pendsAt_setSession session generation hs] at h
  split at h
  · rename_i hp
    simp only [Bool.and_eq_true, beq_iff_eq] at h
    exact .inr ⟨hp, h.2.symm⟩
  · exact .inl h

/-- A query that is typed may be delivered once. -/
theorem Desk.deliveries_submit {desk : Desk} {place session generation : Nat} {old : Session}
    {query : Option String} {outcome : Outcome} {task : Task} {next : List Task}
    (hs : desk.sessions[place]? = some old) (hg : old.generation = desk.askers.count place)
    (ho : outcome.session = place)
    (ht : ((desk.setSession place (desk.submitted old query)).owe outcome).delivered next session
      generation ≤ desk.delivered [task] session generation) :
    let after := (desk.setSession place (desk.submitted old query)).owe outcome
    after.deliveries next session generation + desk.reached session generation ≤
      desk.deliveries [task] session generation + after.reached session generation := by
  intro after
  have hp : after.pendsAt session generation = true → desk.pendsAt session generation = true ∨
      (place = session ∧ generation = old.generation + 1) := pendsAt_submit hs
  change after.delivered next session generation ≤ desk.delivered [task] session generation at ht
  have ha : after.askers = desk.askers ++ [place] := by simp [after, askers, ho]
  rw [deliveries, deliveries, reached, reached, ha, List.count_append]
  by_cases hn : place = session
  · subst hn
    rw [List.count_singleton_self, ← hg]
    by_cases hn : generation = old.generation + 1
    · -- this is the generation that is reached now
      rw [if_neg (by omega), if_pos (by omega)]
      have := Bool.toNat_le (after.pendsAt place generation)
      omega
    · have := toNat_le_of_imp fun h => (hp h).resolve_right fun e => hn e.2
      split <;> split <;> omega
  · have := toNat_le_of_imp fun h => (hp h).resolve_right fun e => hn e.1
    rw [List.count_singleton, beq_false_of_ne hn, if_neg Bool.false_ne_true, Nat.add_zero]
    omega

/-- A move delivers no answer that was not about to be delivered, except that of a query that is
typed. -/
theorem Move.deliveries_le {desk after : Desk} {task : Task} {next : List Task}
    (h : Move desk task after next)
    (hl : desk.Ledger) (session generation : Nat) :
    after.deliveries next session generation + desk.reached session generation ≤
      desk.deliveries [task] session generation + after.reached session generation := by
  have told (hs : ∀ ticket, task ≠ .settle ticket) := h.delivered_le hs session generation
  have quiet (hs : ∀ ticket, task ≠ .settle ticket)
      (hp : after.pendsAt session generation = desk.pendsAt session generation)
      (ha : after.askers = desk.askers) :
      after.deliveries next session generation + desk.reached session generation ≤
        desk.deliveries [task] session generation + after.reached session generation := by
    have := told hs
    rw [Desk.deliveries, Desk.deliveries, Desk.reached, Desk.reached, hp, ha]
    omega
  cases h with
  | submit hs =>
    exact Desk.deliveries_submit hs (hl.session _ _ hs).generation rfl (told nofun)
  | @call call old _ hs =>
    have hs' : (desk.record (.called call)).sessions[call.session]? = some old := hs
    refine quiet nofun ?_ rfl
    rw [Desk.pendsAt_setSession session generation hs']
    split
    · rename_i hp
      subst hp
      rw [Desk.pendsAt_of_session hs]
      rfl
    · rfl
  | handOut ho hs => exact quiet nofun rfl (Desk.askers_note _ ho hs)
  | resolve ho _ hs => exact quiet nofun rfl (Desk.askers_note _ ho hs)
  | settle hs _ hg hp =>
    exact Desk.deliveries_settle hs hg hp (by simp [List.countP_cons, Task.delivers, Call.delivers])
  | settleFailed hs _ hg hp =>
    exact Desk.deliveries_settle hs hg hp (by simp [Task.delivers, Call.delivers])
  | settleDropped => simp [Desk.deliveries, Desk.delivered]
  | _ => exact quiet nofun rfl rfl

/-- A deed begins with no answer delivered, or about to be, that was not before. -/
theorem Begins.deliveries {desk : Desk} {after : Agenda} (h : Begins desk after)
    (session generation : Nat) :
    after.desk.deliveries after.tasks session generation =
        desk.deliveries [] session generation ∧
      after.desk.reached session generation = desk.reached session generation := by
  have hc : after.tasks.countP (·.delivers session generation) = 0 := by
    cases h <;> rfl
  obtain ⟨-, he, hs, -⟩ := h.frame
  refine ⟨?_, by rw [Desk.reached, Desk.reached, h.askers]⟩
  have hw : after.desk.pendsAt session generation = desk.pendsAt session generation := by
    unfold Desk.pendsAt
    obtain hs | ⟨_, new, hn, hs⟩ := hs
    · rw [hs]
    · rw [hs, List.getElem?_append]
      split
      · rfl
      · rename_i hl
        rw [List.getElem?_eq_none (Nat.le_of_not_lt hl), List.getElem?_singleton]
        split
        · simp [(Desk.eq_of_sessionFor hn).2.2.1]
        · rfl
  rw [Desk.deliveries, Desk.deliveries, Desk.delivered, Desk.delivered, hw, he, hc]
  rfl

/-- No answer is delivered twice, and none before its query is typed. -/
theorem Course.deliveries_le {agenda : Agenda} {past : List Agenda} (h : Course (agenda :: past))
    (session generation : Nat) : agenda.desk.deliveries agenda.tasks session generation ≤
      agenda.desk.reached session generation := by
  induction h using Course.induct with
  | opened => simp [Desk.deliveries, Desk.delivered, Desk.pendsAt]
  | worked hc hs ih =>
    cases hs with
    | move hm =>
      have hh := hm.deliveries_le hc.ledger session generation
      simp only [Desk.deliveries, Desk.delivered, List.countP_append, List.countP_cons,
        List.countP_nil] at ih hh ⊢
      omega
    | @raise desk fault tasks escaped =>
      have hu := countP_unwind_le (p := (·.delivers session generation)) (fun _ _ _ h => h)
        fault tasks
      simp only [Desk.deliveries, Desk.delivered, List.countP_cons] at ih hu ⊢
      omega
  | began _ hr hb ih =>
    obtain ⟨hh, ho⟩ := hb.deliveries session generation
    rwa [hh, ho, ← hr]

/-- The host of a session was told no answer twice. -/
theorem Course.countP_delivers_le {agenda : Agenda} {past : List Agenda}
    (h : Course (agenda :: past)) (session generation : Nat) :
    agenda.desk.events.countP (·.delivers session generation) ≤ 1 := by
  have hl := h.deliveries_le session generation
  have hb : agenda.desk.reached session generation ≤ 1 := by
    unfold Desk.reached
    split <;> omega
  unfold Desk.deliveries Desk.delivered at hl
  omega

end SymbolLookup

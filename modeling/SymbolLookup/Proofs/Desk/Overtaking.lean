import SymbolLookup.Proofs.Desk.Supersession
/-!
# Queries that overtake others

When a query was settled, its host is told so before it is given the answer, and may type the next
query right then. If that one can be answered at once, its answer is delivered first. In no other
way does a later query overtake an earlier one.

## Main definitions

* `Notice`: what the host of a session is told of the answers to its queries.
* `Desk.notices`, `Desk.deliveredTo`: what the host of a session was told, in order.
* `Agenda.Orderly`: the order in which answers are about to be delivered, and were.

## Main results

* `Course.increasing_iff_not_overtaken`: the answers of a session are delivered in the order of its
  queries if and only if none is delivered between the news of another and that one itself.
-/

namespace SymbolLookup

/-- What the host of a session is told of the answer to a query. -/
inductive Notice where
  /-- The query was settled. -/
  | settled (generation : Nat)
  /-- The answer. -/
  | delivered (generation : Nat)
  deriving DecidableEq, Repr

/-- The generation of the query whose answer is told. -/
def Notice.delivered? : Notice → Option Nat
  | settled _ => none
  | delivered generation => some generation

/-- What the host of a session is told of an answer when this happens. -/
def Event.notice? (session : Nat) : Event → Option Notice
  | .called (.state other generation .settled) =>
    if other = session then some (.settled generation) else none
  | .called (.results other generation _) =>
    if other = session then some (.delivered generation) else none
  | _ => none

/-- The generation of the query of a session whose answer is delivered when this happens. -/
def Event.delivered? (session : Nat) : Event → Option Nat
  | .called (.results other generation _) => if other = session then some generation else none
  | _ => none

/-- The generation of the query of a session whose answer a task is about to deliver. -/
def Task.delivered? (session : Nat) : Task → Option Nat
  | .call (.results other generation _) => if other = session then some generation else none
  | .deliver ticket _ _ => if ticket.session = session then some ticket.generation else none
  | _ => none

namespace Desk

/-- What the host of a session was told of answers, the first first. -/
def notices (desk : Desk) (session : Nat) : List Notice :=
  desk.events.filterMap (Event.notice? session)

/-- The generations of the queries whose answers were delivered to the host of a session, in the
order of the deliveries. -/
def deliveredTo (desk : Desk) (session : Nat) : List Nat :=
  desk.events.filterMap (Event.delivered? session)

/-- Whether the answer to a query of a session was delivered between the news that another was
settled and the answer to that one. -/
def Overtaken (desk : Desk) (session : Nat) : Prop :=
  ∃ generation other,
    [.settled generation, .delivered other, .delivered generation].Sublist (desk.notices session)

end Desk

/-! ## Rows that grow at their end -/

/-- What ends a part of a row is its last element, or the part is one of the rest. -/
theorem sublist_concat_cases {α : Type} (part : List α) {row : List α} {last new : α}
    (h : (part ++ [last]).Sublist (row ++ [new])) :
    (part ++ [last]).Sublist row ∨ (last = new ∧ part.Sublist row) := by
  obtain ⟨first, second, he, hf, hs⟩ := List.sublist_append_iff.1 h
  rcases List.sublist_cons_iff.1 hs with hn | ⟨rest, rfl, hn⟩
  · rw [List.sublist_nil.1 hn, List.append_nil] at he
    exact .inl (he ▸ hf)
  · rw [List.sublist_nil.1 hn] at he
    obtain ⟨rfl, hl⟩ := List.append_inj' he rfl
    exact .inr ⟨by simpa using hl, hf⟩

theorem Event.notice?_eq_settled {session generation : Nat} {event : Event} :
    event.notice? session = some (.settled generation) ↔
      event = .called (.state session generation .settled) := by
  cases event with
  | called call =>
    cases call with
    | state other number reached => cases reached <;> simp [notice?]
    | _ => simp [notice?]
  | _ => simp [notice?]

theorem Event.notice?_eq_delivered {session generation : Nat} {event : Event} :
    event.notice? session = some (.delivered generation) ↔
      ∃ groups, event = .called (.results session generation groups) := by
  cases event with
  | called call =>
    cases call with
    | state other number reached => cases reached <;> simp [notice?]
    | _ => simp [notice?]
  | _ => simp [notice?]

theorem Event.delivered?_eq (session : Nat) (event : Event) :
    event.delivered? session = (event.notice? session).bind Notice.delivered? := by
  cases event with
  | called call =>
    cases call with
    | state other number reached =>
      cases reached <;> by_cases ho : other = session <;>
        simp [delivered?, notice?, ho, Notice.delivered?]
    | results other number groups =>
      by_cases ho : other = session <;> simp [delivered?, notice?, ho, Notice.delivered?]
    | _ => rfl
  | _ => rfl

/-- The answers that were delivered are among the notices. -/
theorem Desk.deliveredTo_eq (desk : Desk) (session : Nat) :
    desk.deliveredTo session = (desk.notices session).filterMap Notice.delivered? := by
  rw [deliveredTo, notices, List.filterMap_filterMap]
  exact congrArg (List.filterMap · desk.events) (funext (Event.delivered?_eq session))

theorem Desk.mem_deliveredTo {desk : Desk} {session generation : Nat} :
    generation ∈ desk.deliveredTo session ↔ .delivered generation ∈ desk.notices session := by
  rw [deliveredTo_eq, List.mem_filterMap]
  constructor
  · rintro ⟨notice, hm, hn⟩
    cases notice with
    | settled => cases hn
    | delivered => cases hn; exact hm
  · exact fun hm => ⟨_, hm, rfl⟩

/-- What a move tells the host of a session of its answers. -/
theorem Move.notices_cases {desk after : Desk} {task : Task} {next : List Task}
    (h : Move desk task after next) (session : Nat) :
    (after.notices session = desk.notices session ∧
        after.deliveredTo session = desk.deliveredTo session) ∨
      (∃ generation, task = .call (.state session generation .settled) ∧
        after.notices session = desk.notices session ++ [.settled generation] ∧
        after.deliveredTo session = desk.deliveredTo session) ∨
      ∃ generation groups, task = .call (.results session generation groups) ∧
        after.notices session = desk.notices session ++ [.delivered generation] ∧
        after.deliveredTo session = desk.deliveredTo session ++ [generation] := by
  obtain ⟨call, rfl, he⟩ | ⟨done, he, hn⟩ := h.event_cases
  · have hw : after.notices session =
        desk.notices session ++ [Event.called call].filterMap (Event.notice? session) := by
      rw [Desk.notices, he, List.filterMap_append, Desk.notices]
    have hd : after.deliveredTo session =
        desk.deliveredTo session ++ [Event.called call].filterMap (Event.delivered? session) := by
      rw [Desk.deliveredTo, he, List.filterMap_append, Desk.deliveredTo]
    cases call with
    | state other generation reached =>
      by_cases hr : reached = .settled
      · subst hr
        by_cases ho : other = session
        · subst ho
          exact .inr (.inl ⟨generation, rfl, by simp [hw, Event.notice?],
            by simp [hd, Event.delivered?]⟩)
        · exact .inl ⟨by simp [hw, Event.notice?, ho], by simp [hd, Event.delivered?]⟩
      · exact .inl ⟨by simp [hw, Event.notice?, hr], by simp [hd, Event.delivered?]⟩
    | results other generation groups =>
      by_cases ho : other = session
      · subst ho
        exact .inr (.inr ⟨generation, groups, rfl, by simp [hw, Event.notice?],
          by simp [hd, Event.delivered?]⟩)
      · exact .inl ⟨by simp [hw, Event.notice?, ho], by simp [hd, Event.delivered?, ho]⟩
    | _ => exact .inl ⟨by simp [hw, Event.notice?], by simp [hd, Event.delivered?]⟩
  · have hz (event : Event) (hm : event ∈ done) :
        event.notice? session = none ∧ event.delivered? session = none := by
      cases event with
      | called call => exact absurd hm (hn call)
      | _ => exact ⟨rfl, rfl⟩
    left
    rw [Desk.notices, Desk.deliveredTo, he, List.filterMap_append, List.filterMap_append,
      List.filterMap_eq_nil_iff.2 fun event hm => (hz event hm).1,
      List.filterMap_eq_nil_iff.2 fun event hm => (hz event hm).2, List.append_nil, List.append_nil]
    exact ⟨rfl, rfl⟩

/-- What a move makes of the answers that are about to be delivered to a session. -/
theorem Move.delivered?_cases {desk after : Desk} {task : Task} {next : List Task}
    (h : Move desk task after next) (session : Nat) :
    (next.filterMap (Task.delivered? session) = (task.delivered? session).toList ∧
        ∀ generation groups, task ≠ .call (.results session generation groups)) ∨
      (∃ generation groups, task = .call (.results session generation groups) ∧
        next.filterMap (Task.delivered? session) = []) ∨
      ∃ ticket failures result, task = .settle ticket ∧ ticket.session = session ∧
        .deliver ticket failures result ∈ next ∧
        next.filterMap (Task.delivered? session) = [ticket.generation] := by
  have none (hs : ∀ ticket, task ≠ .settle ticket)
      (hd : ∀ ticket failures result, task ≠ .deliver ticket failures result) :
      next.filterMap (Task.delivered? session) = [] := by
    rw [List.filterMap_eq_nil_iff]
    intro first hm
    cases h.yields hm with
    | deliver => exact absurd rfl (hs _)
    | results => exact absurd rfl (hd _ _ _)
    | _ => rfl
  cases task with
  | call call =>
    have hn := none (by simp) (by simp)
    cases call with
    | results other generation groups =>
      by_cases ho : other = session
      · subst ho
        exact .inr (.inl ⟨generation, groups, rfl, hn⟩)
      · exact .inl ⟨by simp [hn, Task.delivered?, ho], by simp [ho]⟩
    | _ => exact .inl ⟨hn, by simp⟩
  | settle ticket =>
    cases h with
    | settle =>
      by_cases ho : ticket.session = session
      · exact .inr (.inr ⟨ticket, _, _, rfl, ho, List.mem_cons_of_mem _ List.mem_cons_self,
          by simp [List.filterMap_cons, Task.delivered?, ho]⟩)
      · exact .inl ⟨by simp [List.filterMap_cons, Task.delivered?, ho], by simp⟩
    | settleFailed => exact .inl ⟨rfl, by simp⟩
    | settleDropped => exact .inl ⟨rfl, by simp⟩
  | deliver ticket failures result =>
    cases h
    refine .inl ⟨?_, by simp⟩
    have hw : (failures.map fun failure => Task.call (.warning ticket.session ticket.generation
        failure.1 failure.2)).filterMap (Task.delivered? session) = [] := by
      rw [List.filterMap_eq_nil_iff]
      intro task hm
      obtain ⟨_, -, rfl⟩ := List.mem_map.1 hm
      rfl
    rw [Desk.deliver, List.filterMap_append, hw]
    by_cases ho : ticket.session = session <;>
      simp [List.filterMap_cons, Task.delivered?, ho]
  | _ => exact .inl ⟨none (by simp) (by simp), by simp⟩

/-! ## The order of answers -/

/-- Whether the host of a session wants to hear of nothing but results. -/
def Desk.isQuiet (desk : Desk) (session : Nat) : Bool := (desk.sessions[session]?).any (·.quiet)

/-- Whether a task calls the host of a session for what a quiet one does not hear. -/
def Task.Hushed (session : Nat) (task : Task) : Prop :=
  ∃ call, task = .call call ∧ call.session = session ∧ call.occasion ≠ .results ∧
    call.occasion ≠ .diagnostic

/-- Whether the host of a session was told that a query was settled, when some tasks are to be done
before the answer is delivered: it was told, or is told next, or does not want to be told. -/
def Desk.Announced (desk : Desk) (session generation : Nat) (before : List Task) : Prop :=
  .settled generation ∈ desk.notices session ∨
    before = [.call (.state session generation .settled)] ∨
    (desk.isQuiet session = true ∧ ∀ task ∈ before, task.Hushed session)

/-- The order in which the answers of a session are about to be delivered, and were. -/
structure Agenda.Orderly (agenda : Agenda) (session : Nat) : Prop where
  /-- The answer to the latest query is delivered first. -/
  decreasing : (agenda.tasks.filterMap (Task.delivered? session)).Pairwise (· > ·)
  /-- The host is told of a query before the answer is delivered. -/
  announced : ∀ before task later generation, agenda.tasks = before ++ task :: later →
    task.delivered? session = some generation →
    agenda.desk.Announced session generation before
  /-- Answers to later queries were delivered since the host was told of a query. -/
  overtakes : ∀ generation ∈ agenda.tasks.filterMap (Task.delivered? session), ∀ other,
    .delivered other ∈ agenda.desk.notices session → other < generation ∨
      [.settled generation, .delivered other].Sublist (agenda.desk.notices session)
  /-- Only answers to later queries were delivered since the host was told of a query. -/
  later : ∀ generation ∈ agenda.tasks.filterMap (Task.delivered? session), ∀ other,
    [.settled generation, .delivered other].Sublist (agenda.desk.notices session) →
      generation < other
  /-- The answers were delivered in order if none was overtaken. -/
  increasing : ¬agenda.desk.Overtaken session →
    (agenda.desk.deliveredTo session).Pairwise (· < ·)
  /-- Only later queries overtake others. -/
  overtaken : ∀ generation other, [.settled generation, .delivered other,
    .delivered generation].Sublist (agenda.desk.notices session) → generation < other

theorem Task.delivers_of_delivered? {session generation : Nat} {task : Task}
    (h : task.delivered? session = some generation) : task.delivers session generation = true := by
  cases task with
  | call call =>
    cases call with
    | results => simpa [delivered?, delivers, Call.delivers] using h
    | _ => cases h
  | deliver => simpa [delivered?, delivers] using h
  | _ => cases h

/-- A query whose answer was or is about to be delivered was typed, and is not pending any more. -/
theorem Course.not_pendsAt {agenda : Agenda} {past : List Agenda} (h : Course (agenda :: past))
    {session generation : Nat} (hd : 0 < agenda.desk.delivered agenda.tasks session generation) :
    generation ≤ agenda.desk.askers.count session ∧
      agenda.desk.pendsAt session generation = false := by
  have hl := h.deliveries_le session generation
  unfold Desk.deliveries Desk.reached at hl
  split at hl
  · refine ⟨‹_›, ?_⟩
    cases hp : agenda.desk.pendsAt session generation
    · rfl
    · rw [hp, Bool.toNat_true] at hl
      omega
  · omega

theorem Task.tells_of_delivered? {agenda : Agenda} {session generation : Nat} {task : Task}
    (ht : task ∈ agenda.tasks) (hd : task.delivered? session = some generation) :
    agenda.Tells session generation := by
  cases task with
  | call call =>
    cases call with
    | results =>
      refine .inl ⟨_, ?_, .inr ht⟩
      simpa [delivered?, Call.tells] using hd
    | _ => cases hd
  | deliver => exact .inr ⟨_, _, _, ht, by simpa [delivered?] using hd⟩
  | _ => cases hd

/-- The query that is pending is the latest, and its host was told nothing of it. -/
theorem Course.of_pendsAt {agenda : Agenda} {past : List Agenda} (h : Course (agenda :: past))
    {session generation : Nat} (hp : agenda.desk.pendsAt session generation = true) :
    (∀ other ∈ agenda.tasks.filterMap (Task.delivered? session), other < generation) ∧
      (∀ other, .delivered other ∈ agenda.desk.notices session → other < generation) ∧
      .settled generation ∉ agenda.desk.notices session := by
  have hb := hp
  unfold Desk.pendsAt at hb
  obtain ⟨old, hs, hb⟩ := (Option.any_eq_true _ _).1 hb
  obtain ⟨hn, hg⟩ : old.pending.isSome = true ∧ old.generation = generation := by simpa using hb
  obtain ⟨number, hn⟩ := Option.isSome_iff_exists.1 hn
  have ha := h.ledger.session session old hs
  have hc := ha.generation
  have lt {other : Nat} (hd : 0 < agenda.desk.delivered agenda.tasks session other) :
      other < generation := by
    obtain ⟨hle, hq⟩ := h.not_pendsAt hd
    have hne : other ≠ generation := by
      rintro rfl
      rw [hp] at hq
      cases hq
    omega
  refine ⟨?_, ?_, ?_⟩
  · intro other ho
    obtain ⟨task, ht, hd⟩ := List.mem_filterMap.1 ho
    have hc : 0 < agenda.tasks.countP (·.delivers session other) :=
      List.countP_pos_iff.2 ⟨task, ht, Task.delivers_of_delivered? hd⟩
    exact lt (Nat.lt_of_lt_of_le hc (Nat.le_add_left _ _))
  · intro other ho
    obtain ⟨event, he, hd⟩ := List.mem_filterMap.1 ho
    obtain ⟨groups, rfl⟩ := Event.notice?_eq_delivered.1 hd
    have hc : 0 < agenda.desk.events.countP (·.delivers session other) :=
      List.countP_pos_iff.2 ⟨_, he, by simp [Event.delivers, Call.delivers]⟩
    exact lt (Nat.lt_of_lt_of_le hc (Nat.le_add_right _ _))
  · -- a query that its host was told of is kept, and so it is not pending
    intro hs'
    obtain ⟨event, he, hd⟩ := List.mem_filterMap.1 hs'
    obtain rfl := Event.notice?_eq_settled.1 hd
    have ht : agenda.Tells session generation := .inl ⟨_, by simp [Call.tells], .inl he⟩
    obtain ⟨other, ho, hw, -⟩ := h.keeps_of_tells ht
    have hq := ha.pending number hn
    rw [hg] at hq
    obtain rfl := ho.unique hq
    rw [h.ledger.awaits_of_pending hs hn] at hw
    cases hw

/-- A call that a quiet session does not hear changes nothing. -/
theorem Move.eq_of_hushed {desk after : Desk} {task : Task} {next : List Task}
    (h : Move desk task after next) {session : Nat} (hq : desk.isQuiet session = true)
    (ht : task.Hushed session) : after = desk ∧ next = [] := by
  obtain ⟨call, rfl, rfl, hr, hd⟩ := ht
  obtain ⟨old, hs, hq⟩ := (Option.any_eq_true _ _).1 hq
  cases h with
  | call _ ho hh =>
    obtain rfl := Option.some.inj (hs.symm.trans ho)
    simp [Session.hears, hq, hr] at hh
  | callUnheard => exact ⟨rfl, rfl⟩
  | callDiagnostic => exact absurd rfl hd

/-- The host of a session is told that a query was settled, unless it does not want to be told. -/
theorem Move.announced_of_state {desk after : Desk} {next : List Task} {session generation : Nat}
    {old : Session} (h : Move desk (.call (.state session generation .settled)) after next)
    (hs : desk.sessions[session]? = some old) :
    .settled generation ∈ after.notices session ∨
      (after.isQuiet session = true ∧ next = []) := by
  cases h with
  | call =>
    left
    simp [Desk.notices, Event.notice?]
  | callUnheard _ hh =>
    have hq : old.quiet = true := by simpa [Session.hears, Call.occasion] using hh old hs
    exact .inr ⟨by rw [Desk.isQuiet, hs, Option.any_some, hq], rfl⟩

/-! ## What moves do to the order of answers -/

section Step

variable {desk after : Desk} {task : Task} {tasks next : List Task} {escaped : Option Fault}
  {past : List Agenda} {session : Nat}

theorem filterMap_delivered?_cons (session : Nat) (task : Task) (tasks : List Task) :
    (task :: tasks).filterMap (Task.delivered? session) =
      (task.delivered? session).toList ++ tasks.filterMap (Task.delivered? session) := by
  cases h : task.delivered? session <;> simp [h]

/-- A query that is settled in a move was pending. -/
theorem Move.pendsAt_of_deliver {ticket : Ticket} {failures : List (String × String)}
    {result : Result} (hm : Move desk task after next)
    (hd : .deliver ticket failures result ∈ next) :
    desk.pendsAt ticket.session ticket.generation = true := by
  obtain ⟨-, old, hs, hg, hp, -⟩ := hm.deliver_cases hd
  rw [Desk.pendsAt_of_session hs, hp, hg]
  simp

theorem Move.decreasing (hm : Move desk task after next)
    (h : Course (⟨desk, task :: tasks, escaped⟩ :: past))
    (ho : Agenda.Orderly ⟨desk, task :: tasks, escaped⟩ session) :
    ((next ++ tasks).filterMap (Task.delivered? session)).Pairwise (· > ·) := by
  have hd := ho.decreasing
  dsimp only at hd
  rw [filterMap_delivered?_cons] at hd
  rw [List.filterMap_append]
  obtain ⟨hn, -⟩ | ⟨generation, groups, rfl, hn⟩ | ⟨ticket, _, _, rfl, rfl, hm', hn⟩ :=
    hm.delivered?_cases session
  · rwa [hn]
  · rw [hn]
    exact (List.pairwise_append.1 hd).2.1
  · rw [hn]
    have hp := h.of_pendsAt (hm.pendsAt_of_deliver hm')
    exact List.pairwise_cons.2 ⟨hp.1, hd⟩

/-- When an answer is delivered, the hosts were told of the queries whose answers come later. -/
theorem Agenda.Orderly.settled_of_results {generation number : Nat} {groups : List Group}
    (ho : Agenda.Orderly
      ⟨desk, .call (.results session number groups) :: tasks, escaped⟩ session)
    (hg : generation ∈ tasks.filterMap (Task.delivered? session)) :
    .settled generation ∈ desk.notices session ∧ generation < number := by
  constructor
  · obtain ⟨first, hf, hd⟩ := List.mem_filterMap.1 hg
    obtain ⟨before, later, rfl⟩ := List.append_of_mem hf
    obtain hs | he | ⟨-, hq⟩ := ho.announced (_ :: before) first later generation rfl hd
    · exact hs
    · cases he
    · obtain ⟨call, he, -, hr, -⟩ := hq _ List.mem_cons_self
      cases he
      exact absurd rfl hr
  · have hd := ho.decreasing
    dsimp only at hd
    rw [filterMap_delivered?_cons] at hd
    exact (List.pairwise_append.1 hd).2.2 number (by simp [Task.delivered?]) generation hg

theorem Move.notices_prefix (hm : Move desk task after next) (session : Nat) :
    desk.notices session <+: after.notices session := by
  obtain ⟨he, -⟩ | ⟨_, -, he, -⟩ | ⟨_, _, -, he, -⟩ := hm.notices_cases session
  · exact he ▸ List.prefix_rfl
  · exact ⟨_, he.symm⟩
  · exact ⟨_, he.symm⟩

/-- The tasks before the delivery of an answer are those by which the host is warned. -/
theorem warnings_of_deliver {ticket : Ticket} {failures : List (String × String)} {result : Result}
    {before later : List Task} {first : Task} {generation : Nat}
    (he : Desk.deliver ticket failures result = before ++ first :: later)
    (hf : first.delivered? session = some generation) :
    ticket.session = session ∧ ticket.generation = generation ∧
      ∀ task ∈ before, task.Hushed session := by
  have found (hb : before = failures.map fun failure => Task.call (.warning ticket.session
        ticket.generation failure.1 failure.2))
      (hr : first = .call (.results ticket.session ticket.generation result.groups)) :
      ticket.session = session ∧ ticket.generation = generation ∧
        ∀ task ∈ before, task.Hushed session := by
    obtain ⟨hs, hg⟩ : ticket.session = session ∧ ticket.generation = generation := by
      simpa [hr, Task.delivered?] using hf
    refine ⟨hs, hg, ?_⟩
    intro task hm
    obtain ⟨failure, -, rfl⟩ := List.mem_map.1 (hb ▸ hm)
    exact ⟨_, rfl, hs, by simp [Call.occasion], by simp [Call.occasion]⟩
  obtain ⟨middle, hb, hr⟩ | ⟨middle, hw, hr⟩ := List.append_eq_append_iff.1 he
  · cases middle with
    | nil => exact found (by simpa using hb) (List.cons.inj hr).1.symm
    | cons other middle =>
      -- the answer is not delivered by what concludes it
      obtain ⟨-, hr⟩ := List.cons.inj hr
      cases middle with
      | nil =>
        rw [← (List.cons.inj hr).1] at hf
        cases hf
      | cons => simp at hr
  · cases middle with
    | nil => exact found (by simpa using hw.symm) (List.cons.inj hr).1
    | cons other middle =>
      obtain ⟨failure, -, he⟩ := List.mem_map.1 (hw ▸ List.mem_append_right _ List.mem_cons_self)
      rw [(List.cons.inj hr).1, ← he] at hf
      cases hf

/-- The answers that are still to be delivered remain announced. -/
theorem Move.announced_of_tasks (hm : Move desk task after next)
    (h : Course (⟨desk, task :: tasks, escaped⟩ :: past))
    (ho : Agenda.Orderly ⟨desk, task :: tasks, escaped⟩ session) {before later : List Task}
    {first : Task} {generation : Nat} (he : tasks = before ++ first :: later)
    (hf : first.delivered? session = some generation) :
    after.Announced session generation (next ++ before) := by
  have hmem : first ∈ task :: tasks := by simp [he]
  obtain hs | hb | ⟨hq, hh⟩ := ho.announced (task :: before) first later generation
    (by rw [he, List.cons_append]) hf
  · exact .inl ((hm.notices_prefix session).subset hs)
  · obtain ⟨rfl, rfl⟩ := List.cons.inj hb
    have ht : Agenda.Tells ⟨desk, _ :: tasks, escaped⟩ session generation :=
      Task.tells_of_delivered? hmem hf
    obtain ⟨number, hn, -⟩ := h.keeps_of_tells ht
    have hl := h.ledger.asker_lt session (List.mem_of_getElem? hn.1)
    obtain hs | ⟨hq, rfl⟩ := hm.announced_of_state (List.getElem?_eq_getElem hl)
    · exact .inl hs
    · exact .inr (.inr ⟨hq, by simp⟩)
  · obtain ⟨rfl, rfl⟩ := hm.eq_of_hushed hq (hh task List.mem_cons_self)
    exact .inr (.inr ⟨hq, fun other hm => hh other (List.mem_cons_of_mem _ hm)⟩)

theorem Move.announced (hm : Move desk task after next)
    (h : Course (⟨desk, task :: tasks, escaped⟩ :: past))
    (ho : Agenda.Orderly ⟨desk, task :: tasks, escaped⟩ session) {before later : List Task}
    {first : Task} {generation : Nat} (he : next ++ tasks = before ++ first :: later)
    (hf : first.delivered? session = some generation) :
    after.Announced session generation before := by
  obtain ⟨middle, rfl, ht⟩ | ⟨middle, hn, ht⟩ := List.append_eq_append_iff.1 he
  · exact hm.announced_of_tasks h ho ht hf
  cases middle with
  | nil =>
    rw [List.append_nil] at hn
    rw [← hn, ← List.append_nil next]
    exact hm.announced_of_tasks h ho ht.symm hf
  | cons other middle =>
    -- the delivery comes of the move itself: the query is settled, or the answer is told
    obtain ⟨rfl, -⟩ := List.cons.inj ht
    have hmem : first ∈ next := by simp [hn]
    cases hm.yields hmem with
    | deliver =>
      obtain ⟨-, _, -, -, -, -, hl, -⟩ := hm.deliver_cases hmem
      obtain ⟨hs, hg⟩ : _ = session ∧ _ = generation := by simpa [Task.delivered?] using hf
      rw [hl] at hn
      cases before with
      | nil => cases (List.cons.inj hn).1
      | cons other before =>
        obtain ⟨rfl, hn⟩ := List.cons.inj hn
        cases before with
        | nil => exact .inr (.inl (by rw [hs, hg]))
        | cons => simp at hn
    | results =>
      cases hm
      obtain ⟨hs, hg, hw⟩ := warnings_of_deliver hn hf
      obtain hs | hb | ⟨hq, -⟩ := ho.announced [] _ _ generation rfl
        (by simp [Task.delivered?, hs, hg])
      · exact .inl hs
      · cases hb
      · exact .inr (.inr ⟨hq, hw⟩)
    | _ => cases hf

/-- An answer that is about to be delivered was so before, or its query was pending. -/
theorem Move.mem_delivered? (hm : Move desk task after next) {generation : Nat}
    (hg : generation ∈ (next ++ tasks).filterMap (Task.delivered? session)) :
    generation ∈ (task :: tasks).filterMap (Task.delivered? session) ∨
      desk.pendsAt session generation = true := by
  rw [filterMap_delivered?_cons, List.mem_append]
  rw [List.filterMap_append, List.mem_append] at hg
  rcases hg with hg | hg
  · obtain ⟨hn, -⟩ | ⟨_, _, rfl, hn⟩ | ⟨ticket, _, _, rfl, rfl, hd, hn⟩ :=
      hm.delivered?_cases session
    · exact .inl (.inl (hn ▸ hg))
    · rw [hn] at hg
      cases hg
    · rw [hn, List.mem_singleton] at hg
      exact .inr (hg ▸ hm.pendsAt_of_deliver hd)
  · exact .inl (.inr hg)

/-- Nothing that comes of delivering an answer delivers another. -/
theorem Move.mem_delivered?_of_results {number generation : Nat} {groups : List Group}
    (hm : Move desk (.call (.results session number groups)) after next)
    (hg : generation ∈ (next ++ tasks).filterMap (Task.delivered? session)) :
    generation ∈ tasks.filterMap (Task.delivered? session) := by
  rw [List.filterMap_append, List.mem_append] at hg
  apply hg.resolve_left
  intro hg
  obtain ⟨-, hn⟩ | ⟨_, _, -, hn⟩ | ⟨_, _, _, he, -⟩ := hm.delivered?_cases session
  · exact hn _ _ rfl
  · rw [hn] at hg
    cases hg
  · cases he

theorem Move.overtakes (hm : Move desk task after next)
    (h : Course (⟨desk, task :: tasks, escaped⟩ :: past))
    (ho : Agenda.Orderly ⟨desk, task :: tasks, escaped⟩ session) {generation other : Nat}
    (hg : generation ∈ (next ++ tasks).filterMap (Task.delivered? session))
    (hd : .delivered other ∈ after.notices session) : other < generation ∨
      [.settled generation, .delivered other].Sublist (after.notices session) := by
  have old (hd : .delivered other ∈ desk.notices session) : other < generation ∨
      [.settled generation, .delivered other].Sublist (after.notices session) := by
    obtain hg | hp := hm.mem_delivered? hg
    · exact (ho.overtakes generation hg other hd).imp_right
        fun hs => hs.trans (hm.notices_prefix session).sublist
    · exact .inl ((h.of_pendsAt hp).2.1 other hd)
  obtain ⟨he, -⟩ | ⟨_, -, he, -⟩ | ⟨number, groups, rfl, he, -⟩ := hm.notices_cases session
  · exact old (he ▸ hd)
  · exact old (by simpa [he] using hd)
  · rw [he, List.mem_append, List.mem_singleton] at hd
    obtain hd | hd := hd
    · exact old hd
    · cases hd
      obtain ⟨hs, -⟩ := ho.settled_of_results (hm.mem_delivered?_of_results hg)
      rw [he]
      exact .inr ((List.singleton_sublist.2 hs).append (List.Sublist.refl [_]))

theorem Move.later (hm : Move desk task after next)
    (h : Course (⟨desk, task :: tasks, escaped⟩ :: past))
    (ho : Agenda.Orderly ⟨desk, task :: tasks, escaped⟩ session) {generation other : Nat}
    (hg : generation ∈ (next ++ tasks).filterMap (Task.delivered? session))
    (hs : [.settled generation, .delivered other].Sublist (after.notices session)) :
    generation < other := by
  have old (hs : [.settled generation, .delivered other].Sublist (desk.notices session)) :
      generation < other := by
    obtain hg | hp := hm.mem_delivered? hg
    · exact ho.later generation hg other hs
    · exact absurd (hs.subset List.mem_cons_self) (h.of_pendsAt hp).2.2
  obtain ⟨he, -⟩ | ⟨_, -, he, -⟩ | ⟨number, groups, rfl, he, -⟩ := hm.notices_cases session
  · exact old (he ▸ hs)
  · rw [he] at hs
    obtain hs | ⟨hn, -⟩ := sublist_concat_cases [Notice.settled generation] hs
    · exact old hs
    · cases hn
  · rw [he] at hs
    obtain hs | ⟨hn, -⟩ := sublist_concat_cases [Notice.settled generation] hs
    · exact old hs
    · cases hn
      exact (ho.settled_of_results (hm.mem_delivered?_of_results hg)).2

theorem Move.increasing (hm : Move desk task after next)
    (ho : Agenda.Orderly ⟨desk, task :: tasks, escaped⟩ session)
    (hn : ¬after.Overtaken session) : (after.deliveredTo session).Pairwise (· < ·) := by
  have old := ho.increasing fun ⟨generation, other, hs⟩ =>
    hn ⟨generation, other, hs.trans (hm.notices_prefix session).sublist⟩
  obtain ⟨-, he⟩ | ⟨_, -, -, he⟩ | ⟨number, groups, rfl, hw, he⟩ := hm.notices_cases session
  · rwa [he]
  · rwa [he]
  · -- the answer that is delivered now comes after all others, or one of them overtook it
    rw [he]
    refine List.pairwise_append.2 ⟨old, List.pairwise_singleton _ _, ?_⟩
    intro other hd last hl
    rw [List.mem_singleton.1 hl]
    have hg : number ∈ (Task.call (.results session number groups) :: tasks).filterMap
        (Task.delivered? session) :=
      List.mem_filterMap.2 ⟨_, List.mem_cons_self, by simp [Task.delivered?]⟩
    apply (ho.overtakes number hg other (Desk.mem_deliveredTo.1 hd)).resolve_right
    intro hs
    refine hn ⟨number, other, ?_⟩
    rw [hw]
    exact hs.append (List.Sublist.refl [_])

theorem Move.overtaken (hm : Move desk task after next)
    (ho : Agenda.Orderly ⟨desk, task :: tasks, escaped⟩ session) {generation other : Nat}
    (hs : [.settled generation, .delivered other, .delivered generation].Sublist
      (after.notices session)) : generation < other := by
  obtain ⟨he, -⟩ | ⟨_, -, he, -⟩ | ⟨number, groups, rfl, he, -⟩ := hm.notices_cases session
  · exact ho.overtaken generation other (he ▸ hs)
  · rw [he] at hs
    obtain hs | ⟨hn, -⟩ :=
      sublist_concat_cases [Notice.settled generation, .delivered other] hs
    · exact ho.overtaken generation other hs
    · cases hn
  · rw [he] at hs
    obtain hs | ⟨hn, hp⟩ :=
      sublist_concat_cases [Notice.settled generation, .delivered other] hs
    · exact ho.overtaken generation other hs
    · cases hn
      exact ho.later _ (List.mem_filterMap.2 ⟨_, List.mem_cons_self, by simp [Task.delivered?]⟩)
        other hp

end Step

/-- A fault that takes its way leaves no more answers to be delivered than there were. -/
theorem filterMap_delivered?_unwind (session : Nat) (fault : Fault) (tasks : List Task) :
    ((unwind fault tasks).1.filterMap (Task.delivered? session)).Sublist
      (tasks.filterMap (Task.delivered? session)) := by
  have sub {passed rest : List Task} {task : Task} :
      (rest.filterMap (Task.delivered? session)).Sublist
        ((passed ++ task :: rest).filterMap (Task.delivered? session)) :=
    ((List.sublist_cons_self task rest).trans (List.sublist_append_right passed _)).filterMap _
  obtain ⟨hn, -⟩ | ⟨passed, rest, -, ⟨rfl, hu⟩ | ⟨number, result, rfl, hu⟩⟩ :=
    unwind_cases fault tasks
  · rw [hn]
    exact List.nil_sublist _
  · rw [hu]
    exact sub
  · rw [hu, List.filterMap_cons_none rfl]
    exact sub

/-- What is still to be delivered after a fault took its way was announced. -/
theorem Agenda.Orderly.settled_of_unwind {desk : Desk} {fault : Fault} {tasks : List Task}
    {escaped : Option Fault} {session generation : Nat}
    (ho : Agenda.Orderly ⟨desk, .raise fault :: tasks, escaped⟩ session)
    (hg : generation ∈ tasks.filterMap (Task.delivered? session)) :
    .settled generation ∈ desk.notices session := by
  obtain ⟨first, hf, hd⟩ := List.mem_filterMap.1 hg
  obtain ⟨before, later, rfl⟩ := List.append_of_mem hf
  obtain hs | he | ⟨-, hq⟩ := ho.announced (_ :: before) first later generation rfl hd
  · exact hs
  · cases he
  · obtain ⟨_, he, -⟩ := hq _ List.mem_cons_self
    cases he

theorem Agenda.Step.orderly {agenda after : Agenda} {past : List Agenda} {session : Nat}
    (h : Course (agenda :: past)) (hs : agenda.Step after) (ho : agenda.Orderly session) :
    after.Orderly session := by
  cases hs with
  | move hm => exact
    { decreasing := hm.decreasing h ho
      announced := fun _ _ _ _ he hf => hm.announced h ho he hf
      overtakes := fun _ hg _ hd => hm.overtakes h ho hg hd
      later := fun _ hg _ hs => hm.later h ho hg hs
      increasing := hm.increasing ho
      overtaken := fun _ _ hs => hm.overtaken ho hs }
  | @raise desk fault tasks escaped =>
    have hsub := filterMap_delivered?_unwind session fault tasks
    have hd : (tasks.filterMap (Task.delivered? session)).Pairwise (· > ·) := ho.decreasing
    exact
      { decreasing := hd.sublist hsub
        announced := fun before first later generation he hf => by
          have he : (unwind fault tasks).1 = before ++ first :: later := he
          exact .inl (ho.settled_of_unwind (hsub.subset
            (List.mem_filterMap.2 ⟨first, by rw [he]; simp, hf⟩)))
        overtakes := fun generation hg => ho.overtakes generation (hsub.subset hg)
        later := fun generation hg => ho.later generation (hsub.subset hg)
        increasing := ho.increasing
        overtaken := ho.overtaken }

theorem Begins.orderly {agenda after : Agenda} {session : Nat} (h : Begins agenda.desk after)
    (ho : agenda.Orderly session) : after.Orderly session := by
  have hn : after.tasks.filterMap (Task.delivered? session) = [] := by
    cases h <;> rfl
  have hd : after.desk.notices session = agenda.desk.notices session := by
    rw [Desk.notices, h.frame.events, Desk.notices]
  refine ⟨by rw [hn]; exact .nil, ?_, by simp [hn], by simp [hn], ?_,
    by rw [hd]; exact ho.overtaken⟩
  · intro before first later generation he hf
    have hm : generation ∈ after.tasks.filterMap (Task.delivered? session) :=
      List.mem_filterMap.2 ⟨first, by rw [he]; simp, hf⟩
    rw [hn] at hm
    cases hm
  · rw [Desk.Overtaken, hd, Desk.deliveredTo, h.frame.events]
    exact ho.increasing

theorem Course.orderly {agenda : Agenda} {past : List Agenda} (h : Course (agenda :: past))
    (session : Nat) : agenda.Orderly session := by
  induction h using Course.induct with
  | opened => exact ⟨.nil, by simp, by simp, by simp, fun _ => .nil, by simp [Desk.notices]⟩
  | worked hc hs ih => exact hs.orderly hc ih
  | began _ _ hb ih => exact hb.orderly ih

/-- Throughout every course, the answers of a session are delivered in the order of its queries if
and only if no answer is delivered between the news that another query was settled and the answer to
that one. -/
theorem Course.increasing_iff_not_overtaken {agenda : Agenda} {past : List Agenda}
    (h : Course (agenda :: past)) (session : Nat) :
    (agenda.desk.deliveredTo session).Pairwise (· < ·) ↔ ¬agenda.desk.Overtaken session := by
  constructor
  · rintro hp ⟨generation, other, hs⟩
    -- it is a later query that overtakes, and its answer comes first
    have hlt := (h.orderly session).overtaken generation other hs
    have hd : [other, generation].Sublist (agenda.desk.deliveredTo session) := by
      rw [Desk.deliveredTo_eq]
      exact hs.filterMap Notice.delivered?
    have hgt := (List.pairwise_cons.1 (hp.sublist hd)).1 generation (by simp)
    omega
  · exact (h.orderly session).increasing

/-- Two queries of which each is answered before the next one is typed do not overtake. -/
theorem Course.not_overtaken_of_two :
    let course := sampleCourse [.openSession {}, .type 0 (some "a") none, .drain,
      .type 0 (some "al") none]
    course.1.desk.deliveredTo 0 = [1, 2] ∧ ¬course.1.desk.Overtaken 0 := by
  intro course
  have h : Course (course.1 :: course.2) := Course.sample _
  have delivered : course.1.desk.deliveredTo 0 = [1, 2] := by decide +kernel
  exact ⟨delivered, (h.increasing_iff_not_overtaken 0).1 (by rw [delivered]; decide)⟩

/-- A host that types a query when it is told that an earlier one was settled is given the answer to
the later one first. -/
theorem Course.not_increasing_of_reaction :
    let rule : Rule := { on := .state, nth := 2, submits := some "al" }
    let course := sampleCourse [.openSession { rules := [rule] }, .ask ["symbols_0"], .drain,
      .type 0 (some "a") none]
    Course (course.1 :: course.2) ∧ course.1.tasks = [] ∧
      course.1.desk.deliveredTo 0 = [2, 1] ∧
      ¬(course.1.desk.deliveredTo 0).Pairwise (· < ·) := by
  intro rule course
  have delivered : course.1.desk.deliveredTo 0 = [2, 1] := by decide +kernel
  exact ⟨Course.sample _, by decide +kernel, delivered, by rw [delivered]; decide⟩

end SymbolLookup

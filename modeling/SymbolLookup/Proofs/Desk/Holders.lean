import SymbolLookup.Proofs.Desk.Ledger
/-!
# Who holds an outcome

An outcome that is owed passes from hand to hand: its query is pending in a session, then a task is
about to settle it, and in the end it is answered. At no time two hands hold it.

## Main definitions

* `Desk.awaits`: whether the query of an outcome is pending.
* `Task.holds`: whether a task is about to settle an outcome.
* `Agenda.holders`: how many hands hold an outcome.

## Main results

* `Move.holders`: a move passes an outcome on, and lets go of it only if it is no longer owed.
* `Course.holders_le`: no outcome is in two hands.

## Design notes

A host may cancel an outcome at any time, whoever holds it. So an outcome that was cancelled counts
for nothing here.
-/

namespace SymbolLookup

namespace Desk

/-- The session into which the query of an outcome was typed. -/
def asker? (desk : Desk) (number : Nat) : Option Session :=
  desk.askers[number]?.bind fun session => desk.sessions[session]?

/-- Whether the query of an outcome is pending. -/
def awaits (desk : Desk) (number : Nat) : Bool :=
  (desk.asker? number).any fun session => session.pending == some number

/-- Whether an outcome is settled otherwise than by the host. -/
def hasAnswered (desk : Desk) (number : Nat) : Bool :=
  (desk.answer? number).any fun answered => answered != .cancelled

/-- How many outcomes are owed under a number. -/
def owes (desk : Desk) (number : Nat) : Nat := if number < desk.askers.length then 1 else 0

end Desk

/-- Whether a task is about to settle an outcome otherwise than by cancelling it. -/
def Task.holds (number : Nat) : Task → Bool
  | .resolve outcome answered => outcome == number && answered != .cancelled
  | .conclude outcome _ => outcome == number
  | .deliver ticket _ _ => ticket.outcome == number
  | _ => false

/-- How many hands hold an outcome while some tasks are to be done. -/
def Desk.holders (desk : Desk) (tasks : List Task) (number : Nat) : Nat :=
  (desk.awaits number).toNat + (desk.hasAnswered number).toNat + tasks.countP (·.holds number)

namespace Desk

variable {desk after : Desk} {number : Nat}

theorem awaits_iff : desk.awaits number = true ↔
    ∃ session, desk.asker? number = some session ∧ session.pending = some number := by
  unfold awaits
  cases desk.asker? number <;> simp

theorem asker?_eq_some {session : Session} : desk.asker? number = some session ↔
    ∃ asker, desk.askers[number]? = some asker ∧ desk.sessions[asker]? = some session := by
  unfold asker?
  cases desk.askers[number]? <;> simp

theorem lt_length_of_awaits (h : desk.awaits number = true) : number < desk.askers.length := by
  obtain ⟨session, hs, -⟩ := awaits_iff.1 h
  obtain ⟨asker, ha, -⟩ := asker?_eq_some.1 hs
  exact (List.getElem?_eq_some_iff.1 ha).1

/-- Whether a query is pending depends on the sessions only. -/
theorem awaits_congr (ha : after.askers = desk.askers) (hs : after.sessions = desk.sessions) :
    after.awaits number = desk.awaits number := by
  simp only [awaits, asker?, ha, hs]

theorem hasAnswered_congr (ho : after.outcomes = desk.outcomes) :
    after.hasAnswered number = desk.hasAnswered number := by
  simp only [hasAnswered, answer?, ho]

/-- What becomes of a pending query when one session changes. -/
theorem awaits_setSession (number : Nat) {place : Nat} {session : Session}
    (hs : desk.sessions[place]? = some session) (other : Session) :
    (desk.setSession place other).awaits number =
      if desk.askers[number]? = some place then other.pending == some number
      else desk.awaits number := by
  have hl := (List.getElem?_eq_some_iff.1 hs).1
  have ha : (desk.setSession place other).askers = desk.askers := rfl
  rw [awaits, awaits, asker?, asker?, ha, setSession_sessions]
  split
  · rename_i hp
    simp [hp, List.getElem?_set_self hl]
  · rename_i hp
    cases hn : desk.askers[number]? with
    | none => simp
    | some asker =>
      have hne : place ≠ asker := by
        rintro rfl
        exact hp hn
      simp [List.getElem?_set_ne hne]

theorem awaits_of_asker {place : Nat} {session : Session} (hn : desk.askers[number]? = some place)
    (hs : desk.sessions[place]? = some session) :
    desk.awaits number = (session.pending == some number) := by
  simp [awaits, asker?, hn, hs]

theorem Ledger.awaits_of_pending (hl : desk.Ledger) {place : Nat} {session : Session}
    (hs : desk.sessions[place]? = some session) (hp : session.pending = some number) :
    desk.awaits number = true := by
  rw [awaits_of_asker ((hl.session place session hs).pending number hp).1 hs, hp]
  exact beq_self_eq_true _

theorem answer?_note {place : Nat} {outcome other : Outcome} (done : List Event)
    (ho : desk.outcomes[place]? = some outcome) :
    (desk.note place other done).answer? number =
      if number = place then other.answered else desk.answer? number := by
  unfold answer?
  rw [note_outcomes, List.getElem?_set]
  split
  · rename_i hp
    rw [if_pos (List.getElem?_eq_some_iff.1 ho).1, if_pos hp.symm, Option.bind_some]
  · rename_i hp
    rw [if_neg fun e => hp e.symm]

theorem answer?_owe (outcome : Outcome) (hw : outcome.answered = none) :
    (desk.owe outcome).answer? number = desk.answer? number := by
  simp only [answer?, owe_outcomes, List.getElem?_append]
  split
  · rfl
  · rename_i hl
    rw [List.getElem?_eq_none (Nat.le_of_not_lt hl), List.getElem?_singleton]
    split <;> simp [hw]

theorem awaits_owe (outcome : Outcome) :
    (desk.owe outcome).awaits number =
      if number = desk.askers.length then
        (desk.sessions[outcome.session]?).any fun session => session.pending == some number
      else desk.awaits number := by
  have ha : (desk.owe outcome).askers = desk.askers ++ [outcome.session] := by simp [askers]
  unfold awaits asker?
  rw [ha, owe_sessions]
  split
  · rename_i hn
    rw [hn, List.getElem?_concat_length, Option.bind_some]
  · rename_i hn
    rcases Nat.lt_or_ge number desk.askers.length with hlt | hge
    · rw [List.getElem?_append_left hlt]
    · rw [List.getElem?_eq_none (by simp; omega), List.getElem?_eq_none hge]

theorem owes_le (desk : Desk) (number : Nat) : desk.owes number ≤ 1 := by
  unfold owes
  split <;> omega

theorem lt_length_of_owes (h : 0 < desk.owes number) : number < desk.askers.length := by
  unfold owes at h
  split at h
  · assumption
  · cases h

/-- An outcome that is settled is answered, unless it was cancelled. -/
theorem hasAnswered_of_answer? {answered : Answered} (ha : desk.answer? number = some answered)
    (hc : answered ≠ .cancelled) : desk.hasAnswered number = true := by
  simpa [hasAnswered, ha] using hc

theorem length_askers : desk.askers.length = desk.outcomes.length := by simp [askers]

theorem owes_owe (outcome : Outcome) :
    (desk.owe outcome).owes number =
      if number = desk.outcomes.length then 1 else desk.owes number := by
  have hl : (desk.owe outcome).askers.length = desk.askers.length + 1 := by simp [askers]
  rw [owes, owes, hl, length_askers]
  by_cases hn : number = desk.outcomes.length
  · rw [if_pos hn, if_pos (by omega)]
  · rw [if_neg hn]
    rcases Nat.lt_or_ge number desk.outcomes.length with hlt | hge
    · rw [if_pos hlt, if_pos (by omega)]
    · rw [if_neg (by omega), if_neg (by omega)]

theorem isOwed_eq_true : desk.isOwed number = true ↔
    number < desk.askers.length ∧ desk.answer? number = none := by
  rw [length_askers, isOwed, answer?]
  rcases Nat.lt_or_ge number desk.outcomes.length with hlt | hge
  · simp [hlt]
  · simp [Nat.not_lt.2 hge]

/-- A query that is typed takes over from the one that is pending, if that is still owed. -/
theorem countP_submitTasks (place : Nat) (session : Session) (query : Option String) :
    (desk.submitTasks place session query).countP (·.holds number) =
      (if session.pending = some number ∧ desk.isOwed number = true then 1 else 0) +
        if queryKey query = "" ∧ number = desk.outcomes.length then 1 else 0 := by
  have hd : ((desk.superseded? session).toList.map fun pending =>
      Task.resolve pending .superseded).countP (·.holds number) =
      if session.pending = some number ∧ desk.isOwed number = true then 1 else 0 := by
    unfold superseded?
    cases session.pending with
    | none => simp
    | some pending =>
      by_cases ho : desk.isOwed pending = true
      · by_cases hp : pending = number
        · subst hp
          simp [Option.filter, ho, Task.holds]
        · simp [Option.filter, ho, Task.holds, hp]
      · by_cases hp : pending = number
        · subst hp
          simp [Option.filter, ho]
        · simp [Option.filter, ho, hp]
  unfold submitTasks
  simp only [List.countP_append, List.countP_cons, List.countP_nil, hd]
  have hc : ((desk.superseded? session).toList.map fun _ =>
      Task.call (.state place session.generation .cancelled)).countP (·.holds number) = 0 := by
    simp [List.countP_eq_zero, Task.holds]
  rw [hc]
  by_cases hk : queryKey query = ""
  · by_cases hn : number = desk.outcomes.length
    · simp [hk, hn, Task.holds]
    · simp [hk, hn, Task.holds, Ne.symm hn]
  · simp [hk, Task.holds]

end Desk

/-- No tasks in a row are about to settle an outcome. -/
theorem countP_holds_eq_zero {number : Nat} {next : List Task}
    (h : ∀ task ∈ next, task.holds number = false) : next.countP (·.holds number) = 0 := by
  rw [List.countP_eq_zero]
  intro task ht
  simp [h task ht]

theorem Task.eq_of_holds_resolve {place number : Nat} {answered : Answered}
    (h : (Task.resolve place answered).holds number = true) : place = number := by
  simp only [holds, Bool.and_eq_true, beq_iff_eq] at h
  exact h.1

theorem countP_holds_reactions (number session : Nat) (occasion : Occasion) (rules : List Rule) :
    (reactions session occasion rules).countP (·.holds number) = 0 :=
  countP_holds_eq_zero fun task ht => by
    obtain ⟨_, _, _, rfl⟩ | ⟨_, rfl⟩ := reactions_cases ht <;> rfl

theorem FollowsUp.countP_holds {next : List Task} (h : FollowsUp next) (number : Nat) :
    next.countP (·.holds number) = 0 := by
  obtain rfl | ⟨typed, ht, rfl⟩ := h
  · rfl
  · refine countP_holds_eq_zero fun task hm => ?_
    rcases List.mem_append.1 hm with hm | hm
    · obtain ⟨_, _, _, rfl⟩ := ht task hm
      rfl
    · rw [List.mem_singleton.1 hm]
      rfl

namespace Desk

variable {desk after : Desk} {tasks : List Task} {number : Nat}

/-- The hands that hold an outcome when no session, no answer and no such task changes. -/
theorem holders_congr (hs : after.sessions = desk.sessions) (ho : after.outcomes = desk.outcomes)
    {next : List Task} (hc : next.countP (·.holds number) = tasks.countP (·.holds number)) :
    after.holders next number + desk.owes number =
      desk.holders tasks number + after.owes number := by
  have ha : after.askers = desk.askers := by rw [askers, ho, askers]
  rw [holders, holders, awaits_congr ha hs, hasAnswered_congr ho, hc, owes, owes, ha]

end Desk

theorem Session.pending_submit (session : Session) (key : String) (outcome : Nat)
    (supersedes : Bool) : (session.submit key outcome supersedes).pending =
      if key = "" then none else some outcome := rfl

/-- A query that is typed takes an outcome of its own into its hands. -/
theorem Desk.holders_submit {desk : Desk} {place : Nat} {session : Session}
    (hs : desk.sessions[place]? = some session) (ha : session.Agrees desk.askers place)
    (query : Option String) (followUp : Option FollowUp) (number : Nat) :
    let after := (desk.setSession place (desk.submitted session query)).owe
      { session := place, followUp }
    let next := desk.submitTasks place session query
    after.holders next number + desk.owes number = desk.holders [] number + after.owes number ∨
      (desk.isOwed number = false ∧ after.owes number = desk.owes number ∧
        after.holders next number + 1 = desk.holders [] number) := by
  intro after next
  have hl : desk.askers.length = desk.outcomes.length := length_askers
  have hw : after.hasAnswered number = desk.hasAnswered number := by
    rw [hasAnswered, answer?_owe _ rfl]
    rfl
  have hpending : (desk.submitted session query).pending =
      if queryKey query = "" then none else some desk.outcomes.length := by
    rw [submitted, Session.pending_submit]
  have howes : after.owes number =
      if number = desk.outcomes.length then 1 else desk.owes number :=
    owes_owe _
  have hawaits : after.awaits number = if number = desk.outcomes.length then
      (desk.submitted session query).pending == some number else
      if desk.askers[number]? = some place then
        (desk.submitted session query).pending == some number
      else desk.awaits number := by
    rw [awaits_owe, awaits_setSession number hs, setSession_sessions,
      List.getElem?_set_self (List.getElem?_eq_some_iff.1 hs).1]
    exact hl ▸ rfl
  rw [holders, holders, countP_submitTasks, hw, hawaits, hpending, howes]
  generalize queryKey query = key
  by_cases hn : number = desk.outcomes.length
  · -- the outcome of the query itself
    have hb : desk.awaits number = false := by
      simp [awaits, asker?, List.getElem?_eq_none (Nat.le_of_eq (hl.trans hn.symm))]
    have ho : desk.isOwed number = false := by
      rw [Bool.eq_false_iff, Ne, isOwed_eq_true]
      omega
    have hz : desk.owes number = 0 := if_neg (by omega)
    left
    subst hn
    by_cases hk : key = ""
    · simp [hb, ho, hz, hk]
    · simp [hb, ho, hz, hk, Nat.add_comm]
  · have hne : ((if key = "" then none else some desk.outcomes.length) == some number) =
        false := by
      split
      · rfl
      · simpa using Ne.symm hn
    rw [if_neg hn, if_neg hn, hne]
    by_cases hp : session.pending = some number
    · -- the outcome of the query that is superseded
      have hq : desk.askers[number]? = some place := (ha.pending number hp).1
      rw [awaits_of_asker hq hs, if_pos hq, hp]
      by_cases ho : desk.isOwed number = true
      · left
        simp [ho, hn]
        omega
      · right
        simp [ho, hn]
        omega
    · left
      have hq : (if desk.askers[number]? = some place then false else desk.awaits number) =
          desk.awaits number := by
        split
        · rename_i hq
          rw [awaits_of_asker hq hs]
          simpa using hp
        · rfl
      simp [hq, hp, hn]

/-- A query that is answered passes its outcome on. -/
theorem Desk.holders_settle {desk : Desk} {place outcome number : Nat} {session : Session}
    {tasks next : List Task} (hs : desk.sessions[place]? = some session)
    (hk : desk.askers[outcome]? = some place) (hp : session.pending = some outcome)
    (hc : next.countP (·.holds number) =
      tasks.countP (·.holds number) + if outcome == number then 1 else 0) :
    (desk.setSession place session.settle).holders next number + desk.owes number =
      desk.holders tasks number + (desk.setSession place session.settle).owes number := by
  have hw : (desk.setSession place session.settle).hasAnswered number = desk.hasAnswered number :=
    rfl
  have ho : (desk.setSession place session.settle).owes number = desk.owes number := rfl
  rw [holders, holders, awaits_setSession number hs, hw, ho, hc]
  by_cases hq : outcome = number
  · subst hq
    rw [if_pos hk, awaits_of_asker hk hs, hp]
    simp [Session.settle]
    omega
  · have hn : (if desk.askers[number]? = some place then session.settle.pending == some number
        else desk.awaits number) = desk.awaits number := by
      split
      · rename_i hk
        rw [awaits_of_asker hk hs, hp]
        simpa [Session.settle] using hq
      · rfl
    simp [hn, hq]

/-- A move passes an outcome on from hand to hand, and lets go of it only if it is not owed. -/
theorem Move.holders {desk after : Desk} {task : Task} {next : List Task}
    (h : Move desk task after next)
    (hl : desk.Ledger) (number : Nat) :
    after.holders next number + desk.owes number =
        desk.holders [task] number + after.owes number ∨
      (desk.isOwed number = false ∧ after.owes number = desk.owes number ∧
        after.holders next number + 1 = desk.holders [task] number) := by
  cases h with
  | submit hs => exact Desk.holders_submit hs (hl.session _ _ hs) _ _ number
  | @call call session hc hs hh =>
    have hs' : (desk.record (.called call)).sessions[call.session]? = some session := hs
    left
    rw [Desk.holders, Desk.holders, countP_holds_reactions, Desk.awaits_setSession number hs']
    split
    · rename_i hp
      have hw : desk.awaits number = (session.pending == some number) :=
        Desk.awaits_of_asker hp hs
      rw [hw]
      rfl
    · rfl
  | callDiagnostic =>
    exact .inl (Desk.holders_congr rfl rfl (countP_holds_reactions number _ _ _))
  | @handOut place outcome other done next ho hs ha hd hn =>
    left
    have hk : (desk.note place other done).askers = desk.askers := Desk.askers_note done ho hs
    have hw : (desk.note place other done).hasAnswered number = desk.hasAnswered number := by
      rw [Desk.hasAnswered, Desk.answer?_note done ho, ha]
      split
      · rename_i hp
        simp [Desk.hasAnswered, Desk.answer?, hp, ho]
      · rfl
    rw [Desk.holders, Desk.holders, Desk.awaits_congr hk rfl, hw, hn.countP_holds]
    simp [Desk.owes, hk, Task.holds]
  | @resolve place outcome answered other done next ho hw hs ha hd hn =>
    left
    have hk : (desk.note place other done).askers = desk.askers := Desk.askers_note done ho hs
    have hb : desk.answer? place = none := by simp [Desk.answer?, ho, hw]
    rw [Desk.holders, Desk.holders, Desk.awaits_congr hk rfl, hn.countP_holds, Desk.hasAnswered,
      Desk.answer?_note done ho, ha]
    by_cases hp : number = place
    · subst hp
      cases hc : answered != .cancelled <;>
        simp [Desk.owes, hk, Task.holds, Desk.hasAnswered, hb, hc]
    · simp [Desk.owes, hk, Task.holds, Desk.hasAnswered, hp, Ne.symm hp]
  | @resolveAgain place outcome answered ho hw =>
    by_cases hp : (Task.resolve place answered).holds number = true
    · right
      have hq := Task.eq_of_holds_resolve hp
      refine ⟨?_, rfl, by rw [Desk.holders, Desk.holders, List.countP_cons_of_pos hp]; rfl⟩
      rw [Bool.eq_false_iff, Ne, Desk.isOwed_eq_true]
      simp [Desk.answer?, ← hq, ho, hw]
    · exact .inl (Desk.holders_congr rfl rfl (by rw [List.countP_cons_of_neg hp]; rfl))
  | @resolveNowhere place answered ho =>
    by_cases hp : (Task.resolve place answered).holds number = true
    · right
      have hq := Task.eq_of_holds_resolve hp
      refine ⟨by simp [Desk.isOwed, ← hq, ho], rfl, by simp [Desk.holders, hp]⟩
    · exact .inl (Desk.holders_congr rfl rfl (by simp [hp]))
  | settle hs he hg hp ha =>
    exact .inl (Desk.holders_settle hs ((hl.session _ _ hs).pending _ hp).1 hp
      (by simp [List.countP_cons, Task.holds]))
  | settleFailed hs he hg hp ha =>
    exact .inl (Desk.holders_settle hs ((hl.session _ _ hs).pending _ hp).1 hp
      (by simp [List.countP_cons, Task.holds]))
  | deliver =>
    refine .inl (Desk.holders_congr rfl rfl ?_)
    rw [Desk.countP_deliver fun _ _ => rfl]
    simp [List.countP_cons, Task.holds]
  | finish =>
    refine .inl (Desk.holders_congr rfl rfl (countP_holds_eq_zero ?_))
    intro task hm
    obtain ⟨_, _, rfl⟩ | rfl := mem_settlings hm <;> rfl
  | load =>
    refine .inl (Desk.holders_congr rfl rfl (countP_holds_eq_zero ?_))
    intro task hm
    rcases List.mem_append.1 hm with hm | hm
    · obtain ⟨_, rfl⟩ | rfl := Desk.mem_reports hm <;> rfl
    · rw [List.mem_singleton.1 hm]
      rfl
  | lookEnded _ _ _ hg =>
    obtain rfl | rfl := hg <;> exact .inl (Desk.holders_congr rfl rfl rfl)
  | conclude => exact .inl (Desk.holders_congr rfl rfl (by simp [Task.holds]))
  | _ => exact .inl (Desk.holders_congr rfl rfl rfl)

theorem Desk.holders_append (desk : Desk) (first rest : List Task) (number : Nat) :
    desk.holders (first ++ rest) number =
      desk.holders first number + rest.countP (·.holds number) := by
  rw [holders, holders, List.countP_append]
  omega

theorem Desk.holders_cons (desk : Desk) (task : Task) (tasks : List Task) (number : Nat) :
    desk.holders (task :: tasks) number =
      desk.holders [task] number + tasks.countP (·.holds number) :=
  desk.holders_append [task] tasks number

/-- A fault that takes its way takes outcomes out of hands, and passes none on. -/
theorem countP_unwind_le {p : Task → Bool}
    (hp : ∀ number result fault, p (.resolve number (.fault fault)) = true →
      p (.conclude number result) = true)
    (fault : Fault) (tasks : List Task) : (unwind fault tasks).1.countP p ≤ tasks.countP p := by
  obtain ⟨hn, -⟩ | ⟨passed, rest, -, ⟨rfl, hu⟩ | ⟨number, result, rfl, hu⟩⟩ :=
    unwind_cases fault tasks
  · simp [hn]
  · rw [hu]
    simp [List.countP_cons]
    omega
  · rw [hu, List.countP_append, List.countP_cons, List.countP_cons]
    have := hp number result fault
    split <;> split <;> first | omega | simp_all

theorem Begins.awaits {desk : Desk} {after : Agenda} (h : Begins desk after)
    (hl : desk.Ledger) (number : Nat) :
    after.desk.awaits number = desk.awaits number := by
  obtain ⟨-, -, hs, -⟩ := h.frame
  obtain hs | ⟨_, session, -, hs⟩ := hs
  · exact Desk.awaits_congr h.askers hs
  · unfold Desk.awaits Desk.asker?
    rw [h.askers, hs]
    cases hn : desk.askers[number]? with
    | none => rfl
    | some asker =>
      rw [Option.bind_some, Option.bind_some,
        List.getElem?_append_left (hl.asker_lt asker (List.mem_of_getElem? hn))]

/-- A deed begins with all outcomes in the hands that hold them. -/
theorem Begins.holders {desk : Desk} {after : Agenda} (h : Begins desk after)
    (hl : desk.Ledger) (number : Nat) :
    after.desk.holders after.tasks number = desk.holders [] number ∧
      after.desk.owes number = desk.owes number := by
  have hc : after.tasks.countP (·.holds number) = 0 := by
    cases h <;> simp [Task.holds]
  refine ⟨?_, by rw [Desk.owes, Desk.owes, h.askers]⟩
  rw [Desk.holders, Desk.holders, h.awaits hl, Desk.hasAnswered_congr h.frame.outcomes, hc]
  rfl

/-- At no time is an outcome in two hands. -/
theorem Course.holders_le {agenda : Agenda} {past : List Agenda} (h : Course (agenda :: past))
    (number : Nat) : agenda.desk.holders agenda.tasks number ≤ agenda.desk.owes number := by
  induction h using Course.induct with
  | opened =>
    simp [Desk.holders, Desk.awaits, Desk.asker?, Desk.hasAnswered, Desk.answer?, Desk.askers]
  | worked hc hs ih =>
    cases hs with
    | move hm =>
      have hh := hm.holders hc.ledger number
      dsimp only at ih ⊢
      rw [Desk.holders_cons] at ih
      rw [Desk.holders_append]
      omega
    | @raise desk fault tasks escaped =>
      have hu := countP_unwind_le (p := (·.holds number)) (fun _ _ _ => by simp [Task.holds])
        fault tasks
      simp only [Desk.holders, List.countP_cons] at ih hu ⊢
      omega
  | began hc hr hb ih =>
    obtain ⟨hh, ho⟩ := hb.holders hc.ledger number
    rwa [hh, ho, ← hr]

/-- An outcome that a task is about to settle is still owed, unless it was cancelled. -/
theorem Course.answer?_of_holds {agenda : Agenda} {past : List Agenda}
    (h : Course (agenda :: past)) {number : Nat} {task : Task} (ht : task ∈ agenda.tasks)
    (hh : task.holds number = true) (hc : agenda.desk.answer? number ≠ some .cancelled) :
    agenda.desk.answer? number = none := by
  have hl := h.holders_le number
  have hb := agenda.desk.owes_le number
  have held : 0 < agenda.tasks.countP (·.holds number) := List.countP_pos_iff.2 ⟨task, ht, hh⟩
  cases ha : agenda.desk.answer? number with
  | none => rfl
  | some answered =>
    have hw := Desk.hasAnswered_of_answer? ha fun e => hc (e ▸ ha)
    rw [Desk.holders, hw, Bool.toNat_true] at hl
    omega

end SymbolLookup

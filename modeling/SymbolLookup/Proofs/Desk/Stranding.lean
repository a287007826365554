import Mathlib.Data.List.Induction
import SymbolLookup.Proofs.Desk.Nesting
import SymbolLookup.Proofs.Desk.Waiting
/-!
# Queries that are stranded

What becomes of a session when a query cannot be taken because a fault ends that.

## Main definitions

* `Agenda.failsToTake`: whether a fault ends the taking of a query.
* `Agenda.Waits`: whether a query waits for a load that is still to come.
* `Session.Recovers`: whether a session is as before, or its latest query is answered or waits.
* `Overlooked`: whether a query was not looked for.
* `Abandoned`: whether nothing is done for a query any more.

## Main results

* `Course.abandoned`: a query that was broken off stays abandoned.
* `Course.recovers_iff`: a session recovers if and only if its latest query was not broken off.
-/

namespace SymbolLookup

/-- Whether a fault is about to end the taking of a query, so that its outcome is not handed out. -/
def Agenda.failsToTake (agenda : Agenda) (own : Nat) : Bool :=
  match agenda.tasks with
  | .raise _ :: tasks => (swept tasks).contains (.handOut own)
  | _ => false

/-- Whether a query is pending and waits for a load that is held, or has its turn. -/
def Agenda.Waits (agenda : Agenda) (outcome : Nat) : Prop :=
  agenda.desk.awaits outcome = true ∧ ∃ (number : Nat) (load : Load) (ticket : Ticket),
    agenda.desk.cache.loads[number]? = some load ∧ load.ending = none ∧ ticket ∈ load.waiting ∧
      ticket.outcome = outcome ∧ (number ∈ agenda.desk.cache.held ∨ .load number ∈ agenda.tasks ∨
        ∃ ending, .finish number ending ∈ agenda.tasks)

/-- Whether a session is as it was before a query was typed into it, or its latest query is answered
or waits for a load. -/
def Session.Recovers (session : Session) (number own : Nat) (agenda : Agenda)
    (past : List Agenda) : Prop :=
  (∃ earlier ∈ past, ∃ query before, earlier.Types number query own ∧
      earlier.desk.sessions[number]? = some before ∧ session.state = before.state ∧
      session.latest = before.latest) ∨
    ∃ latest, session.latest = some latest ∧
      (agenda.desk.answer? latest ≠ none ∨ agenda.Waits latest)

/-! ## Queries that are not looked for -/

/-- Whether a query was not looked for: no bucket was asked for on its behalf, and it is pending as
long as it is the latest of its session. -/
structure Overlooked (desk : Desk) (tasks : List Task) (number : Nat) : Prop where
  unsought : ∀ ticket, Seeks desk.cache tasks ticket → ticket.outcome ≠ number
  pending : ∀ place session, desk.askers[number]? = some place →
    desk.sessions[place]? = some session → session.latest = some number →
    session.pending = some number

/-- Whether nothing is done for a query any more: nobody holds its outcome, or it was not looked for
and is not to be looked for. -/
structure Abandoned (desk : Desk) (tasks : List Task) (number : Nat) : Prop where
  typed : number < desk.askers.length
  left : desk.holders tasks number = 0 ∨
    (Overlooked desk tasks number ∧ ∀ task ∈ tasks, task.looksFor number = false)

theorem Overlooked.of_seeks {desk : Desk} {tasks next : List Task} {number : Nat}
    (h : Overlooked desk tasks number)
    (hs : ∀ ticket, Seeks desk.cache next ticket → Seeks desk.cache tasks ticket) :
    Overlooked desk next number :=
  ⟨fun ticket ht => h.unsought ticket (hs ticket ht), h.pending⟩

section Step

variable {desk after : Desk} {task : Task} {tasks next : List Task} {escaped : Option Fault}
  {past : List Agenda} {number : Nat}

/-- A query that was not looked for is not looked for by tasks that are about others. -/
theorem Move.overlooked (hm : Move desk task after next) (hn : number < desk.askers.length)
    (ht : task.looksFor number = false) (h : Overlooked desk (task :: tasks) number) :
    Overlooked after (next ++ tasks) number := by
  constructor
  · intro ticket hs
    obtain hs | ⟨earlier, _, _, _, rfl, _, _, rfl, _⟩ := hm.seeks_cases hs
    · exact h.unsought ticket hs
    · simpa [Task.looksFor] using ht
  · intro place session hk hs hl
    obtain ⟨later, ha⟩ := hm.askers_prefix
    rw [← ha, List.getElem?_append_left hn] at hk
    obtain ⟨before, hb, turn⟩ := hm.turn hs
    cases turn with
    | same | called =>
      have pending := h.pending place _ hk hb
      exact pending hl
    | @settled ticket _ _ hp =>
      -- the query is pending, so it would be the one that is settled
      have pending := h.pending place _ hk hb hl
      rw [hp] at pending
      exact absurd (Option.some.inj pending) (h.unsought ticket (.inl List.mem_cons_self))
    | submitted =>
      cases hl
      rw [Desk.length_askers] at hn
      exact absurd hn (Nat.lt_irrefl _)

/-- Of what comes of a task, only that of a query that is typed looks for an answer. -/
theorem Move.looksFor_cases (hm : Move desk task after next) {first : Task} (hf : first ∈ next)
    (hl : first.looksFor number = true) : ∃ place session query followUp,
      task = .submit place query followUp ∧ desk.sessions[place]? = some session ∧
        queryKey query ≠ "" ∧ number = desk.askers.length := by
  cases hm.yields hf with
  | look hs hk =>
    exact ⟨_, _, _, _, rfl, hs, hk, (beq_iff_eq.1 hl).symm.trans Desk.length_askers.symm⟩
  | _ => cases hl

theorem Move.abandoned (hm : Move desk task after next) (hl : desk.Ledger)
    (h : Abandoned desk (task :: tasks) number) : Abandoned after (next ++ tasks) number := by
  have typed := Nat.lt_of_lt_of_le h.typed hm.askers_prefix.length_le
  refine ⟨typed, ?_⟩
  obtain hh | ⟨ho, hn⟩ := h.left
  · left
    have passed := hm.holders hl number
    rw [Desk.owes, Desk.owes, if_pos h.typed, if_pos typed] at passed
    rw [Desk.holders_cons] at hh
    rw [Desk.holders_append]
    omega
  · refine .inr ⟨hm.overlooked h.typed (hn task List.mem_cons_self) ho, ?_⟩
    intro first hf
    rcases List.mem_append.1 hf with hf | hf
    · rw [Bool.eq_false_iff]
      intro looks
      obtain ⟨_, _, _, _, -, -, -, he⟩ := hm.looksFor_cases hf looks
      exact absurd h.typed (he ▸ Nat.lt_irrefl _)
    · exact hn first (List.mem_cons_of_mem _ hf)

theorem Abandoned.unwind {fault : Fault} (h : Abandoned desk (.raise fault :: tasks) number) :
    Abandoned desk (unwind fault tasks).1 number := by
  refine ⟨h.typed, ?_⟩
  obtain hh | ⟨ho, hn⟩ := h.left
  · rw [Desk.holders_raise] at hh
    exact .inl (Nat.eq_zero_of_add_eq_zero_left hh)
  · refine .inr ⟨ho.of_seeks fun _ ht => ht.of_unwind, fun first hf => ?_⟩
    obtain hm | ⟨_, _, rfl, -⟩ := mem_unwind hf
    · exact hn first (List.mem_cons_of_mem _ hm)
    · rfl

theorem Begins.looksFor_eq_false {agenda : Agenda} (hb : Begins desk agenda) :
    ∀ first ∈ agenda.tasks, first.looksFor number = false := by
  intro first hf
  obtain ⟨_, _, _, rfl⟩ | ⟨_, rfl⟩ | rfl | ⟨_, rfl⟩ | ⟨_, rfl⟩ := hb.mem_tasks hf <;> rfl

theorem Begins.abandoned {agenda : Agenda} (hb : Begins desk agenda) (hl : desk.Ledger)
    (h : Abandoned desk [] number) : Abandoned agenda.desk agenda.tasks number := by
  refine ⟨hb.askers.symm ▸ h.typed, ?_⟩
  obtain hh | ⟨ho, -⟩ := h.left
  · exact .inl ((hb.holders hl number).1.trans hh)
  · refine .inr ⟨⟨fun ticket ht => ?_, fun place session hk hs hlast => ?_⟩,
      hb.looksFor_eq_false⟩
    · exact ho.unsought ticket (.inr (.inr (hb.frame.waits ticket ht.inHand)))
    · rw [hb.askers] at hk
      obtain hs | ⟨rfl, -⟩ := hb.session_cases hs
      · exact ho.pending place session hk hs hlast
      · -- nothing was typed into a session that is new
        exact absurd (hl.asker_lt _ (List.mem_of_getElem? hk)) (Nat.lt_irrefl _)

end Step

/-! ## Looking once -/

/-- Whether each query is to be looked for at most once, and was not looked for before. -/
structure Agenda.LooksOnce (agenda : Agenda) : Prop where
  once : ∀ number, agenda.tasks.countP (·.looksFor number) ≤ 1
  overlooked : ∀ number, 0 < agenda.tasks.countP (·.looksFor number) →
    Overlooked agenda.desk agenda.tasks number

theorem Desk.countP_looksFor_submitTasks (desk : Desk) (place : Nat) (session : Session)
    (query : Option String) (number : Nat) :
    (desk.submitTasks place session query).countP (·.looksFor number) ≤ 1 := by
  have leaving {tasks : List Nat} {f : Nat → Task} (hf : ∀ n, (f n).looksFor number = false) :
      (tasks.map f).countP (·.looksFor number) = 0 := by
    simp [List.countP_eq_zero, hf]
  unfold submitTasks
  dsimp only
  rw [List.countP_append, List.countP_append, List.countP_cons, leaving fun _ => rfl,
    leaving fun _ => rfl]
  by_cases hk : queryKey query = ""
  · simp [hk, Task.looksFor]
  · rw [if_neg hk]
    simp only [List.countP_cons, List.countP_nil, Task.looksFor, Bool.false_eq_true, if_false]
    split <;> simp

section LooksOnce

variable {desk after : Desk} {task : Task} {tasks next : List Task} {escaped : Option Fault}
  {past : List Agenda} {number : Nat}

/-- A query that was just typed is looked for once, and was not looked for before. -/
theorem Move.looksOnce (hm : Move desk task after next)
    (hc : Course (⟨desk, task :: tasks, escaped⟩ :: past))
    (hp : 0 < next.countP (·.looksFor number)) :
    (next ++ tasks).countP (·.looksFor number) ≤ 1 ∧ Overlooked after (next ++ tasks) number := by
  obtain ⟨first, hf, looks⟩ := List.countP_pos_iff.1 hp
  obtain ⟨place, session, query, followUp, rfl, hs, hk, rfl⟩ := hm.looksFor_cases hf looks
  refine ⟨?_, ⟨fun ticket ht => ?_, fun other session hk' hs' _ => ?_⟩⟩
  · have new : next.countP (·.looksFor desk.askers.length) ≤ 1 := by
      cases hm with
      | submit => exact Desk.countP_looksFor_submitTasks _ _ _ _ _
      | submitNowhere => cases hf
    have old : tasks.countP (·.looksFor desk.askers.length) = 0 := by
      rw [List.countP_eq_zero]
      intro other ho looks
      exact Nat.lt_irrefl _ (hc.subject_lt other (List.mem_cons_of_mem _ ho) _
        (Task.subject?_of_looksFor looks))
    rw [List.countP_append]
    omega
  · obtain ht | ⟨_, _, _, _, he, -⟩ := hm.seeks_cases ht
    · exact Nat.ne_of_lt (hc.owedFor ht.inHand).lt_length
    · cases he
  · rw [hm.askers_of_submit hs, List.getElem?_concat_length] at hk'
    cases hk'
    obtain ⟨before, -, turn⟩ := hm.turn hs'
    cases turn with
    | same elsewhere => exact absurd rfl (elsewhere _ _)
    | submitted =>
      rw [Desk.submitted, Session.pending_submit, if_neg hk, Desk.length_askers]

theorem Agenda.LooksOnce.move (h : Agenda.LooksOnce ⟨desk, task :: tasks, escaped⟩)
    (hc : Course (⟨desk, task :: tasks, escaped⟩ :: past)) (hm : Move desk task after next) :
    Agenda.LooksOnce ⟨after, next ++ tasks, escaped⟩ := by
  constructor
  · intro number
    dsimp only
    rcases Nat.eq_zero_or_pos (next.countP (·.looksFor number)) with hz | hp
    · have once := h.once number
      dsimp only at once
      rw [List.countP_cons] at once
      rw [List.countP_append]
      omega
    · exact (hm.looksOnce hc hp).1
  · intro number ht
    dsimp only at ht ⊢
    rcases Nat.eq_zero_or_pos (next.countP (·.looksFor number)) with hz | hp
    · rw [List.countP_append, hz, Nat.zero_add] at ht
      obtain ⟨first, hf, looks⟩ := List.countP_pos_iff.1 ht
      -- the query is looked for later, so it is not looked for now
      have once := h.once number
      dsimp only at once
      rw [List.countP_cons] at once
      have other : task.looksFor number = false := by
        rw [Bool.eq_false_iff]
        intro now
        rw [if_pos now] at once
        omega
      have before : 0 < (task :: tasks).countP (·.looksFor number) :=
        List.countP_pos_iff.2 ⟨first, List.mem_cons_of_mem _ hf, looks⟩
      have typed := hc.subject_lt first (List.mem_cons_of_mem _ hf) _
        (Task.subject?_of_looksFor looks)
      exact hm.overlooked typed other (h.overlooked number before)
    · exact (hm.looksOnce hc hp).2

/-- Throughout every course each query is to be looked for at most once. -/
theorem Course.looksOnce {agenda : Agenda} (h : Course (agenda :: past)) : agenda.LooksOnce := by
  induction h using Course.induct with
  | opened => exact ⟨fun _ => Nat.zero_le _, fun _ hp => absurd hp (Nat.lt_irrefl _)⟩
  | worked hc hs ih =>
    cases hs with
    | move hm => exact ih.move hc hm
    | @raise desk fault tasks escaped =>
      have kept (number : Nat) : (unwind fault tasks).1.countP (·.looksFor number) ≤
          (Task.raise fault :: tasks).countP (·.looksFor number) := by
        rw [List.countP_cons_of_neg Bool.false_ne_true]
        exact countP_unwind_le (fun _ _ _ => by simp [Task.looksFor]) fault tasks
      refine ⟨fun number => Nat.le_trans (kept number) (ih.once number), fun number hp => ?_⟩
      exact (ih.overlooked number (Nat.lt_of_lt_of_le hp (kept number))).of_seeks
        fun _ ht => ht.of_unwind
  | @began _ after _ _ _ _ hb =>
    have none (number : Nat) : after.tasks.countP (·.looksFor number) = 0 :=
      List.countP_eq_zero.2 fun task ht => Bool.eq_false_iff.1 (hb.looksFor_eq_false task ht)
    constructor
    · intro number
      rw [none]
      exact Nat.zero_le 1
    · intro number hp
      rw [none] at hp
      cases hp

end LooksOnce

/-! ## Queries that were broken off -/

theorem looksFor_eq_false {number : Nat} {tasks : List Task}
    (h : tasks.countP (·.looksFor number) = 0) : ∀ task ∈ tasks, task.looksFor number = false :=
  fun task ht => Bool.eq_false_iff.2 (List.countP_eq_zero.1 h task ht)

section Broken

variable {desk after : Desk} {tasks next : List Task} {escaped : Option Fault}
  {past : List Agenda} {number : Nat}

theorem Move.eq_of_refuses {ticket : Ticket} (hm : Move desk (.look ticket) after next)
    (hr : desk.refuses ticket = true) : after = desk ∧ ∃ fault, next = [.raise fault] := by
  obtain ⟨session, fault, hs, hr⟩ := Desk.refuses_eq_true hr
  cases hm with
  | lookNowhere hs' => cases hs.symm.trans hs'
  | lookRefused => exact ⟨rfl, _, rfl⟩
  | lookEnded hs' hr' | lookWaits hs' hr' =>
    cases hs.symm.trans hs'
    cases hr.symm.trans hr'

theorem Move.abandoned_of_refuses {ticket : Ticket} (hm : Move desk (.look ticket) after next)
    (hc : Course (⟨desk, .look ticket :: tasks, escaped⟩ :: past))
    (hr : desk.refuses ticket = true) : Abandoned after (next ++ tasks) ticket.outcome := by
  obtain ⟨rfl, fault, rfl⟩ := hm.eq_of_refuses hr
  have once := hc.looksOnce.once ticket.outcome
  have overlooked := hc.looksOnce.overlooked ticket.outcome
  have looks : (Task.look ticket).looksFor ticket.outcome = true := beq_self_eq_true _
  dsimp only at once overlooked
  rw [List.countP_cons, if_pos looks] at once overlooked
  refine ⟨hc.subject_lt _ List.mem_cons_self _ rfl, .inr ⟨?_, ?_⟩⟩
  · -- the fault is no ticket, and so nothing is sought that was not before
    refine (overlooked (Nat.succ_pos _)).of_seeks fun other ht => ?_
    obtain hm | ⟨_, _, hm⟩ | hw := ht
    · exact .inl (by simpa using hm)
    · exact .inr (.inl ⟨_, _, by simpa using hm⟩)
    · exact .inr (.inr hw)
  · have others := looksFor_eq_false (Nat.le_zero.1 (Nat.le_of_succ_le_succ once))
    exact List.forall_mem_cons.2 ⟨rfl, others⟩

theorem Course.abandoned_of_swept {fault : Fault} {task : Task}
    (hc : Course (⟨desk, .raise fault :: tasks, escaped⟩ :: past)) (ht : task ∈ swept tasks)
    (ho : task.looksFor number = true ∨ task.holds number = true) :
    Abandoned desk (unwind fault tasks).1 number := by
  have below := List.mem_cons_of_mem (Task.raise fault) (mem_of_mem_swept ht)
  obtain looks | holds := ho
  · have once := hc.looksOnce.once number
    have overlooked := hc.looksOnce.overlooked number
    dsimp only at once overlooked
    rw [List.countP_cons_of_neg Bool.false_ne_true] at once overlooked
    have kept := countP_unwind (p := (·.looksFor number)) rfl (fun _ _ _ => rfl) fault tasks
    have taken : 0 < (swept tasks).countP (·.looksFor number) :=
      List.countP_pos_iff.2 ⟨task, ht, looks⟩
    refine ⟨hc.subject_lt task below _ (Task.subject?_of_looksFor looks), .inr ⟨?_, ?_⟩⟩
    · exact (overlooked (by omega)).of_seeks fun _ ht => ht.of_unwind
    · exact looksFor_eq_false (by omega)
  · -- the outcome was in no other hand than that which the fault takes away
    have one := Nat.le_trans (hc.holders_le number) (Desk.owes_le _ _)
    dsimp only at one
    rw [Desk.holders_raise] at one
    have taken : 0 < (swept tasks).countP (·.holds number) :=
      List.countP_pos_iff.2 ⟨task, ht, holds⟩
    exact ⟨hc.subject_lt task below _ (Task.subject?_of_holds holds), .inl (by omega)⟩

/-- A query that is broken off is abandoned. -/
theorem Agenda.Step.abandoned {agenda after : Agenda} (h : agenda.Step after)
    (hc : Course (agenda :: past)) (hb : agenda.breaksOff number = true) :
    Abandoned after.desk after.tasks number := by
  cases h with
  | @move desk after task tasks next escaped hm =>
    cases task with
    | look ticket =>
      obtain ⟨he, hr⟩ := Bool.and_eq_true_iff.1 hb
      obtain rfl := beq_iff_eq.1 he
      exact hm.abandoned_of_refuses hc hr
    | raise => cases hm
    | _ => cases hb
  | raise =>
    obtain ⟨task, ht, ho⟩ := Agenda.breaksOff_raise hb
    exact hc.abandoned_of_swept ht ho

end Broken

/-- A query that was broken off stays abandoned. -/
theorem Course.abandoned {agenda earlier : Agenda} {past : List Agenda}
    (h : Course (agenda :: past)) (he : earlier ∈ past) {number : Nat}
    (hb : earlier.breaksOff number = true) : Abandoned agenda.desk agenda.tasks number := by
  induction h using Course.induct with
  | opened => cases he
  | worked hc hs ih =>
    rcases List.mem_cons.1 he with rfl | before
    · exact hs.abandoned hc hb
    · have left := ih before
      cases hs with
      | move hm => exact hm.abandoned hc.ledger left
      | raise => exact left.unwind
  | began hc hr hb' ih =>
    rcases List.mem_cons.1 he with rfl | he
    · rw [Agenda.breaksOff, hr] at hb
      cases hb
    · have left := ih he
      rw [hr] at left
      exact hb'.abandoned hc.ledger left

/-! ## The latest query of a session -/

namespace OwedFor

variable {askers : List Nat} {session generation number : Nat}

theorem le_count (h : OwedFor askers session generation number) :
    generation ≤ askers.count session :=
  h.2 ▸ (List.take_sublist (number + 1) askers).count_le session

/-- Of the queries that were typed into a session one is the latest. -/
theorem exists_of_mem (h : session ∈ askers) :
    ∃ number, OwedFor askers session (askers.count session) number := by
  induction askers using List.reverseRecOn with
  | nil => cases h
  | append_singleton askers last ih =>
    by_cases he : last = session
    · subst he
      refine ⟨askers.length, ?_⟩
      rw [List.count_append, List.count_singleton_self]
      exact .last askers last
    · have before : session ∈ askers := by simpa [Ne.symm he] using h
      obtain ⟨number, ho⟩ := ih before
      refine ⟨number, ?_⟩
      rw [List.count_append, List.count_singleton, if_neg (by simpa using he)]
      exact ho.append [last]

end OwedFor

/-- The latest query of a session into which queries were typed is none of the earlier ones. -/
theorem Desk.Ledger.latest_of_asker {desk : Desk} (hl : desk.Ledger) {own place : Nat}
    {session : Session} (hk : desk.askers[own]? = some place)
    (hs : desk.sessions[place]? = some session) :
    ∃ latest, session.latest = some latest ∧ own ≤ latest ∧
      desk.askers[latest]? = some place := by
  have agrees := hl.session place session hs
  obtain ⟨latest, ho⟩ := OwedFor.exists_of_mem (List.mem_of_getElem? hk)
  refine ⟨latest, (agrees.latest latest).2 (agrees.generation ▸ ho), ?_, ho.1⟩
  rw [← Nat.not_lt]
  intro hlt
  have typed : OwedFor desk.askers place _ own := ⟨hk, rfl⟩
  exact absurd (ho.lt_of_lt typed hlt) (Nat.not_lt.2 typed.le_count)

/-! ## Faults that end the taking of a query -/

theorem Agenda.failsToTake_eq_true {agenda : Agenda} {own : Nat}
    (h : agenda.failsToTake own = true) : ∃ fault tasks,
      agenda.tasks = .raise fault :: tasks ∧ .handOut own ∈ swept tasks := by
  unfold failsToTake at h
  split at h
  · exact ⟨_, _, ‹_›, List.contains_iff_mem.1 h⟩
  · cases h

theorem Course.eq_of_raise {after : Agenda} {desk : Desk} {fault : Fault} {tasks : List Task}
    {escaped : Option Fault} {past : List Agenda}
    (h : Course (after :: ⟨desk, .raise fault :: tasks, escaped⟩ :: past)) :
    after = ⟨desk, (unwind fault tasks).1, (unwind fault tasks).2⟩ := by
  cases h with
  | worked _ step =>
    cases Agenda.step_of_step? step with
    | move hm => cases hm
    | raise => rfl
  | tookUp _ rests => cases rests

/-- Once a query was typed, the latest query of its session is not one from before. -/
theorem Course.latest_ne_of_types {agenda earlier : Agenda} {past : List Agenda}
    (h : Course (agenda :: past)) (he : earlier ∈ agenda :: past) {place own latest : Nat}
    {query : Option String} {before : Session} (ht : earlier.Types place query own)
    (hb : earlier.desk.sessions[place]? = some before) (hle : own ≤ latest) :
    before.latest ≠ some latest := by
  intro hl
  obtain ⟨later, others, hp⟩ := List.append_of_mem he
  rw [hp] at h
  have owed := ((h.drop.ledger.session place before hb).latest latest).1 hl
  have hlt := owed.lt_length
  obtain ⟨_, _, -, -, rfl⟩ := ht
  rw [Desk.length_askers] at hlt
  exact absurd hlt (Nat.not_lt.2 hle)

/-- The latest query of a session does not wait if it is abandoned, nor is it answered, unless its
host cancelled it. -/
theorem Course.not_waits_of_abandoned {agenda : Agenda} {past : List Agenda}
    (h : Course (agenda :: past)) {place latest : Nat} {session : Session}
    (hs : agenda.desk.sessions[place]? = some session) (hl : session.latest = some latest)
    (ha : Abandoned agenda.desk agenda.tasks latest) :
    agenda.desk.hasAnswered latest = false ∧ ¬agenda.Waits latest := by
  have one := Nat.le_trans (h.holders_le latest) (Desk.owes_le _ _)
  rw [Desk.holders] at one
  obtain hh | ⟨ho, -⟩ := ha.left
  · rw [Desk.holders] at hh
    constructor
    · rw [Bool.eq_false_iff]
      intro answered
      rw [answered, Bool.toNat_true] at hh
      omega
    · rintro ⟨awaits, -⟩
      rw [awaits, Bool.toNat_true] at hh
      omega
  · have hk := (((h.ledger.session place session hs).latest latest).1 hl).1
    have awaits : agenda.desk.awaits latest = true :=
      h.ledger.awaits_of_pending hs (ho.pending place session hk hs hl)
    constructor
    · rw [Bool.eq_false_iff]
      intro answered
      rw [awaits, answered, Bool.toNat_true] at one
      omega
    · rintro ⟨-, number, load, ticket, hn, -, ht, he, -⟩
      exact ho.unsought ticket (.inr (.inr ⟨number, load, hn, ht⟩)) he

/-- A query that is still owed and was never broken off waits, if no task is about it. -/
theorem Course.waits_of_not_breaksOff {agenda : Agenda} {past : List Agenda}
    (h : Course (agenda :: past)) {number : Nat}
    (hb : ∀ earlier ∈ past, earlier.breaksOff number = false)
    (ho : agenda.desk.isOwed number = true)
    (ht : ∀ task ∈ agenda.tasks, task.subject? ≠ some number) : agenda.Waits number := by
  have held := h.one_le_holders hb ho
  have none : agenda.tasks.countP (·.holds number) = 0 :=
    List.countP_eq_zero.2 fun task hm holds => ht task hm (Task.subject?_of_holds holds)
  have unanswered : agenda.desk.hasAnswered number = false := by
    rw [Desk.hasAnswered, (Desk.isOwed_eq_true.1 ho).2, Option.any_none]
  have awaits : agenda.desk.awaits number = true := by
    rw [Desk.holders, none, unanswered] at held
    revert held
    cases agenda.desk.awaits number <;> simp
  obtain ⟨ticket, rfl, hm | ⟨hj, hm | ⟨pair, hp, place, load, hf, hl, he⟩⟩⟩ := h.pursues hb awaits
  · exact absurd rfl (ht _ hm)
  · exact absurd rfl (ht _ hm)
  · exact ⟨awaits, place, load, ticket, hl, he, hj pair hp place load hf hl he, rfl,
      h.accounts place load hl he⟩

/-- When a fault ends the taking of a query, its session recovers if and only if its latest query
was never broken off. -/
theorem Course.recovers_iff {after agenda : Agenda} {past : List Agenda}
    (h : Course (after :: agenda :: past)) {own place : Nat} (hf : agenda.failsToTake own = true)
    {session : Session} (hk : after.desk.askers[own]? = some place)
    (hs : after.desk.sessions[place]? = some session) :
    session.Recovers place own after (agenda :: past) ↔ ∃ latest, session.latest = some latest ∧
      ∀ earlier ∈ agenda :: past, earlier.breaksOff latest = false := by
  obtain ⟨latest, hl, hle, hk'⟩ := h.ledger.latest_of_asker hk hs
  have agrees := h.ledger.session place session hs
  obtain ⟨fault, tasks, ht, ho⟩ := Agenda.failsToTake_eq_true hf
  obtain ⟨desk, _, escaped⟩ := agenda
  cases ht
  obtain rfl := h.eq_of_raise
  constructor
  · rintro (⟨earlier, he, query, before, ht, hb, -, hn⟩ | ⟨same, hl', recovered⟩)
    · exact absurd (hn.symm.trans hl) (h.tail.latest_ne_of_types he ht hb hle)
    · cases hl.symm.trans hl'
      refine ⟨latest, hl, fun earlier he => Bool.eq_false_iff.2 fun hb => ?_⟩
      obtain ⟨unanswered, waits⟩ :=
        h.not_waits_of_abandoned hs hl (h.abandoned he hb)
      have answered := recovered.resolve_right waits
      -- no host cancels a query while one is taken that was typed before it
      have spared := h.tail.sparesLater.later own
        (List.mem_cons_of_mem _ (mem_of_mem_swept ho)) latest hle
      obtain ⟨answer, ha⟩ := Option.ne_none_iff_exists'.1 answered
      rw [Desk.hasAnswered_of_answer? ha fun hc => spared (hc ▸ ha)] at unanswered
      cases unanswered
  · rintro ⟨same, hl', hb⟩
    cases hl.symm.trans hl'
    refine .inr ⟨latest, hl, ?_⟩
    by_cases ha : desk.answer? latest = none
    · right
      have owed := Desk.isOwed_eq_true.2 ⟨(List.getElem?_eq_some_iff.1 hk').1, ha⟩
      refine h.waits_of_not_breaksOff hb owed fun task hm hsub => ?_
      -- all that is left is about queries that were typed before
      have nested := h.tail.nested.of_suffix (List.suffix_cons _ tasks)
      exact absurd (nested.lt_of_mem_unwind ho hm hsub) (Nat.not_lt.2 hle)
    · exact .inl ha

/-- A session recovers from a query whose host fails after it typed another one. -/
theorem Course.recovers_of_retyped :
    let rule : Rule := { on := .state, submits := some "al", raises := some "boom" }
    let course := sampleCourse [.openSession { rules := [rule] }, .type 0 (some "a") none]
    ∃ failing past session, course.2 = failing :: past ∧ failing.failsToTake 0 = true ∧
      course.1.desk.askers[0]? = some 0 ∧ course.1.desk.sessions[0]? = some session ∧
      session.latest = some 1 ∧ session.Recovers 0 0 course.1 course.2 := by
  intro rule course
  have h : Course (course.1 :: course.2) := Course.sample _
  have fails : course.2.head?.any (·.failsToTake 0) = true := by decide +kernel
  have kept : ∀ earlier ∈ course.2, earlier.breaksOff 1 = false := by decide +kernel
  have asked : course.1.desk.askers[0]? = some 0 := by decide +kernel
  have typed : course.1.desk.sessions[0]?.map (·.latest) = some (some 1) := by decide +kernel
  obtain ⟨failing, hf, taking⟩ := (Option.any_eq_true _ _).1 fails
  obtain ⟨past, hc⟩ := List.head?_eq_some_iff.1 hf
  obtain ⟨session, hs, latest⟩ := Option.map_eq_some_iff.1 typed
  rw [hc] at h kept
  refine ⟨failing, past, session, hc, taking, asked, hs, latest, ?_⟩
  rw [hc]
  exact (h.recovers_iff taking asked hs).2 ⟨1, latest, kept⟩

/-- A query that is typed once the desk is closed leaves its session pending, though it waits for
nothing. -/
theorem Course.not_recovers_of_close :
    let course := sampleCourse [.openSession {}, .close, .type 0 (some "a") none]
    Course (course.1 :: course.2) ∧ course.1.tasks = [] ∧
      ∃ failing past session, course.2 = failing :: past ∧ failing.failsToTake 0 = true ∧
        course.1.desk.askers[0]? = some 0 ∧ course.1.desk.sessions[0]? = some session ∧
        session.state = .pending ∧ ¬session.Recovers 0 0 course.1 course.2 := by
  intro course
  have h : Course (course.1 :: course.2) := Course.sample _
  have fails : course.2.head?.any (·.failsToTake 0) = true := by decide +kernel
  have typed : course.1.desk.sessions[0]?.map (fun session => (session.latest, session.state)) =
      some (some 0, .pending) := by decide +kernel
  have unanswered : course.1.desk.answer? 0 = none := by decide +kernel
  have unloaded : course.1.desk.cache.loads = [] := by decide +kernel
  obtain ⟨failing, hf, taking⟩ := (Option.any_eq_true _ _).1 fails
  obtain ⟨past, hc⟩ := List.head?_eq_some_iff.1 hf
  obtain ⟨session, hs, hl⟩ := Option.map_eq_some_iff.1 typed
  obtain ⟨latest, state⟩ := Prod.mk.inj hl
  refine ⟨h, by decide +kernel, failing, past, session, hc, taking, by decide +kernel, hs, state,
    ?_⟩
  rintro (⟨earlier, he, query, before, ht, hb, -, hn⟩ | ⟨same, hl', answered | ⟨-, waits⟩⟩)
  · exact h.latest_ne_of_types (List.mem_cons_of_mem _ he) ht hb (Nat.le_refl 0)
      (hn.symm.trans latest)
  · cases latest.symm.trans hl'
    exact answered unanswered
  · -- nothing is loaded, so nothing is waited for
    obtain ⟨number, load, -, hn, -⟩ := waits
    rw [unloaded] at hn
    cases hn

end SymbolLookup

import SymbolLookup.Proofs.Desk.Shelter
import SymbolLookup.Proofs.Desk.Undisturbed
/-!
# Queries that are broken off

When a query is refused its buckets, or a fault takes away what was still to be done for it, nobody
answers it any more.

## Main definitions

* `Agenda.breaksOff`: whether a query is broken off next.

## Main results

* `Course.one_le_holders`: a query that was never broken off is answered or in someone's hands.
* `Course.not_breaksOff`: if nothing disturbs a desk, no query is broken off.
-/

namespace SymbolLookup

/-- Whether a task is to look for the answer to a query. -/
def Task.looksFor (number : Nat) : Task → Bool
  | .look ticket => ticket.outcome == number
  | _ => false

/-- Whether a desk refuses the buckets that a query looks into. -/
def Desk.refuses (desk : Desk) (ticket : Ticket) : Bool :=
  desk.sessions[ticket.session]?.any fun session =>
    match desk.cache.requestAll
      (candidates ticket.key session.buckets session.partition session.mode) with
    | .error _ => true
    | .ok _ => false

/-- Whether a query is broken off next: its buckets are refused, or a fault takes away the task that
is to look for its answer, or one that is to settle its outcome. -/
def Agenda.breaksOff (agenda : Agenda) (number : Nat) : Bool :=
  match agenda.tasks with
  | .look ticket :: _ => ticket.outcome == number && agenda.desk.refuses ticket
  | .raise _ :: tasks => (swept tasks).any fun task => task.looksFor number || task.holds number
  | _ => false

namespace Desk

variable {desk : Desk} {ticket : Ticket}

theorem refuses_eq_true (h : desk.refuses ticket = true) : ∃ session fault,
    desk.sessions[ticket.session]? = some session ∧ desk.cache.requestAll
      (candidates ticket.key session.buckets session.partition session.mode) = .error fault := by
  obtain ⟨session, hs, hr⟩ := (Option.any_eq_true _ _).1 h
  split at hr
  · exact ⟨session, _, hs, ‹_›⟩
  · cases hr

theorem refuses_of_error {session : Session} {fault : Fault}
    (hs : desk.sessions[ticket.session]? = some session)
    (hr : desk.cache.requestAll
      (candidates ticket.key session.buckets session.partition session.mode) = .error fault) :
    desk.refuses ticket = true := by
  simp [refuses, hs, hr]

theorem not_refuses_of_isOpen (h : desk.isOpen = true) (ticket : Ticket) :
    desk.refuses ticket = false := by
  rw [← Bool.not_eq_true]
  intro hr
  obtain ⟨session, fault, -, he⟩ := refuses_eq_true hr
  obtain ⟨_, _, ha⟩ := Cache.requestAll_of_isOpen h _
  cases ha.symm.trans he

end Desk

namespace Agenda

variable {desk : Desk} {tasks : List Task} {escaped : Option Fault} {number : Nat}

/-- A fault that breaks a query off takes away one of its tasks. -/
theorem breaksOff_raise {fault : Fault}
    (h : breaksOff ⟨desk, .raise fault :: tasks, escaped⟩ number = true) :
    ∃ task ∈ swept tasks, task.looksFor number = true ∨ task.holds number = true := by
  obtain ⟨task, hm, ht⟩ := List.any_eq_true.1 h
  exact ⟨task, hm, Bool.or_eq_true_iff.1 ht⟩

theorem not_swept_of_not_breaksOff {fault : Fault}
    (h : breaksOff ⟨desk, .raise fault :: tasks, escaped⟩ number = false) :
    ∀ task ∈ swept tasks, task.looksFor number = false ∧ task.holds number = false := by
  intro task hm
  have := List.any_eq_false.1 h task hm
  simpa using this

end Agenda

theorem Move.isOwed_of_isOwed {desk after : Desk} {task : Task} {next : List Task}
    (h : Move desk task after next) {number : Nat} (hl : number < desk.askers.length)
    (ho : after.isOwed number = true) : desk.isOwed number = true := by
  refine Desk.isOwed_eq_true.2 ⟨hl, ?_⟩
  have ha := (Desk.isOwed_eq_true.1 ho).2
  obtain he | ⟨hn, -⟩ := h.answer?_cases number
  · rw [← he, ha]
  · exact hn

/-- A fault takes outcomes out of the hands that it takes away. -/
theorem Desk.holders_raise (desk : Desk) (fault : Fault) (tasks : List Task) (number : Nat) :
    desk.holders (.raise fault :: tasks) number =
      (swept tasks).countP (·.holds number) + desk.holders (unwind fault tasks).1 number := by
  have kept := countP_unwind (p := (·.holds number)) rfl (fun _ _ _ => by simp [Task.holds])
    fault tasks
  rw [holders, holders, List.countP_cons_of_neg Bool.false_ne_true, kept]
  omega

/-- A query that is still owed, and was never broken off, is in someone's hands. -/
theorem Course.one_le_holders {agenda : Agenda} {past : List Agenda} (h : Course (agenda :: past))
    {number : Nat} (hb : ∀ earlier ∈ past, earlier.breaksOff number = false)
    (ho : agenda.desk.isOwed number = true) :
    1 ≤ agenda.desk.holders agenda.tasks number := by
  induction h using Course.induct with
  | opened => simp [Desk.isOwed] at ho
  | @worked agenda after past hc _ hs ih =>
    have ih := ih fun earlier hm => hb earlier (List.mem_cons_of_mem _ hm)
    have hb := hb agenda List.mem_cons_self
    cases hs with
    | @move desk after task tasks next escaped hm =>
      have hl := (Desk.isOwed_eq_true.1 ho).1
      have hh := hm.holders hc.ledger number
      rw [Desk.owes, Desk.owes, if_pos hl] at hh
      dsimp only at ih ⊢
      rw [Desk.holders_cons] at ih
      rw [Desk.holders_append]
      split at hh
      · have := ih (hm.isOwed_of_isOwed ‹_› ho)
        obtain hh | ⟨hn, -⟩ := hh
        · omega
        · rw [hm.isOwed_of_isOwed ‹_› ho] at hn
          cases hn
      · omega
    | @raise desk fault tasks escaped =>
      have ih := ih ho
      have none : (swept tasks).countP (·.holds number) = 0 :=
        countP_holds_eq_zero fun task hm => (Agenda.not_swept_of_not_breaksOff hb task hm).2
      dsimp only at ih ⊢
      rwa [Desk.holders_raise, none, Nat.zero_add] at ih
  | began hc hr hb' ih =>
    have ho' := ho
    rw [Desk.isOwed_eq_true, hb'.askers, hb'.answer?, ← Desk.isOwed_eq_true] at ho'
    have ih := ih (fun earlier hm => hb earlier (List.mem_cons_of_mem _ hm)) ho'
    rwa [(hb'.holders hc.ledger number).1, ← hr]

/-- If nothing disturbs a desk, no query is broken off. -/
theorem Course.not_breaksOff {agenda : Agenda} {past : List Agenda} (h : Course (agenda :: past))
    (hu : ∀ earlier ∈ past, earlier.Undisturbed) (number : Nat) :
    ∀ earlier ∈ past, earlier.breaksOff number = false := by
  induction h, hu using Course.induct_undisturbed with
  | opened => simp
  | @moved desk after task tasks next escaped past hc _ hp hu hm ih =>
    refine List.forall_mem_cons.2 ⟨?_, ih⟩
    cases task with
    | look ticket =>
      have hg := Desk.not_refuses_of_isOpen (hu _ List.mem_cons_self).isOpen ticket
      exact (congrArg (ticket.outcome == number && ·) hg).trans (Bool.and_false _)
    | raise => cases hm
    | _ => rfl
  | began hc _ hr _ ih =>
    refine List.forall_mem_cons.2 ⟨?_, ih⟩
    rw [Agenda.breaksOff, hr]

end SymbolLookup

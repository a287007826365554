import SymbolLookup.Proofs.Desk.Supersession
import SymbolLookup.Proofs.Desk.Tickets
/-!
# Courses that nothing disturbs

A desk that is open, whose hosts neither fail nor cancel outcomes, meets no faults at all.

## Main definitions

* `Agenda.Undisturbed`: whether nothing disturbs a desk right now.
* `Agenda.Exact`: whether each outcome that is owed is in one hand.

## Main results

* `Course.exact`: if nothing disturbs a desk, each outcome that is owed is in one hand.
* `Course.induct_undisturbed`: what moves keep holds throughout every course that nothing disturbs.
-/

namespace SymbolLookup

/-- Whether nothing disturbs a desk right now: it is open, no host fails, and none cancels an
outcome. -/
structure Agenda.Undisturbed (agenda : Agenda) : Prop where
  isOpen : agenda.desk.isOpen = true
  noFailure : ∀ message tasks, agenda.tasks ≠ .raise (.handler message) :: tasks
  noCancel : ∀ number tasks, agenda.tasks ≠ .resolve number .cancelled :: tasks

/-- Whether a task disturbs a desk. -/
def Task.disturbs : Task → Bool
  | .raise (.handler _) | .resolve _ .cancelled => true
  | _ => false

theorem Task.disturbs_eq_true {task : Task} : task.disturbs = true ↔
    (∃ message, task = .raise (.handler message)) ∨
      ∃ number, task = .resolve number .cancelled := by
  unfold disturbs
  split <;> simp_all

theorem Agenda.undisturbed_iff {agenda : Agenda} : agenda.Undisturbed ↔
    agenda.desk.isOpen = true ∧ agenda.tasks.head?.any Task.disturbs = false := by
  constructor
  · intro h
    refine ⟨h.isOpen, ?_⟩
    rw [Bool.eq_false_iff]
    intro hd
    obtain ⟨task, ht, hd⟩ := (Option.any_eq_true _ _).1 hd
    obtain ⟨rest, ht⟩ := List.head?_eq_some_iff.1 ht
    obtain ⟨message, rfl⟩ | ⟨number, rfl⟩ := Task.disturbs_eq_true.1 hd
    · exact h.noFailure message rest ht
    · exact h.noCancel number rest ht
  · rintro ⟨ho, hd⟩
    refine ⟨ho, ?_, ?_⟩
    · intro message tasks ht
      rw [ht] at hd
      cases hd
    · intro number tasks ht
      rw [ht] at hd
      cases hd

instance (agenda : Agenda) : Decidable agenda.Undisturbed :=
  decidable_of_iff _ Agenda.undisturbed_iff.symm

/-- Whether each outcome that is owed is in one hand, and no fault but those of hosts is near. -/
structure Agenda.Exact (agenda : Agenda) : Prop where
  holders : ∀ number, agenda.desk.holders agenda.tasks number = agenda.desk.owes number
  answered : ∀ number, agenda.desk.answer? number ≠ some .cancelled
  raises : ∀ fault, .raise fault ∈ agenda.tasks → ∃ message, fault = .handler message

namespace Agenda.Exact

variable {desk after : Desk} {task : Task} {tasks next : List Task} {escaped : Option Fault}

/-- An outcome that something else holds is not settled. -/
theorem answer?_of_hasAnswered_lt {agenda : Agenda} {number : Nat} (he : agenda.Exact)
    (hl : (agenda.desk.hasAnswered number).toNat < agenda.desk.owes number) :
    agenda.desk.answer? number = none := by
  have hb := agenda.desk.owes_le number
  cases ha : agenda.desk.answer? number with
  | none => rfl
  | some old =>
    have hw := Desk.hasAnswered_of_answer? ha fun hc => he.answered number (hc ▸ ha)
    rw [hw, Bool.toNat_true] at hl
    omega

/-- The task that settles an outcome holds it. -/
theorem hasAnswered_lt_of_resolve {number : Nat} {answered : Answered}
    (he : Agenda.Exact ⟨desk, .resolve number answered :: tasks, escaped⟩)
    (hu : Agenda.Undisturbed ⟨desk, .resolve number answered :: tasks, escaped⟩) :
    (desk.hasAnswered number).toNat < desk.owes number := by
  have hc : answered ≠ .cancelled := by
    rintro rfl
    exact hu.noCancel number tasks rfl
  have hh := he.holders number
  dsimp only at hh
  rw [Desk.holders, List.countP_cons_of_pos (by simp [Task.holds, hc])] at hh
  omega

/-- An outcome that is about to be settled is not settled yet. -/
theorem answer?_of_resolve {number : Nat} {answered : Answered}
    (he : Agenda.Exact ⟨desk, .resolve number answered :: tasks, escaped⟩)
    (hu : Agenda.Undisturbed ⟨desk, .resolve number answered :: tasks, escaped⟩) :
    desk.answer? number = none :=
  he.answer?_of_hasAnswered_lt (he.hasAnswered_lt_of_resolve hu)

/-- An outcome that is about to be settled is one of those that are owed. -/
theorem lt_of_resolve {number : Nat} {answered : Answered}
    (he : Agenda.Exact ⟨desk, .resolve number answered :: tasks, escaped⟩)
    (hu : Agenda.Undisturbed ⟨desk, .resolve number answered :: tasks, escaped⟩) :
    number < desk.askers.length := by
  have hl := he.hasAnswered_lt_of_resolve hu
  exact Desk.lt_length_of_owes (Nat.zero_lt_of_lt hl)

/-- The outcome of a pending query is not settled. -/
theorem answer?_of_awaits {agenda : Agenda} {number : Nat} (he : agenda.Exact)
    (hw : agenda.desk.awaits number = true) : agenda.desk.answer? number = none := by
  have hh := he.holders number
  rw [Desk.holders, hw, Bool.toNat_true] at hh
  exact he.answer?_of_hasAnswered_lt (by omega)

theorem move (he : Agenda.Exact ⟨desk, task :: tasks, escaped⟩)
    (hu : Agenda.Undisturbed ⟨desk, task :: tasks, escaped⟩) (hl : desk.Ledger)
    (hm : Move desk task after next) : Agenda.Exact ⟨after, next ++ tasks, escaped⟩ := by
  have answered (number : Nat) : after.answer? number ≠ some .cancelled := by
    obtain ha | ⟨-, other, rfl, ha⟩ := hm.answer?_cases number
    · rw [ha]
      exact he.answered number
    · rw [ha]
      intro hc
      cases hc
      exact hu.noCancel number tasks rfl
  refine ⟨?_, answered, ?_⟩
  · intro number
    have hh := he.holders number
    dsimp only at hh ⊢
    rw [Desk.holders_cons] at hh
    rw [Desk.holders_append]
    obtain hb | ⟨ho, hw, hb⟩ := hm.holders hl number
    · omega
    · -- an outcome that is let go of is settled, and then its answer holds it
      have hb' := desk.owes_le number
      have hn : number < desk.askers.length := Desk.lt_length_of_owes (by omega)
      obtain ⟨old, ha⟩ : ∃ old, desk.answer? number = some old := by
        refine Option.ne_none_iff_exists'.1 fun ha => ?_
        rw [Desk.isOwed_eq_true.2 ⟨hn, ha⟩] at ho
        cases ho
      have hk : after.answer? number = some old := by
        obtain he | ⟨hn, -⟩ := hm.answer?_cases number
        · exact he.trans ha
        · rw [hn] at ha
          cases ha
      have hc := Desk.hasAnswered_of_answer? hk fun hc => answered number (hc ▸ hk)
      have : 1 ≤ after.holders next number := by
        rw [Desk.holders, hc, Bool.toNat_true]
        omega
      omega
  · -- the faults that are not the host's own need a desk that is closed, or an outcome that is
    -- settled twice
    intro fault hf
    rcases List.mem_append.1 hf with hf | hf
    · cases hm.yields hf with
      | fail => exact ⟨_, rfl⟩
      | refuse _ hr =>
        obtain ⟨_, _, ha⟩ := Cache.requestAll_of_isOpen hu.isOpen _
        rw [ha] at hr
        cases hr
      | again hn =>
        have := he.answer?_of_resolve hu
        rw [Desk.answer?] at this
        rw [this] at hn
        cases hn
    · exact he.raises fault (List.mem_cons_of_mem _ hf)

end Agenda.Exact

theorem Begins.exact {agenda after : Agenda} (h : Begins agenda.desk after)
    (hr : agenda.tasks = []) (hl : agenda.desk.Ledger) (he : agenda.Exact) : after.Exact := by
  refine ⟨?_, ?_, ?_⟩
  · intro number
    obtain ⟨hh, ho⟩ := h.holders hl number
    rw [hh, ho, ← he.holders number, hr]
  · intro number
    rw [h.answer?]
    exact he.answered number
  · intro fault hf
    simpa using h.mem_tasks hf

/-- If nothing disturbs a desk, each outcome that is owed is in one hand. -/
theorem Course.exact {agenda : Agenda} {past : List Agenda} (h : Course (agenda :: past))
    (hu : ∀ earlier ∈ past, earlier.Undisturbed) : agenda.Exact := by
  induction h using Course.induct with
  | opened =>
    refine ⟨?_, by simp [Desk.answer?], by simp⟩
    intro number
    simp [Desk.holders, Desk.awaits, Desk.asker?, Desk.hasAnswered, Desk.answer?, Desk.askers,
      Desk.owes]
  | worked hc hs ih =>
    have he := ih fun earlier hm => hu earlier (List.mem_cons_of_mem _ hm)
    have hn := hu _ List.mem_cons_self
    cases hs with
    | move hm => exact he.move hn hc.ledger hm
    | raise =>
      obtain ⟨message, rfl⟩ := he.raises _ List.mem_cons_self
      exact absurd rfl (hn.noFailure message _)
  | began hc hr hb ih =>
    exact hb.exact hr hc.ledger (ih fun earlier hm => hu earlier (List.mem_cons_of_mem _ hm))

/-- What holds when a desk is opened, and is kept by moves and by the beginnings of deeds, holds
throughout every course that nothing disturbs. -/
@[elab_as_elim]
theorem Course.induct_undisturbed
    {p : ∀ (agenda : Agenda) (past : List Agenda), Course (agenda :: past) →
      (∀ earlier ∈ past, earlier.Undisturbed) → Prop}
    (opened : ∀ {supply index mode partition rules interpreter}
      {h : Course [⟨{ supply, index, mode, partition, rules, interpreter }, [], none⟩]} {hu},
      p _ [] h hu)
    (moved : ∀ {desk after task tasks next escaped past}
      (hc : Course (⟨desk, task :: tasks, escaped⟩ :: past))
      {h : Course (⟨after, next ++ tasks, escaped⟩ :: ⟨desk, task :: tasks, escaped⟩ :: past)}
      (hp : ∀ earlier ∈ past, earlier.Undisturbed)
      (hu : ∀ earlier ∈ (⟨desk, task :: tasks, escaped⟩ :: past : List Agenda),
        earlier.Undisturbed),
      Move desk task after next → p _ past hc hp → p _ _ h hu)
    (began : ∀ {agenda after past} (hc : Course (agenda :: past))
      {h : Course (after :: agenda :: past)} (hp : ∀ earlier ∈ past, earlier.Undisturbed) {hu},
      agenda.tasks = [] → Begins agenda.desk after → p agenda past hc hp →
      p after (agenda :: past) h hu)
    {agenda : Agenda} {past : List Agenda} (h : Course (agenda :: past))
    (hu : ∀ earlier ∈ past, earlier.Undisturbed) : p agenda past h hu := by
  induction h using Course.induct with
  | opened => exact opened
  | worked hc hs ih =>
    have hp := fun earlier hm => hu earlier (List.mem_cons_of_mem _ hm)
    cases hs with
    | move hm => exact moved hc hp hu hm (ih hp)
    | raise =>
      -- a fault that takes its way would be one of a host
      obtain ⟨message, rfl⟩ := (hc.exact hp).raises _ List.mem_cons_self
      exact absurd rfl ((hu _ List.mem_cons_self).noFailure message _)
  | began hc hr hb ih =>
    have hp := fun earlier hm => hu earlier (List.mem_cons_of_mem _ hm)
    exact began hc hp hr hb (ih hp)

end SymbolLookup

import Mathlib.Logic.Relation
import SymbolLookup.Proofs.Desk.Exchange
import SymbolLookup.Proofs.Desk.Supersession
/-!
# Frames

What a desk does for the tasks on top of others it would do for them alone, as long as no fault gets
past them.

## Main definitions

* `Agenda.Reaches`: whether an agenda becomes another.
* `Agenda.HostsReturn`: whether all hosts that are called from now on return.

## Main results

* `Agenda.Reaches.append`: tasks are done alike on top of others.
* `Agenda.HostsReturn.calls`: hosts that are called one after the other return.
* `Desk.returns_guarded`: no fault gets past a guard.

## Design notes

A host returns if no fault comes out of its call: neither one of its own nor one of a query that it
types.
-/

namespace SymbolLookup

/-! ## The way of a fault -/

/-- A fault that is handled leaves the tasks below alone. -/
theorem unwind_append {fault : Fault} {tasks : List Task} (h : (unwind fault tasks).2 = none)
    (rest : List Task) : unwind fault (tasks ++ rest) = ((unwind fault tasks).1 ++ rest, none) := by
  fun_induction unwind fault tasks with
  | case1 => cases h
  | case2 tasks => rfl
  | case3 number result tasks => rfl
  | case4 task tasks hg hc ih =>
    rw [← ih h, List.cons_append]
    cases task <;> simp_all [unwind]

/-- A guard at the bottom handles each fault. -/
theorem unwind_guarded (fault : Fault) (tasks : List Task) :
    (unwind fault (tasks ++ [.guard])).2 = none ∧
      ((unwind fault (tasks ++ [.guard])).1 = [] ∨
        ∃ left, (unwind fault (tasks ++ [.guard])).1 = left ++ [.guard]) := by
  induction tasks with
  | nil => exact ⟨rfl, .inl rfl⟩
  | cons task tasks ih =>
    cases task with
    | guard => exact ⟨rfl, .inr ⟨tasks, rfl⟩⟩
    | conclude number result => exact ⟨rfl, .inr ⟨_ :: tasks, rfl⟩⟩
    | _ => exact ih

namespace Agenda

variable {agenda after later : Agenda}

/-- A fault that gets past all tasks leaves none. -/
theorem escaped_of_step? (h : agenda.step? = some after) (he : agenda.escaped = none) :
    after.escaped = none ∨ after.tasks = [] := by
  cases step_of_step? h with
  | move => exact .inl he
  | @raise desk fault tasks =>
    obtain ⟨hn, -⟩ | ⟨passed, rest, -, ⟨-, hu⟩ | ⟨number, result, -, hu⟩⟩ :=
      unwind_cases fault tasks
    · exact .inr hn
    · exact .inl (congrArg Prod.snd hu)
    · exact .inl (congrArg Prod.snd hu)

/-- The next step is the same on top of other tasks. -/
theorem step?_append (h : agenda.step? = some after) (he : after.escaped = none)
    (rest : List Task) : step? { agenda with tasks := agenda.tasks ++ rest } =
      some { after with tasks := after.tasks ++ rest } := by
  obtain ⟨desk, tasks, escaped⟩ := agenda
  cases tasks with
  | nil => cases h
  | cons task tasks =>
    by_cases hr : ∃ fault, task = .raise fault
    · obtain ⟨fault, rfl⟩ := hr
      cases h
      have he : (unwind fault tasks).2 = none := he
      simp only [step?, List.cons_append, unwind_append he rest, he]
    · have ht : ∀ fault, task ≠ .raise fault := fun fault e => hr ⟨fault, e⟩
      rw [step?_cons ht] at h
      cases h
      rw [List.cons_append, step?_cons ht, List.append_assoc]

/-- The next task does a move, unless it is a fault. -/
theorem exists_move (desk : Desk) {task : Task} (tasks : List Task) (h : task.raises = false) :
    ∃ after next, Move desk task after next ∧
      step? ⟨desk, task :: tasks, none⟩ = some ⟨after, next ++ tasks, none⟩ := by
  have ht : ∀ fault, task ≠ .raise fault := by
    rintro fault rfl
    cases h
  exact ⟨_, _, Desk.move_perform ht rfl, step?_cons ht desk tasks none⟩

/-! ## Reaching -/

/-- Whether an agenda becomes another when its tasks are done. -/
def Reaches (agenda later : Agenda) : Prop :=
  Relation.ReflTransGen (fun before after => before.step? = some after) agenda later

namespace Reaches

theorem refl (agenda : Agenda) : agenda.Reaches agenda := Relation.ReflTransGen.refl

theorem head (h : agenda.step? = some after) (hr : after.Reaches later) : agenda.Reaches later :=
  Relation.ReflTransGen.head h hr

theorem trans (first : agenda.Reaches after) (second : after.Reaches later) :
    agenda.Reaches later :=
  Relation.ReflTransGen.trans first second

theorem single (h : agenda.step? = some after) : agenda.Reaches after :=
  Relation.ReflTransGen.single h

/-- An agenda without tasks stays as it is. -/
theorem eq_of_nil {desk : Desk} {escaped : Option Fault}
    (h : Reaches ⟨desk, [], escaped⟩ later) : later = ⟨desk, [], escaped⟩ := by
  obtain rfl | ⟨_, hs, -⟩ := Relation.ReflTransGen.cases_head h
  · rfl
  · cases hs

theorem escaped_or (h : agenda.Reaches later) (ha : agenda.escaped = none) :
    later.escaped = none ∨ later.tasks = [] := by
  induction h with
  | refl => exact .inl ha
  | @tail middle _ _ hs ih =>
    refine escaped_of_step? hs (ih.resolve_right fun hn => ?_)
    obtain ⟨desk, tasks, escaped⟩ := middle
    obtain rfl : tasks = [] := hn
    cases hs

/-- If no fault gets past all tasks in the end, none does before. -/
theorem escaped_eq_none (h : after.Reaches later) (hl : later.escaped = none)
    (ha : after.escaped = none ∨ after.tasks = []) : after.escaped = none := by
  obtain ha | ha := ha
  · exact ha
  · obtain ⟨desk, tasks, escaped⟩ := after
    obtain rfl : tasks = [] := ha
    rw [eq_of_nil h] at hl
    exact hl

/-- An agenda is reached by its next step, or it is there already. -/
theorem cases_head (h : agenda.Reaches later) :
    agenda = later ∨ ∃ after, agenda.step? = some after ∧ after.Reaches later :=
  Relation.ReflTransGen.cases_head h

/-- **Frame.** What is reached is reached on top of other tasks as well. -/
theorem append (h : agenda.Reaches later) (ha : agenda.escaped = none)
    (hl : later.escaped = none) (rest : List Task) :
    Reaches { agenda with tasks := agenda.tasks ++ rest }
      { later with tasks := later.tasks ++ rest } := by
  induction h using Relation.ReflTransGen.head_induction_on with
  | refl => exact refl _
  | head hs hr ih =>
    have he := escaped_eq_none hr hl (escaped_of_step? hs ha)
    exact head (step?_append hs he rest) (ih he)

/-- What is kept by every step is kept. -/
theorem stays {p : Agenda → Prop} (step : ∀ a b, a.step? = some b → p a → p b)
    (h : agenda.Reaches later) (hp : p agenda) : p later := by
  induction h with
  | refl => exact hp
  | tail _ hs ih => exact step _ _ hs ih

/-- What is reached on the way to the end comes to the same end. -/
theorem run_eq (h : agenda.Reaches later) : later.run = agenda.run := by
  induction h with
  | refl => rfl
  | tail _ hs ih => rw [← ih, run_of_some hs]

end Reaches

theorem reaches_run (agenda : Agenda) : agenda.Reaches agenda.run := by
  fun_induction run agenda with
  | case1 => exact .refl _
  | case2 _ _ hs _ ih => exact .head hs ih

/-- What is reached on the way comes to the end. -/
theorem Reaches.reaches_end {desk : Desk} {escaped : Option Fault}
    (h : agenda.Reaches ⟨desk, [], escaped⟩) (hl : agenda.Reaches later) :
    later.Reaches ⟨desk, [], escaped⟩ := by
  have he : later.run = ⟨desk, [], escaped⟩ := by
    rw [hl.run_eq, ← h.run_eq]
    exact run_of_none rfl
  exact he ▸ later.reaches_run

end Agenda

/-- A course goes on to whatever is reached. -/
theorem Course.reaches {agenda later : Agenda} {past : List Agenda} (h : Course (agenda :: past))
    (hr : agenda.Reaches later) :
    ∃ earlier, Course (later :: earlier) ∧ agenda :: past <:+ later :: earlier := by
  induction hr with
  | refl => exact ⟨past, h, List.suffix_rfl⟩
  | tail _ hs ih =>
    obtain ⟨earlier, hc, he⟩ := ih
    exact ⟨_, hc.worked hs, he.trans (List.suffix_cons _ _)⟩

/-- While there are tasks, no fault has got past all of them. -/
theorem Course.escaped_eq_none {agenda : Agenda} {past : List Agenda}
    (h : Course (agenda :: past)) (ht : agenda.tasks ≠ []) : agenda.escaped = none := by
  suffices agenda.escaped = none ∨ agenda.tasks = [] from this.resolve_right ht
  clear ht
  induction h using Course.induct with
  | opened => exact .inl rfl
  | worked _ hs ih =>
    cases hs with
    | move => exact .inl (ih.resolve_right nofun)
    | @raise desk fault tasks escaped =>
      have step : Agenda.step? ⟨desk, .raise fault :: tasks, none⟩ =
        some ⟨desk, (unwind fault tasks).1, (unwind fault tasks).2⟩ := rfl
      exact Agenda.escaped_of_step? step rfl
  | began _ _ hb => cases hb <;> exact .inl rfl

/-! ## Returning -/

namespace Desk

variable {desk : Desk} {tasks : List Task}

theorem reaches_of_returns (h : (desk.run tasks).2 = none) :
    Agenda.Reaches ⟨desk, tasks, none⟩ ⟨(desk.run tasks).1, [], none⟩ := by
  have hr := Agenda.reaches_run ⟨desk, tasks, none⟩
  have hn := Agenda.tasks_run ⟨desk, tasks, none⟩
  unfold run at h ⊢
  generalize Agenda.run ⟨desk, tasks, none⟩ = last at h hn hr
  obtain ⟨after, left, escaped⟩ := last
  obtain rfl : escaped = none := h
  obtain rfl : left = [] := hn
  exact hr

/-- No fault gets past a guard. -/
theorem returns_guarded (desk : Desk) (tasks : List Task) :
    (desk.run (tasks ++ [.guard])).2 = none := by
  refine (Agenda.run_induction (p := fun agenda => agenda.escaped = none ∧
    (agenda.tasks = [] ∨ ∃ left, agenda.tasks = left ++ [.guard])) ?_
    ⟨desk, tasks ++ [.guard], none⟩ ⟨rfl, .inr ⟨tasks, rfl⟩⟩).1
  rintro agenda after hs ⟨he, hg⟩
  cases Agenda.step_of_step? hs with
  | @move desk after task tasks next escaped hm =>
    refine ⟨he, ?_⟩
    obtain hg | ⟨left, hg⟩ := hg
    · cases hg
    · cases left with
      | nil =>
        obtain ⟨rfl, rfl⟩ := List.cons.inj hg
        cases hm
        exact .inl rfl
      | cons first left =>
        obtain ⟨rfl, rfl⟩ := List.cons.inj hg
        exact .inr ⟨next ++ left, by simp⟩
  | @raise desk fault tasks escaped =>
    obtain hg | ⟨left, hg⟩ := hg
    · cases hg
    · cases left with
      | nil => cases hg
      | cons first left =>
        obtain ⟨-, rfl⟩ := List.cons.inj hg
        exact unwind_guarded fault left

end Desk

namespace Agenda

variable {agenda later : Agenda} {desk : Desk} {tasks rest : List Task}

/-- Whether all hosts that are called from now on return: no fault comes out of their calls. -/
def HostsReturn (agenda : Agenda) : Prop :=
  ∀ later, agenda.Reaches later → ∀ call tasks, later.tasks = .call call :: tasks →
    (later.desk.run [.call call]).2 = none

namespace HostsReturn

theorem of_reaches (h : agenda.HostsReturn) (hr : agenda.Reaches later) : later.HostsReturn :=
  fun _ hl => h _ (hr.trans hl)

/-- If all hosts return, so do those that are called for the tasks on top. -/
theorem of_append (h : HostsReturn ⟨desk, tasks ++ rest, none⟩) :
    HostsReturn ⟨desk, tasks, none⟩ := by
  intro later hr call others ht
  have he : later.escaped = none := (hr.escaped_or rfl).resolve_right (by simp [ht])
  have hl := hr.append rfl he rest
  exact h _ hl call (others ++ rest) (by rw [ht, List.cons_append])

/-- Hosts that are called one after the other return. -/
theorem calls {calls : List Task} (hc : ∀ task ∈ calls, ∃ call, task = .call call)
    (h : HostsReturn ⟨desk, calls ++ rest, none⟩) :
    ∃ after, Reaches ⟨desk, calls, none⟩ ⟨after, [], none⟩ := by
  induction calls generalizing desk with
  | nil => exact ⟨desk, .refl _⟩
  | cons task calls ih =>
    obtain ⟨call, rfl⟩ := hc task List.mem_cons_self
    have first := Desk.reaches_of_returns (h _ (.refl _) call _ rfl)
    have others := h.of_reaches (first.append rfl rfl (calls ++ rest))
    obtain ⟨after, hr⟩ := ih (fun task ht => hc task (List.mem_cons_of_mem _ ht)) others
    exact ⟨after, (first.append rfl rfl calls).trans hr⟩

end HostsReturn

/-! ## Runs that are computed -/

theorem reaches_goOn (steps : Nat) (course : Agenda × List Agenda) :
    course.1.Reaches (goOn steps course).1 := by
  fun_induction goOn steps course with
  | case1 => exact .refl _
  | case2 => exact .refl _
  | case3 _ _ _ hs ih => exact .head hs ih

/-- What is reached is gone through on the way to the end. -/
theorem Reaches.mem_goOn {steps : Nat} {course : Agenda × List Agenda}
    (h : course.1.Reaches later) (hr : (goOn steps course).1.tasks = []) :
    later ∈ (goOn steps course).1 :: (goOn steps course).2 := by
  fun_induction goOn steps course with
  | case1 course | case2 steps course hn =>
    obtain ⟨⟨desk, tasks, escaped⟩, past⟩ := course
    obtain rfl : tasks = [] := hr
    rw [h.eq_of_nil]
    exact List.mem_cons_self
  | case3 steps course after hs ih =>
    obtain rfl | ⟨next, hn, hl⟩ := h.cases_head
    · obtain ⟨future, he⟩ := goOn_suffix steps (after, course.1 :: course.2)
      rw [he]
      simp
    · cases hs.symm.trans hn
      exact ih hl hr

/-- Whether a host that is called next is seen to return within some steps. -/
def returnsWithin (steps : Nat) (agenda : Agenda) : Bool :=
  match agenda.tasks with
  | .call call :: _ =>
    let last := (goOn steps (⟨agenda.desk, [.call call], none⟩, [])).1
    last.tasks.isEmpty && last.escaped.isNone
  | _ => true

/-- All hosts return that are seen to. -/
theorem HostsReturn.of_goOn {steps : Nat} {last : Agenda} {before : List Agenda}
    (hg : goOn steps (agenda, []) = (last, before)) (hr : last.tasks = [])
    (hc : ∀ moment ∈ last :: before, moment.returnsWithin steps = true) : agenda.HostsReturn := by
  intro later hl call tasks ht
  have gone : later ∈ (goOn steps (agenda, [])).1 :: (goOn steps (agenda, [])).2 :=
    Reaches.mem_goOn hl (by rw [hg, hr])
  rw [hg] at gone
  have seen := hc later gone
  rw [returnsWithin, ht] at seen
  obtain ⟨ended, whole⟩ := Bool.and_eq_true_iff.1 seen
  have reached := reaches_goOn steps (⟨later.desk, [.call call], none⟩, [])
  generalize (goOn steps (⟨later.desk, [.call call], none⟩, [])).1 = last at ended whole reached
  obtain ⟨desk, left, escaped⟩ := last
  obtain rfl : left = [] := List.isEmpty_iff.1 ended
  have same : run ⟨later.desk, [.call call], none⟩ = ⟨desk, [], escaped⟩ :=
    reached.run_eq.symm.trans (run_of_none rfl)
  rw [Desk.run, same]
  exact Option.isNone_iff_eq_none.1 whole

end Agenda

end SymbolLookup

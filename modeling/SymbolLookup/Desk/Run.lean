import SymbolLookup.Desk.Effort
/-!
# Running a desk

## Main definitions

* `Agenda.run`: does tasks until none is left.
* `Desk.run`: has a desk do some tasks.
* `Desk.drained`: the desk after all loads had their turns.
-/

namespace SymbolLookup

namespace Agenda

/-- The agenda after all its tasks were done. -/
def run (agenda : Agenda) : Agenda :=
  match h : agenda.step? with
  | none => agenda
  | some after =>
    have := step?_effort_lt h
    after.run
termination_by agenda.effort
decreasing_by assumption

theorem run_of_none {agenda : Agenda} (h : agenda.step? = none) : agenda.run = agenda := by
  rw [run]
  split <;> simp_all

theorem run_of_some {agenda after : Agenda} (h : agenda.step? = some after) :
    agenda.run = after.run := by
  rw [run]
  split <;> simp_all

/-- What holds of an agenda and is kept by every step holds at the end. -/
theorem run_induction {p : Agenda → Prop} (step : ∀ a b, a.step? = some b → p a → p b)
    (agenda : Agenda) (h : p agenda) : p agenda.run := by
  fun_induction run agenda with
  | case1 agenda hn => exact h
  | case2 agenda after ha _ ih => exact ih (step agenda after ha h)

/-- At the end no task is left. -/
theorem tasks_run (agenda : Agenda) : agenda.run.tasks = [] := by
  fun_induction run agenda with
  | case1 agenda hn =>
    unfold step? at hn
    split at hn
    · assumption
    · simp at hn
    · simp at hn
  | case2 agenda after _ _ ih => exact ih

end Agenda

namespace Desk

/-- The desk after some tasks were done with all that came of them, and the fault that took some of
them away, if one did. -/
def run (desk : Desk) (tasks : List Task) : Desk × Option Fault :=
  let agenda := Agenda.run { desk, tasks }
  (agenda.desk, agenda.escaped)

/-- The desk after all loads had their turns. -/
def drained (desk : Desk) : Desk := (desk.run [.drain]).1

end Desk

end SymbolLookup

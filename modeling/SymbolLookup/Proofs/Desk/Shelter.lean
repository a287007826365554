import SymbolLookup.Proofs.Desk.Move
/-!
# What faults leave alone

A fault never takes away a load whose turn has come, nor the ending of a load, nor the settling of
a query that waited for one.

## Main definitions

* `Task.isWork`: whether a task deals with loads.
* `Task.isFirm`: whether it does, or settles a query.
* `swept`: what a fault takes away.
* `Sheltered`: whether faults leave all such tasks alone.

## Main results

* `Move.sheltered`, `sheltered_unwind`: they always do.
* `countP_unwind`: what a fault takes away and what it leaves.
* `Sheltered.filter_unwind`: a fault takes none of them away.

## Design notes

Whatever may fail while loads run is done under a guard of its own. Only what a query does when it
is typed has no guard, and then no such task stands between it and the next guard.
-/

namespace SymbolLookup

/-- Whether a task deals with loads. -/
def Task.isWork : Task → Bool
  | .finish _ _ | .load _ | .drain => true
  | _ => false

/-- Whether a task deals with loads, or settles a query that may have waited for one. -/
def Task.isFirm : Task → Bool
  | .settle _ => true
  | task => task.isWork

/-- Whether a fault can come of a task. -/
def Task.mayFail : Task → Bool
  | .finish _ _ | .load _ | .drain | .guard => false
  | _ => true

/-- What a fault on top of some tasks takes away. -/
def swept (tasks : List Task) : List Task := tasks.takeWhile (!·.handles)

/-- Whether a fault on top of some tasks takes no firm one away. -/
def Spares (tasks : List Task) : Prop := ∀ task ∈ swept tasks, task.isFirm = false

/-- Whether a fault of any of some tasks takes no firm one away. -/
def Sheltered : List Task → Prop
  | [] => True
  | task :: tasks => (task.mayFail = true → Spares tasks) ∧ Sheltered tasks

section Stack

variable {task : Task} {tasks next : List Task}

theorem Task.isFirm_of_isWork (h : task.isWork = true) : task.isFirm = true := by
  cases task <;> first | exact h | rfl

theorem mem_of_mem_swept (h : task ∈ swept tasks) : task ∈ tasks :=
  (List.takeWhile_sublist _).subset h

theorem spares_guard (tasks : List Task) : Spares (.guard :: tasks) := nofun

theorem Spares.cons (h : Spares tasks) (hf : task.isFirm = false) : Spares (task :: tasks) := by
  intro other hm
  rw [swept, List.takeWhile_cons] at hm
  split at hm
  · rcases List.mem_cons.1 hm with rfl | hm
    · exact hf
    · exact h other hm
  · cases hm

theorem Spares.tail (h : Spares (task :: tasks)) (ht : task.handles = false) :
    task.isFirm = false ∧ Spares tasks := by
  rw [Spares, swept, List.takeWhile_cons, if_pos (by simp [ht])] at h
  exact ⟨h task List.mem_cons_self, fun other hm => h other (List.mem_cons_of_mem _ hm)⟩

theorem Spares.append (h : Spares tasks) (hn : ∀ task ∈ next, task.isFirm = false) :
    Spares (next ++ tasks) := by
  induction next with
  | nil => exact h
  | cons first next ih =>
    exact (ih fun task hm => hn task (List.mem_cons_of_mem _ hm)).cons (hn _ List.mem_cons_self)

theorem Sheltered.append (h : Sheltered tasks) (hs : Spares tasks)
    (hn : ∀ task ∈ next, task.isFirm = false) : Sheltered (next ++ tasks) := by
  induction next with
  | nil => exact h
  | cons first next ih =>
    have hn : ∀ task ∈ next, task.isFirm = false :=
      fun task hm => hn task (List.mem_cons_of_mem _ hm)
    exact ⟨fun _ => hs.append hn, ih hn⟩

/-- Tasks with a guard each are sheltered on top of any that are. -/
theorem Sheltered.append_guarded {α : Type} (h : Sheltered tasks) (f : α → Task)
    (items : List α) : Sheltered ((items.flatMap fun item => [f item, .guard]) ++ tasks) := by
  induction items with
  | nil => exact h
  | cons item items ih => exact ⟨fun _ => spares_guard _, nofun, ih⟩

theorem Sheltered.of_append (h : Sheltered (next ++ tasks)) : Sheltered tasks := by
  induction next with
  | nil => exact h
  | cons first next ih => exact ih h.2

end Stack

/-! ## Moves -/

/-- Only a query that is looked for and loads that have their turns bring forth firm tasks. -/
theorem Yields.isFirm_eq_false {desk : Desk} {task first : Task} (h : Yields desk task first)
    (hf : task.mayFail = true) (hl : ∀ ticket, task ≠ .look ticket) : first.isFirm = false := by
  cases h with
  | settle => exact absurd rfl (hl _)
  | wake | bring | miss | load | drain => cases hf
  | _ => rfl

theorem Move.sheltered {desk after : Desk} {task : Task} {tasks next : List Task}
    (h : Move desk task after next) (ht : Sheltered (task :: tasks)) :
    Sheltered (next ++ tasks) := by
  obtain ⟨hs, ht⟩ := ht
  by_cases hf : task.mayFail = true ∧ ∀ ticket, task ≠ .look ticket
  · exact ht.append (hs hf.1) fun first hm => (h.yields hm).isFirm_eq_false hf.1 hf.2
  · -- what waits is settled under a guard, and loads never fail on top of work
    cases h with
    | @lookEnded _ _ _ _ guards _ _ _ hg =>
      have hn : ∀ task ∈ guards, task.isFirm = false := by
        obtain rfl | rfl := hg
        · simp
        · simp [Task.isFirm, Task.isWork]
      exact ⟨fun _ => (hs rfl).append hn, ht.append (hs rfl) hn⟩
    | lookRefused => exact ⟨hs, ht⟩
    | lookNowhere | lookWaits => exact ht
    | finish => exact ht.append_guarded _ _
    | @load number _ shard =>
      have hd : Sheltered (.finish number (.shard shard) :: tasks) := ⟨by simp [Task.mayFail], ht⟩
      rw [List.append_assoc]
      exact hd.append_guarded _ _
    | loadLeft | loadFailed => exact ⟨by simp [Task.mayFail], ht⟩
    | drain => exact ⟨by simp [Task.mayFail], by simp [Task.mayFail], ht⟩
    | loadSkipped | drained | guard => exact ht
    | _ => exact absurd ⟨rfl, by simp⟩ hf

theorem Begins.sheltered {desk : Desk} {after : Agenda} (h : Begins desk after) :
    Sheltered after.tasks := by
  cases h <;> simp [Sheltered, Spares, swept]

/-! ## Faults -/

theorem sheltered_unwind {fault : Fault} {tasks : List Task}
    (h : Sheltered (.raise fault :: tasks)) : Sheltered (unwind fault tasks).1 := by
  obtain ⟨hn, -⟩ | ⟨passed, rest, -, ⟨rfl, hu⟩ | ⟨number, result, rfl, hu⟩⟩ :=
    unwind_cases fault tasks
  · rw [hn]
    trivial
  · rw [hu]
    exact h.2.of_append.2
  · rw [hu]
    have hr := h.2.of_append
    exact ⟨fun _ => hr.1 rfl, hr.2⟩

/-- A task is taken away by a fault, or handles it, or is left. -/
theorem mem_unwind_of_mem {fault : Fault} {tasks : List Task} {task : Task} (hm : task ∈ tasks)
    (hs : task ∉ swept tasks) (hh : task.handles = false) : task ∈ (unwind fault tasks).1 := by
  fun_induction unwind fault tasks with
  | case1 => exact hm
  | case2 rest => exact (List.mem_cons.1 hm).resolve_left fun he => by rw [he] at hh; cases hh
  | case3 number result rest =>
    refine List.mem_cons_of_mem _ ((List.mem_cons.1 hm).resolve_left fun he => ?_)
    rw [he] at hh
    cases hh
  | case4 first tasks hg hc ih =>
    have hf : first.handles = false := by cases first <;> simp_all [Task.handles]
    rw [swept, List.takeWhile_cons, if_pos (by simp [hf]), List.mem_cons, not_or] at hs
    exact ih ((List.mem_cons.1 hm).resolve_left hs.1) hs.2

/-- A fault takes tasks away, and leaves all others but the one that handles it. -/
theorem countP_unwind {p : Task → Bool} (hg : p .guard = false)
    (hc : ∀ number result fault, p (.resolve number (.fault fault)) = p (.conclude number result))
    (fault : Fault) (tasks : List Task) :
    tasks.countP p = (swept tasks).countP p + (unwind fault tasks).1.countP p := by
  fun_induction unwind fault tasks with
  | case1 => rfl
  | case2 rest => simp [swept, Task.handles, hg]
  | case3 number result rest =>
    rw [List.countP_cons, List.countP_cons, hc number result]
    simp [swept, Task.handles]
  | case4 task tasks hg hc ih =>
    have ht : task.handles = false := by cases task <;> simp_all [Task.handles]
    rw [swept, List.takeWhile_cons, if_pos (by simp [ht]), List.countP_cons, List.countP_cons, ih,
      swept]
    omega

/-- A fault takes no firm task away. -/
theorem Spares.filter_unwind {tasks : List Task} (h : Spares tasks) {p : Task → Bool}
    (hp : ∀ task, p task = true → task.isFirm = true) (fault : Fault) :
    (unwind fault tasks).1.filter p = tasks.filter p := by
  have loose {task : Task} (ht : task.isFirm = false) : ¬p task = true := by
    intro hpt
    rw [hp task hpt] at ht
    cases ht
  fun_induction unwind fault tasks with
  | case1 => rfl
  | case2 rest => rw [List.filter_cons_of_neg (loose rfl)]
  | case3 number result rest =>
    rw [List.filter_cons_of_neg (loose rfl), List.filter_cons_of_neg (loose rfl)]
  | case4 task tasks hg hc ih =>
    have ht : task.handles = false := by cases task <;> simp_all [Task.handles]
    obtain ⟨hf, hs⟩ := h.tail ht
    rw [List.filter_cons_of_neg (loose hf), ih hs]

theorem Sheltered.filter_unwind {fault : Fault} {tasks : List Task}
    (h : Sheltered (.raise fault :: tasks)) {p : Task → Bool}
    (hp : ∀ task, p task = true → task.isFirm = true) :
    (unwind fault tasks).1.filter p = (.raise fault :: tasks).filter p := by
  have hs : Spares tasks := h.1 rfl
  have hr : ¬p (.raise fault) = true := fun hr => by cases hp _ hr
  rw [hs.filter_unwind hp, List.filter_cons_of_neg hr]

/-- A fault leaves the firm tasks below it. -/
theorem Sheltered.mem_unwind {fault : Fault} {tasks : List Task} {task : Task}
    (h : Sheltered (.raise fault :: tasks)) (hf : task.isFirm = true) (hm : task ∈ tasks) :
    task ∈ (unwind fault tasks).1 := by
  refine mem_unwind_of_mem hm (fun hs => ?_) (by cases task <;> first | rfl | cases hf)
  rw [h.1 rfl task hs] at hf
  cases hf

/-! ## Courses -/

theorem Agenda.Step.sheltered {agenda after : Agenda} (h : agenda.Step after)
    (hs : Sheltered agenda.tasks) : Sheltered after.tasks := by
  cases h with
  | move hm => exact hm.sheltered hs
  | raise => exact sheltered_unwind hs

/-- Throughout every course faults leave all such tasks alone. -/
theorem Course.sheltered {agenda : Agenda} {past : List Agenda} (h : Course (agenda :: past)) :
    Sheltered agenda.tasks := by
  induction h using Course.induct with
  | opened => trivial
  | worked _ hs ih => exact hs.sheltered ih
  | began _ _ hb => exact hb.sheltered

end SymbolLookup

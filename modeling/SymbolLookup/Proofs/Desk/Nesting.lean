import SymbolLookup.Proofs.Desk.Broken
/-!
# How queries are nested

A query that is typed while another is being taken is dealt with before the other one goes on.

## Main definitions

* `Task.subject?`: the outcome that a task is about.
* `Nested`: whether all that is to be done once a query was taken is about earlier queries.
* `Agenda.SparesLater`: whether no host cancels a query that was typed within another one.

## Main results

* `Course.subject_lt`, `Course.nested`, `Course.sparesLater`: these always hold.
* `Nested.lt_of_mem_unwind`: what a fault leaves that ends the taking of a query is about earlier
  ones.
-/

namespace SymbolLookup

/-- The outcome that a task is about. -/
def Task.subject? : Task → Option Nat
  | .look ticket | .settle ticket | .deliver ticket _ _ => some ticket.outcome
  | .resolve number _ | .conclude number _ | .handOut number => some number
  | _ => none

theorem Task.subject?_of_looksFor {task : Task} {number : Nat}
    (h : task.looksFor number = true) : task.subject? = some number := by
  cases task <;> first | cases h | exact congrArg some (beq_iff_eq.1 h)

theorem Task.subject?_of_holds {task : Task} {number : Nat} (h : task.holds number = true) :
    task.subject? = some number := by
  cases task with
  | resolve => exact congrArg some (Task.eq_of_holds_resolve h)
  | conclude | deliver => exact congrArg some (beq_iff_eq.1 h)
  | _ => cases h

/-- Whether all that is to be done once a query was taken is about earlier queries. -/
def Nested (tasks : List Task) : Prop :=
  ∀ number rest, .handOut number :: rest <:+ tasks →
    ∀ task ∈ rest, ∀ subject, task.subject? = some subject → subject < number

/-! ## Subjects -/

section Subject

variable {desk after : Desk} {task first : Task} {tasks next : List Task} {escaped : Option Fault}
  {past : List Agenda} {subject : Nat}

/-- What comes of a task is about the same query, or about queries that were typed. -/
theorem Move.subject_lt (hm : Move desk task after next)
    (h : Course (⟨desk, task :: tasks, escaped⟩ :: past))
    (ht : ∀ subject, task.subject? = some subject → subject < desk.askers.length)
    (hf : first ∈ next) (hs : first.subject? = some subject) : subject < after.askers.length := by
  obtain ⟨later, ha⟩ := hm.askers_prefix
  have grown : desk.askers.length ≤ after.askers.length := by
    rw [← ha, List.length_append]
    omega
  -- a query that was just typed has the last outcome
  have typed {number : Nat} {query : Option String} {followUp : Option FollowUp}
      (he : task = .submit number query followUp) : desk.outcomes.length < after.askers.length := by
    subst he
    cases hm with
    | submit => simp [Desk.askers]
    | submitNowhere => cases hf
  cases hm.yields hf with
  | supersede hn hp =>
    cases hs
    have owed := (Option.filter_eq_some_iff.1 hp).2
    exact Nat.lt_of_lt_of_le (Desk.isOwed_eq_true.1 owed).1 grown
  | empty | look | handOut =>
    cases hs
    exact typed rfl
  | wake hw =>
    cases hs
    have owed := h.owedFor (.inr (Cache.waits_of_mem_waitingFor hw))
    exact Nat.lt_of_lt_of_le owed.lt_length grown
  | settle | deliver | unanswered | conclude | resolve =>
    cases hs
    exact Nat.lt_of_lt_of_le (ht _ rfl) grown
  | _ => cases hs

/-- What a fault leaves was there before, or is about the same query. -/
theorem mem_of_mem_unwind_subject {fault : Fault} (h : first ∈ (unwind fault tasks).1)
    (hs : first.subject? = some subject) : ∃ task ∈ tasks, task.subject? = some subject := by
  obtain hm | ⟨number, result, rfl, hm⟩ := mem_unwind h
  · exact ⟨first, hm, hs⟩
  · exact ⟨_, hm, hs⟩

end Subject

/-- Throughout every course all tasks are about queries that were typed. -/
theorem Course.subject_lt {agenda : Agenda} {past : List Agenda} (h : Course (agenda :: past)) :
    ∀ task ∈ agenda.tasks, ∀ subject, task.subject? = some subject →
      subject < agenda.desk.askers.length := by
  induction h using Course.induct with
  | opened => simp
  | worked hc hs ih =>
    cases hs with
    | move hm =>
      intro first hf subject hs
      rcases List.mem_append.1 hf with hf | hf
      · exact hm.subject_lt hc (ih _ List.mem_cons_self) hf hs
      · have before := ih first (List.mem_cons_of_mem _ hf) subject hs
        exact Nat.lt_of_lt_of_le before hm.askers_prefix.length_le
    | raise =>
      intro first hf subject hs
      obtain ⟨task, hm, ht⟩ := mem_of_mem_unwind_subject hf hs
      exact ih task (List.mem_cons_of_mem _ hm) subject ht
  | began hc _ hb =>
    intro task hm subject hs
    cases hb with
    | cancelOutcome ho =>
      cases List.mem_singleton.1 hm
      cases hs
      exact (Desk.isOwed_eq_true.1 ho).1
    | type | runHeld | drain | cancelLoad | close =>
      cases List.mem_singleton.1 hm
      cases hs
    | _ => cases hm

/-! ## Nesting -/

/-- The last thing that comes of a query that is typed is that its outcome is handed out. -/
theorem Desk.suffix_submitTasks {desk : Desk} {place number : Nat} {session : Session}
    {query : Option String} {rest : List Task}
    (h : .handOut number :: rest <:+ desk.submitTasks place session query) : rest = [] := by
  unfold submitTasks at h
  obtain h | ⟨others, h, -⟩ := cons_suffix_append h
  · rw [List.suffix_cons_iff, List.suffix_cons_iff] at h
    rcases h with he | he | h
    · split at he <;> cases he
    · cases he
      rfl
    · cases List.suffix_nil.1 h
  · have hm := h.subset List.mem_cons_self
    simp at hm

theorem Nested.of_suffix {tasks next : List Task} (h : Nested tasks) (hs : next <:+ tasks) :
    Nested next :=
  fun number rest hr => h number rest (hr.trans hs)

theorem Nested.unwind {fault : Fault} {tasks : List Task} (h : Nested (.raise fault :: tasks)) :
    Nested (unwind fault tasks).1 := by
  have old := h.of_suffix (List.suffix_cons _ tasks)
  obtain ⟨hn, -⟩ | ⟨passed, rest, -, ⟨rfl, hu⟩ | ⟨number, result, rfl, hu⟩⟩ :=
    unwind_cases fault tasks
  · rw [hn]
    intro _ _ hs
    cases List.suffix_nil.1 hs
  · rw [hu]
    exact old.of_suffix ((List.suffix_cons _ _).trans (List.suffix_append _ _))
  · rw [hu]
    intro other others hs
    rcases List.suffix_cons_iff.1 hs with he | hs
    · cases he
    · exact old other others (hs.trans ((List.suffix_cons _ _).trans (List.suffix_append _ _)))

/-- Throughout every course all that is to be done once a query was taken is about earlier ones. -/
theorem Course.nested {agenda : Agenda} {past : List Agenda} (h : Course (agenda :: past)) :
    Nested agenda.tasks := by
  induction h using Course.induct with
  | opened =>
    intro _ _ hs
    cases List.suffix_nil.1 hs
  | worked hc hs ih =>
    cases hs with
    | @move desk after task tasks next escaped hm =>
      intro number rest hr
      obtain hs | ⟨others, hs, rfl⟩ := cons_suffix_append hr
      · exact ih number rest (hs.trans (List.suffix_cons task tasks))
      · -- the query is the last one, and all else was there before
        cases hm.yields (hs.subset List.mem_cons_self)
        cases hm with
        | submitNowhere => cases List.suffix_nil.1 hs
        | submit =>
          obtain rfl := Desk.suffix_submitTasks hs
          intro other hm subject ho
          rw [← Desk.length_askers]
          exact hc.subject_lt other (List.mem_cons_of_mem _ hm) subject ho
    | raise => exact ih.unwind
  | began _ _ hb =>
    intro number rest hs
    simpa using hb.mem_tasks (hs.subset List.mem_cons_self)

/-- What a fault leaves that ends the taking of a query is about earlier queries. -/
theorem Nested.lt_of_mem_unwind {fault : Fault} {tasks : List Task} {own subject : Nat}
    {task : Task} (h : Nested tasks) (ho : .handOut own ∈ swept tasks)
    (hm : task ∈ (SymbolLookup.unwind fault tasks).1) (hs : task.subject? = some subject) :
    subject < own := by
  fun_induction SymbolLookup.unwind fault tasks with
  | case1 => cases hm
  | case2 | case3 => simp [swept, Task.handles] at ho
  | case4 first tasks hg hc ih =>
    have hf : first.handles = false := by cases first <;> simp_all [Task.handles]
    rw [swept, List.takeWhile_cons, if_pos (by simp [hf])] at ho
    rcases List.mem_cons.1 ho with rfl | ho
    · obtain ⟨other, ho, he⟩ := mem_of_mem_unwind_subject hm hs
      exact h own tasks (List.suffix_refl _) other ho subject he
    · exact ih (h.of_suffix (List.suffix_cons _ _)) ho hm

/-! ## Cancellations -/

/-- Whether no host cancels a query that was typed within another one, or is about to. -/
structure Agenda.SparesLater (agenda : Agenda) : Prop where
  /-- A host cancels an outcome when nothing else is to be done. -/
  alone : ∀ number, .resolve number .cancelled ∈ agenda.tasks →
    agenda.tasks = [.resolve number .cancelled]
  /-- While a query is taken, neither it nor a later one is cancelled. -/
  later : ∀ own, .handOut own ∈ agenda.tasks → ∀ number, own ≤ number →
    agenda.desk.answer? number ≠ some .cancelled

theorem Agenda.SparesLater.move {desk after : Desk} {task : Task} {tasks next : List Task}
    {escaped : Option Fault} (h : Agenda.SparesLater ⟨desk, task :: tasks, escaped⟩)
    (hm : Move desk task after next) : Agenda.SparesLater ⟨after, next ++ tasks, escaped⟩ := by
  constructor
  · intro number hr
    rcases List.mem_append.1 hr with hr | hr
    · cases hm.yields hr
    · cases h.alone number (List.mem_cons_of_mem _ hr)
      cases hr
  · intro own ho number hle ha
    obtain he | ⟨-, answered, rfl, he⟩ := hm.answer?_cases number
    · rw [he] at ha
      rcases List.mem_append.1 ho with ho | ho
      · -- a query that was just typed has an outcome that no one was given
        cases hm.yields ho
        have none : desk.answer? number = none := by
          rw [Desk.answer?, List.getElem?_eq_none hle, Option.bind_none]
        cases none.symm.trans ha
      · exact h.later own (List.mem_cons_of_mem _ ho) number hle ha
    · cases he.symm.trans ha
      cases h.alone number List.mem_cons_self
      rw [List.append_nil] at ho
      cases hm.yields ho

/-- Throughout every course hosts cancel no query that was typed within another one. -/
theorem Course.sparesLater {agenda : Agenda} {past : List Agenda} (h : Course (agenda :: past)) :
    agenda.SparesLater := by
  induction h using Course.induct with
  | opened => exact ⟨nofun, nofun⟩
  | worked _ hs ih =>
    cases hs with
    | move hm => exact ih.move hm
    | @raise desk fault tasks escaped =>
      constructor
      · intro number hr
        have hm := mem_of_mem_unwind hr (by simp)
        cases ih.alone number hm
      · intro own ho number hle
        exact ih.later own (mem_of_mem_unwind ho (by simp)) number hle
  | began _ _ hb =>
    constructor
    · intro number hr
      cases hb <;> simp_all
    · intro own ho
      simpa using hb.mem_tasks ho

end SymbolLookup

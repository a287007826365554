import SymbolLookup.Proofs.Desk.Depot
import SymbolLookup.Proofs.Desk.Frames
import SymbolLookup.Proofs.Desk.Nesting
import SymbolLookup.Proofs.Desk.Phases
import SymbolLookup.Proofs.Desk.Settlement
/-!
# Queries that are displaced

While hosts are called, a query that is pending stays so, unless they type another one in its place.

## Main definitions

* `Amid`: whether an agenda stands on top of other tasks in a course, and all hosts return.
* `Agenda.Displaces`: whether a query is typed next that takes the place of another.
* `Agenda.Displaced`: whether that happened on the way from one agenda to another.
* `Task.isAside`: whether a task is not about a query, and not about loads.
* `Desk.Awaits`: whether a query is pending and still owed its answer.
* `Desk.preface`: what is done for a query before it is looked for.

## Main results

* `Course.answer?_of_superseded`: a query that is about to be given up is still owed its answer.
* `Amid.prefaced`: what is done for a query before it is looked for raises no fault.
* `Amid.awaits_or_displaced`: a query that is pending stays so, or is superseded by a displacement.
-/

namespace SymbolLookup

/-! ## Queries that are about to be given up -/

/-- A query that is about to be given up for another is not cancelled. -/
theorem Course.uncancelled_of_superseded {agenda : Agenda} {past : List Agenda}
    (h : Course (agenda :: past)) {number : Nat} (hr : .resolve number .superseded ∈ agenda.tasks) :
    agenda.desk.answer? number ≠ some .cancelled := by
  induction h using Course.induct with
  | opened => cases hr
  | worked hc hs ih =>
    cases hs with
    | @move desk after task tasks next escaped hm =>
      have old (hr : .resolve number .superseded ∈ task :: tasks) (hn : task :: tasks ≠
          [.resolve number .cancelled]) : after.answer? number ≠ some .cancelled := by
        obtain he | ⟨-, answered, rfl, he⟩ := hm.answer?_cases number
        · rw [he]
          exact ih hr
        · rw [he]
          rintro ⟨⟩
          exact hn (hc.sparesLater.alone number List.mem_cons_self)
      rcases List.mem_append.1 hr with hr | hr
      · -- the query was still owed its answer when another one was typed
        cases hm.yields hr with
        | supersede hs hp =>
          have owed := (Desk.isOwed_eq_true.1 (Option.filter_eq_some_iff.1 hp).2).2
          obtain he | ⟨-, _, he, -⟩ := hm.answer?_cases number
          · rw [he, owed]
            nofun
          · cases he
      · refine old (List.mem_cons_of_mem _ hr) fun hn => ?_
        rw [(List.cons.inj hn).2] at hr
        cases hr
    | raise => exact ih (mem_of_mem_unwind hr (by simp))
  | began _ _ hb =>
    have := hb.mem_tasks hr
    simp at this

/-- A query that is about to be given up for another is still owed its answer. -/
theorem Course.answer?_of_superseded {agenda : Agenda} {past : List Agenda}
    (h : Course (agenda :: past)) {number : Nat} (hr : .resolve number .superseded ∈ agenda.tasks) :
    agenda.desk.answer? number = none :=
  h.answer?_of_holds hr (by simp [Task.holds]) (h.uncancelled_of_superseded hr)

/-! ## Tasks on top of others -/

/-- Whether an agenda stands on top of other tasks in a course, and all hosts return. -/
structure Amid (rest : List Task) (desk : Desk) (tasks : List Task) : Prop where
  reached : ∃ past, Course (⟨desk, tasks ++ rest, none⟩ :: past)
  hosts : Agenda.HostsReturn ⟨desk, tasks, none⟩

namespace Amid

variable {desk after : Desk} {task : Task} {tasks others rest below : List Task}

/-- What is reached on top of other tasks stands on top of them. -/
theorem reaches (h : Amid rest desk tasks)
    (hr : Agenda.Reaches ⟨desk, tasks, none⟩ ⟨after, others, none⟩) : Amid rest after others := by
  obtain ⟨past, hc⟩ := h.reached
  obtain ⟨earlier, hc, -⟩ := hc.reaches (hr.append rfl rfl rest)
  exact ⟨⟨earlier, hc⟩, h.hosts.of_reaches hr⟩

/-- The tasks on top stand on top of those below them. -/
theorem top (h : Amid rest desk (tasks ++ below)) : Amid (below ++ rest) desk tasks := by
  obtain ⟨past, hc⟩ := h.reached
  exact ⟨⟨past, List.append_assoc .. ▸ hc⟩, h.hosts.of_append⟩

theorem tail (h : Amid rest desk (tasks ++ below))
    (hr : Agenda.Reaches ⟨desk, tasks, none⟩ ⟨after, [], none⟩) : Amid rest after below :=
  h.reaches (hr.append rfl rfl below)

/-- The next task does a move. -/
theorem move (h : Amid rest desk (task :: tasks)) (ht : task.raises = false) :
    ∃ after next, Move desk task after next ∧
      Agenda.Reaches ⟨desk, task :: tasks, none⟩ ⟨after, next ++ tasks, none⟩ ∧
      Amid rest after (next ++ tasks) := by
  obtain ⟨after, next, hm, hs⟩ := Agenda.exists_move desk tasks ht
  exact ⟨after, next, hm, .single hs, h.reaches (.single hs)⟩

end Amid


/-! ## Displacements -/

/-- Whether a query is typed next that takes the place of another. -/
def Agenda.Displaces (agenda : Agenda) (number : Nat) : Prop :=
  ∃ place query followUp tasks session, agenda.tasks = .submit place query followUp :: tasks ∧
    agenda.desk.sessions[place]? = some session ∧ agenda.desk.superseded? session = some number

/-- Whether a query was superseded on the way from one agenda to another, by one that was typed
meanwhile and displaced it. -/
def Agenda.Displaced (begun later : Agenda) (number : Nat) : Prop :=
  later.desk.answer? number = some .superseded ∧
    ∃ moment, begun.Reaches moment ∧ moment.Reaches later ∧ moment.Displaces number

/-- Whether a task is not about a query, and not about loads. -/
def Task.isAside (number : Nat) (task : Task) : Bool :=
  task.subject? != some number && !task.isWork

/-- Whether a query is pending and still owed its answer. -/
structure Desk.Awaits (desk : Desk) (number : Nat) : Prop where
  pending : desk.awaits number = true
  owed : desk.answer? number = none

theorem Task.isAside_eq_true {task : Task} {number : Nat} :
    task.isAside number = true ↔ task.subject? ≠ some number ∧ task.isWork = false := by
  simp [isAside]

/-- What is done for a query before it is looked for: its news are told, and the query that it
displaces is given up. -/
def Desk.preface (desk : Desk) (place : Nat) (session : Session) (query : Option String) :
    List Task :=
  (desk.newsOf session query).map (announcement place) ++
    (desk.superseded? session).toList.map (.resolve · .superseded)

theorem Desk.submitTasks_eq_preface (desk : Desk) (place : Nat) (session : Session)
    (query : Option String) : desk.submitTasks place session query =
      desk.preface place session query ++
        [if queryKey query = "" then .resolve desk.outcomes.length (.result
            { query, key := queryKey query, groups := [], generation := session.generation + 1 })
          else .look (desk.ticketFor place session query), .handOut desk.outcomes.length] := by
  have hg : (desk.submitted session query).generation = session.generation + 1 := rfl
  simp [submitTasks, preface, newsOf, announcement, ticketFor, hg]

/-- What is done for a query before it is looked for is not about it. -/
theorem Desk.isAside_preface {desk : Desk} {place : Nat} {session : Session}
    {query : Option String} {task : Task} (h : task ∈ desk.preface place session query) :
    task.isAside desk.outcomes.length = true := by
  rcases List.mem_append.1 h with h | h
  · obtain ⟨news, -, rfl⟩ := List.mem_map.1 h
    rfl
  · obtain ⟨pending, hp, rfl⟩ := List.mem_map.1 h
    have owed := (Option.filter_eq_some_iff.1 (Option.mem_toList.1 hp)).2
    have hl := (isOwed_eq_true.1 owed).1
    rw [length_askers] at hl
    exact Task.isAside_eq_true.2 ⟨fun he => Nat.ne_of_lt hl (Option.some.inj he), rfl⟩

section Move

variable {desk after : Desk} {task : Task} {tasks next : List Task} {number : Nat}

/-- What comes of tasks that are not about a query is not about it either, unless it is
displaced. -/
theorem Move.isAside (h : Move desk task after next) (ht : task.isAside number = true)
    (hn : number < desk.askers.length)
    (hd : ¬Agenda.Displaces ⟨desk, task :: tasks, none⟩ number) :
    ∀ first ∈ next, first.isAside number = true := by
  intro first hf
  obtain ⟨hs, hw⟩ := Task.isAside_eq_true.1 ht
  rw [Task.isAside_eq_true]
  have hl := desk.length_askers
  refine ⟨fun he => ?_, (h.yields hf).isWork_eq_false hw⟩
  cases h.yields hf with
  | supersede ho hp =>
    cases he
    exact hd ⟨_, _, _, _, _, rfl, ho, hp⟩
  | empty | look | handOut =>
    cases he
    exact absurd hl (Nat.ne_of_gt hn)
  | wake => cases hw
  | _ => first | exact hs he | cases he

/-- A query that is pending stays so, unless it is displaced. -/
theorem Move.awaits (h : Move desk task after next) (ht : task.isAside number = true)
    (ha : desk.Awaits number)
    (hd : ¬Agenda.Displaces ⟨desk, task :: tasks, none⟩ number) : after.Awaits number := by
  obtain ⟨hs, -⟩ := Task.isAside_eq_true.1 ht
  constructor
  · obtain ⟨session, hq, hp⟩ := Desk.awaits_iff.1 ha.pending
    obtain ⟨asker, hk, hq⟩ := Desk.asker?_eq_some.1 hq
    obtain ⟨other, ho, -⟩ := h.sameTerms hq
    obtain ⟨before, hb, turn⟩ := h.turn ho
    cases hq.symm.trans hb
    obtain ⟨later, he⟩ := h.askers_prefix
    have hk' : after.askers[number]? = some asker := by
      rw [← he, List.getElem?_append_left (Desk.lt_length_of_awaits ha.pending), hk]
    rw [Desk.awaits_of_asker hk' ho]
    cases turn with
    | same | called => exact beq_iff_eq.2 hp
    | settled _ _ hw =>
      cases hp.symm.trans hw
      exact absurd rfl hs
    | submitted =>
      refine absurd ⟨_, _, _, _, _, rfl, hq, ?_⟩ hd
      rw [Desk.superseded?, hp, Option.filter_some,
        if_pos (Desk.isOwed_eq_true.2 ⟨Desk.lt_length_of_awaits ha.pending, ha.owed⟩)]
  · obtain he | ⟨-, answered, rfl, -⟩ := h.answer?_cases number
    · rw [he, ha.owed]
    · exact absurd rfl hs

end Move

theorem isAside_unwind {fault : Fault} {tasks : List Task} {number : Nat}
    (h : ∀ task ∈ tasks, task.isAside number = true) :
    ∀ task ∈ (unwind fault tasks).1, task.isAside number = true := by
  intro task ht
  obtain hm | ⟨place, result, rfl, hm⟩ := mem_unwind ht
  · exact h task hm
  · have ha := h _ hm
    exact ha

/-! ## Settling -/

/-- What became of an outcome stays so. -/
theorem Agenda.Reaches.answer?_of_answer? {agenda later : Agenda} (h : agenda.Reaches later)
    {number : Nat} {answered : Answered} (ha : agenda.desk.answer? number = some answered) :
    later.desk.answer? number = some answered :=
  h.stays (p := fun agenda => agenda.desk.answer? number = some answered)
    (fun _ _ hs ha => (step_of_step? hs).answer?_of_answer? ha) ha

/-- What a host does when it is told what became of a query is done under a guard. -/
theorem FollowsUp.returns {next : List Task} (h : FollowsUp next) (desk : Desk) :
    (desk.run next).2 = none := by
  obtain rfl | ⟨typed, -, rfl⟩ := h
  · exact congrArg Agenda.escaped desk.run_nil
  · exact desk.returns_guarded typed

theorem Agenda.Displaced.extend {start begun later last : Agenda} {number : Nat}
    (h : begun.Displaced later number) (first : start.Reaches begun)
    (others : later.Reaches last) : start.Displaced last number := by
  obtain ⟨ha, moment, hb, hl, hd⟩ := h
  exact ⟨others.answer?_of_answer? ha, moment, first.trans hb, hl.trans others, hd⟩

/-- An outcome that is owed is settled without a fault, whatever its host does then. -/
theorem Desk.reaches_of_resolve {desk : Desk} {number : Nat} {answered : Answered}
    (hl : number < desk.askers.length) (hn : desk.answer? number = none) :
    ∃ after, Agenda.Reaches ⟨desk, [.resolve number answered], none⟩ ⟨after, [], none⟩ ∧
      after.answer? number = some answered := by
  obtain ⟨middle, next, move, step⟩ :=
    Agenda.exists_move desk [] (rfl : (Task.resolve number answered).raises = false)
  have settled := move.answer?_of_resolve hl hn
  have returns : (middle.run next).2 = none := by
    cases move with
    | resolve _ _ _ _ _ hf => exact hf.returns _
    | resolveAgain ho hw =>
      rw [Desk.answer?, ho, Option.bind_some] at hn
      exact absurd hn hw
    | resolveNowhere => exact FollowsUp.returns (.inl rfl) desk
  have later := reaches_of_returns returns
  rw [List.append_nil] at step
  exact ⟨_, .head step later, later.answer?_of_answer? settled⟩

namespace Amid

variable {desk after : Desk} {task : Task} {tasks rest : List Task} {number : Nat}

/-- What is done for a query before it is looked for raises no fault, and the query that it
displaces is superseded then. -/
theorem prefaced {start : Desk} {place : Nat} {session : Session} {query : Option String}
    (h : Amid rest desk (start.preface place session query ++ tasks)) :
    ∃ after, Agenda.Reaches ⟨desk, start.preface place session query, none⟩ ⟨after, [], none⟩ ∧
      ∀ number, start.superseded? session = some number →
        after.answer? number = some .superseded := by
  rw [Desk.preface, List.append_assoc] at h
  have calls : ∀ task ∈ (start.newsOf session query).map (announcement place),
      ∃ call, task = .call call := by
    intro task ht
    obtain ⟨news, -, rfl⟩ := List.mem_map.1 ht
    exact ⟨_, rfl⟩
  obtain ⟨told, hc⟩ := h.hosts.calls calls
  have h := h.tail hc
  rw [Desk.preface]
  cases hp : start.superseded? session with
  | none => exact ⟨told, hc.append rfl rfl [], nofun⟩
  | some pending =>
    rw [hp] at h
    obtain ⟨past, course⟩ := h.reached
    have owed := course.answer?_of_superseded List.mem_cons_self
    have typed := course.subject_lt _ List.mem_cons_self pending rfl
    obtain ⟨after, hd, settled⟩ := Desk.reaches_of_resolve typed owed
    refine ⟨after, (hc.append rfl rfl _).trans hd, ?_⟩
    rintro number ⟨⟩
    exact settled

/-- A query that is displaced is superseded in the end. -/
theorem superseded_of_displaces (h : Amid rest desk tasks)
    (hr : Agenda.Reaches ⟨desk, tasks, none⟩ ⟨after, [], none⟩)
    (hd : Agenda.Displaces ⟨desk, tasks, none⟩ number) :
    after.answer? number = some .superseded := by
  obtain ⟨place, query, followUp, below, session, ht, hs, hp⟩ := hd
  obtain rfl : tasks = .submit place query followUp :: below := ht
  obtain ⟨_, next, hm, typed, h⟩ := h.move rfl
  cases hm with
  | submitNowhere hn => cases hs.symm.trans hn
  | submit hn =>
    cases hs.symm.trans hn
    rw [Desk.submitTasks_eq_preface, List.append_assoc] at typed h
    obtain ⟨dropped, hd, settled⟩ := h.prefaced
    have goes := typed.trans (hd.append rfl rfl _)
    exact (hr.reaches_end goes).answer?_of_answer? (settled number hp)

/-- A query that is pending stays so while tasks are done that are not about it, unless it is
displaced. -/
theorem awaits_or_displaced_alone (h : Amid rest desk tasks)
    (hr : Agenda.Reaches ⟨desk, tasks, none⟩ ⟨after, [], none⟩)
    (ht : ∀ task ∈ tasks, task.isAside number = true) (ha : desk.Awaits number) :
    after.Awaits number ∨ Agenda.Displaced ⟨desk, tasks, none⟩ ⟨after, [], none⟩ number := by
  generalize hb : (⟨desk, tasks, none⟩ : Agenda) = begun at hr ⊢
  induction hr using Relation.ReflTransGen.head_induction_on generalizing desk tasks with
  | refl =>
    cases hb
    exact .inl ha
  | @head _ next hs hr ih =>
    cases hb
    by_cases hd : Agenda.Displaces ⟨desk, tasks, none⟩ number
    · have hr := Agenda.Reaches.head hs hr
      exact .inr ⟨h.superseded_of_displaces hr hd, _, .refl _, hr, hd⟩
    · obtain ⟨middle, left, escaped⟩ := next
      have kept : (∀ task ∈ left, task.isAside number = true) ∧ middle.Awaits number := by
        cases Agenda.step_of_step? hs with
        | move hm =>
          have hf := ht _ List.mem_cons_self
          have hn := hm.isAside hf (Desk.lt_length_of_awaits ha.pending) hd
          refine ⟨List.forall_mem_append.2 ⟨hn, ?_⟩, hm.awaits hf ha hd⟩
          exact fun task hm => ht task (List.mem_cons_of_mem _ hm)
        | raise => exact ⟨isAside_unwind (List.forall_mem_cons.1 ht).2, ha⟩
      obtain rfl : escaped = none :=
        Agenda.Reaches.escaped_eq_none hr rfl (Agenda.escaped_of_step? hs rfl)
      refine (ih (h.reaches (.single hs)) kept.1 kept.2 rfl).imp_right fun hd => ?_
      exact hd.extend (.single hs) (.refl _)

/-- **A query that is pending** stays so while tasks are done that are not about it, unless it is
displaced, and then it is superseded in the end. -/
theorem awaits_or_displaced {below : List Task} (h : Amid rest desk (tasks ++ below))
    (hr : Agenda.Reaches ⟨desk, tasks, none⟩ ⟨after, [], none⟩)
    (ht : ∀ task ∈ tasks, task.isAside number = true) (ha : desk.Awaits number) :
    after.Awaits number ∨
      Agenda.Displaced ⟨desk, tasks ++ below, none⟩ ⟨after, below, none⟩ number := by
  refine (h.top.awaits_or_displaced_alone hr ht ha).imp_right ?_
  rintro ⟨hw, moment, hm, hl, place, query, followUp, left, session, ht, hs, hp⟩
  have he : moment.escaped = none := (hm.escaped_or rfl).resolve_right (by simp [ht])
  refine ⟨hw, _, hm.append rfl he below, hl.append he rfl below, ?_⟩
  exact ⟨place, query, followUp, left ++ below, session, by rw [ht]; rfl, hs, hp⟩

end Amid

end SymbolLookup

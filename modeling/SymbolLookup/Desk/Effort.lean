import SymbolLookup.Desk.Step
import SymbolLookup.Sum
/-!
# The effort of an agenda

Every step of a desk leaves less to be done, so a desk comes to the end of its tasks.

## Main definitions

* `Agenda.effort`: what is still to be done, by kinds of which each outweighs all that follow.
* `Agenda.step?_effort_lt`: every step makes it less.

## Design notes

The kinds are, in this order: what hosts may still do when they are called, queries, loads that were
not begun, loads that were not ended, answers, tellings and all the rest. What a task brings about
is of later kinds than the task, and when a host types a query it gives up one of the things that it
could do.
-/

namespace SymbolLookup

/-- The follow-ups that will be put into place by a script and by what comes of it. -/
def Script.weight : Script → Nat
  | stop => 0
  | type _ _ rest => rest.weight
  | typeThen _ _ _ _ next otherwise rest => next.weight + otherwise.weight + 1 + rest.weight

/-- A follow-up counts with all that come of it. -/
def FollowUp.weight (followUp : FollowUp) : Nat :=
  followUp.next.weight + followUp.otherwise.weight + 1

/-- A rule counts with the follow-ups that come of it. -/
def Rule.weight (rule : Rule) : Nat := rule.next.weight + 1

namespace Task

/-- The follow-ups that a task will put into place. -/
@[simp] def followUps : Task → Nat
  | submit _ _ followUp => (followUp.map FollowUp.weight).getD 0
  | _ => 0

/-- The weight of a task among queries. -/
@[simp] def queries : Task → Nat
  | submit _ _ _ => 2
  | look _ => 1
  | _ => 0

/-- The weight of a task among loads that were not begun. -/
@[simp] def turns : Task → Nat
  | load _ => 1
  | _ => 0

/-- The weight of a task among loads that were not ended. -/
@[simp] def endings : Task → Nat
  | finish _ _ => 1
  | _ => 0

/-- The weight of a task among answers. -/
@[simp] def answers : Task → Nat
  | settle _ => 1
  | _ => 0

/-- The weight of a task among tellings. -/
@[simp] def tellings : Task → Nat
  | deliver _ _ _ => 1
  | _ => 0

/-- The weight of a task among all the rest. -/
@[simp] def chores : Task → Nat
  | conclude _ _ => 3
  | resolve _ _ => 2
  | _ => 1

end Task

namespace Desk

/-- How many rules and follow-ups hosts may still come to, with those that come of others. -/
def intents (desk : Desk) : Nat :=
  sumOver Rule.weight desk.rules +
    sumOver (fun session : Session => sumOver Rule.weight session.rules) desk.sessions +
    sumOver (fun outcome : Outcome => (outcome.followUp.map FollowUp.weight).getD 0) desk.outcomes

end Desk

namespace Agenda

/-- What is still to be done, by kinds. -/
abbrev Effort := Nat × Nat × Nat × Nat × Nat × Nat × Nat

/-- What is still to be done at a desk with some tasks. -/
def effortOf (desk : Desk) (tasks : List Task) : Effort :=
  (desk.intents + sumOver Task.followUps tasks, sumOver Task.queries tasks,
    2 * desk.cache.held.length + sumOver Task.turns tasks, sumOver Task.endings tasks,
    sumOver Task.answers tasks, sumOver Task.tellings tasks, sumOver Task.chores tasks)

/-- What is still to be done. -/
def effort (agenda : Agenda) : Effort := effortOf agenda.desk agenda.tasks

/-- Whether one effort is less than another: less of the first kind in which they differ. -/
def Effort.Less (a b : Effort) : Prop :=
  Prod.Lex (· < ·) (Prod.Lex (· < ·) (Prod.Lex (· < ·) (Prod.Lex (· < ·) (Prod.Lex (· < ·)
    (Prod.Lex (· < ·) (· < ·)))))) a b

/-- What stays to be done anyway does not matter. -/
theorem less_append {desk after : Desk} {next : List Task} {task : Task}
    (h : (effortOf after next).Less (effortOf desk [task])) (rest : List Task) :
    (effortOf after (next ++ rest)).Less (effortOf desk (task :: rest)) := by
  simp only [Effort.Less, Prod.lex_def, effortOf, sumOver_append, sumOver_cons, sumOver_nil] at *
  omega

end Agenda

theorem weight_afterCall (occasion : Occasion) (rules : List Rule) :
    sumOver Rule.weight (afterCall occasion rules) +
      sumOver Rule.weight (applying occasion rules) = sumOver Rule.weight rules := by
  induction rules with
  | nil => rfl
  | cons rule rules ih =>
    simp only [afterCall, applying, List.filter_cons, sumOver_cons] at ih ⊢
    have same : Rule.weight (if rule.on = occasion then { rule with nth := rule.nth - 1 }
        else rule) = rule.weight := by
      split <;> rfl
    cases rule.applies occasion <;> simp [same] <;> omega

/-- What comes of a script puts no more follow-ups into place than are in it. -/
theorem Script.followUps_tasks (own : Nat) (script : Script) :
    sumOver Task.followUps (script.tasks own) = script.weight := by
  induction script with
  | stop => rfl
  | type _ _ rest ih => simp [tasks, weight, ih]
  | typeThen _ _ _ _ next otherwise rest _ _ ih => simp [tasks, weight, FollowUp.weight, ih]

/-- What comes of a follow-up puts less of them into place than it counted for. -/
theorem FollowUp.followUps_tasks (followUp : FollowUp) (session : Nat) (answered : Answered) :
    sumOver Task.followUps (followUp.tasks session answered) < followUp.weight := by
  unfold tasks weight
  have := Script.followUps_tasks session followUp.next
  have := Script.followUps_tasks session followUp.otherwise
  split
  · simp only [sumOver_cons, Task.followUps, Option.map_none, Option.getD_none]
    omega
  · omega

namespace Desk

theorem intents_setSession {desk : Desk} {number : Nat} {session : Session}
    (h : desk.sessions[number]? = some session) (after : Session) :
    (desk.setSession number after).intents + sumOver Rule.weight session.rules =
      desk.intents + sumOver Rule.weight after.rules := by
  have := sumOver_set (fun session : Session => sumOver Rule.weight session.rules) h after
  simp only [intents, setSession] at *
  omega

theorem intents_setOutcome {desk : Desk} {number : Nat} {outcome : Outcome}
    (h : desk.outcomes[number]? = some outcome) (after : Outcome) :
    (desk.setOutcome number after).intents + (outcome.followUp.map FollowUp.weight).getD 0 =
      desk.intents + (after.followUp.map FollowUp.weight).getD 0 := by
  have := sumOver_set
    (fun outcome : Outcome => (outcome.followUp.map FollowUp.weight).getD 0) h after
  simp only [intents, setOutcome] at *
  omega

theorem intents_owe (desk : Desk) (outcome : Outcome) :
    (desk.owe outcome).intents =
      desk.intents + (outcome.followUp.map FollowUp.weight).getD 0 := by
  simp [intents, owe]
  omega

theorem getElem?_setOutcome {desk : Desk} {number : Nat} {outcome : Outcome} (after : Outcome)
    (h : desk.outcomes[number]? = some outcome) :
    (desk.setOutcome number after).outcomes[number]? = some after := by
  simp [setOutcome, (List.getElem?_eq_some_iff.1 h).1]

open Agenda

variable {desk after : Desk} {next : List Task}

theorem effort_submit {number : Nat} {query : Option String} {followUp : Option FollowUp}
    (h : desk.submit number query followUp = (after, next)) :
    (effortOf after next).Less (effortOf desk [.submit number query followUp]) := by
  unfold submit at h
  split at h
  · cases h
    simp [Effort.Less, Prod.lex_def, effortOf]
    omega
  · rename_i session hsession
    cases h
    have hs := intents_setSession hsession (desk.submitted session query)
    have hr : (desk.submitted session query).rules = session.rules := rfl
    have ht : sumOver Task.followUps (desk.submitTasks number session query) = 0 ∧
        sumOver Task.queries (desk.submitTasks number session query) ≤ 1 := by
      cases h : desk.superseded? session <;> by_cases hk : queryKey query = "" <;>
        simp [submitTasks, h, hk]
    simp [Effort.Less, Prod.lex_def, effortOf, intents_owe, hr] at *
    omega

theorem effort_join {ticket : Ticket} (h : desk.join ticket = (after, next)) :
    after.intents = desk.intents ∧ sumOver Task.followUps next = 0 ∧
      sumOver Task.queries next = 0 := by
  unfold join at h
  repeat' split at h
  all_goals cases h; simp [intents]

theorem effort_look {ticket : Ticket} (h : desk.look ticket = (after, next)) :
    (effortOf after next).Less (effortOf desk [.look ticket]) := by
  unfold look at h
  have key : after.intents = desk.intents ∧ sumOver Task.followUps next = 0 ∧
      sumOver Task.queries next = 0 := by
    split at h
    · cases h; simp
    · simp only at h
      split at h
      · cases h; simp
      · have := effort_join h
        exact ⟨this.1, this.2⟩
  simp [Effort.Less, Prod.lex_def, effortOf, key]

/-- Telling a host about an outcome either does nothing or takes the follow-up away. -/
theorem effort_tellDone {number : Nat} {outcome : Outcome} {answered : Answered}
    (ho : desk.outcomes[number]? = some outcome)
    (h : desk.tellDone number outcome answered = (after, next)) :
    (after = desk ∧ next = []) ∨ after.intents + sumOver Task.followUps next < desk.intents := by
  unfold tellDone at h
  split at h
  · cases h
    exact .inl ⟨rfl, rfl⟩
  · rename_i followUp hf
    cases h
    refine .inr ?_
    have hs := intents_setOutcome ho { outcome with followUp := none }
    rw [hf] at hs
    have hr (d : Desk) (e : Event) : (d.record e).intents = d.intents := rfl
    have ht := followUp.followUps_tasks outcome.session answered
    rw [hr, sumOver_append]
    simp at *
    omega

theorem effort_handOut {number : Nat} (h : desk.handOut number = (after, next)) :
    (effortOf after next).Less (effortOf desk [.handOut number]) := by
  unfold handOut at h
  split at h
  · cases h
    simp [Effort.Less, Prod.lex_def, effortOf]
  · rename_i outcome ho
    have hs := intents_setOutcome ho { outcome with handedOut := true }
    have hc (o : Outcome) : (desk.setOutcome number o).cache = desk.cache := rfl
    simp only at h
    split at h
    · cases h
      simp [Effort.Less, Prod.lex_def, effortOf, hc] at *
      omega
    · rcases effort_tellDone (getElem?_setOutcome _ ho) h with ⟨rfl, rfl⟩ | hl
      · simp [Effort.Less, Prod.lex_def, effortOf, hc] at *
        omega
      · simp [Effort.Less, Prod.lex_def, effortOf] at *
        omega

theorem effort_resolve {number : Nat} {answered : Answered}
    (h : desk.resolve number answered = (after, next)) :
    (effortOf after next).Less (effortOf desk [.resolve number answered]) := by
  unfold resolve at h
  split at h
  · cases h
    simp [Effort.Less, Prod.lex_def, effortOf]
  · rename_i outcome ho
    have hs := intents_setOutcome ho { outcome with answered := some answered }
    have hc (o : Outcome) : (desk.setOutcome number o).cache = desk.cache := rfl
    simp only at h
    split at h
    · cases h
      simp [Effort.Less, Prod.lex_def, effortOf]
    · split at h
      · rcases effort_tellDone (getElem?_setOutcome _ ho) h with ⟨rfl, rfl⟩ | hl
        · simp [Effort.Less, Prod.lex_def, effortOf, hc] at *
          omega
        · simp [Effort.Less, Prod.lex_def, effortOf] at *
          omega
      · cases h
        simp [Effort.Less, Prod.lex_def, effortOf, hc] at *
        omega

/-- What comes of rules puts less follow-ups into place than the rules counted for. -/
theorem followUps_rules (session : Nat) (rules : List Rule) :
    sumOver Task.followUps (rules.flatMap (·.tasks session)) + rules.length =
      sumOver Rule.weight rules := by
  induction rules with
  | nil => rfl
  | cons rule rules ih =>
    have ht : sumOver Task.followUps (rule.tasks session) = rule.next.weight := by
      cases hs : rule.submits <;> cases hr : rule.raises <;>
        simp [Rule.tasks, hs, hr, rule.next.followUps_tasks session]
    rw [List.flatMap_cons, sumOver_append, sumOver_cons, ht, Rule.weight, List.length_cons]
    omega

theorem effort_call {call : Call} (h : desk.call call = (after, next)) :
    (effortOf after next).Less (effortOf desk [.call call]) := by
  have key (rules : List Rule) (number : Nat) (held : after.cache = desk.cache)
      (hi : after.intents + sumOver Rule.weight rules =
        desk.intents + sumOver Rule.weight (afterCall call.occasion rules))
      (hn : next = (applying call.occasion rules).flatMap (·.tasks number)) :
      (effortOf after next).Less (effortOf desk [.call call]) := by
    have ha := weight_afterCall call.occasion rules
    have hf := followUps_rules number (applying call.occasion rules)
    rw [← hn] at hf
    simp only [Effort.Less, Prod.lex_def, effortOf, held, sumOver_cons, sumOver_nil,
      Task.followUps]
    cases hl : applying call.occasion rules with
    | nil =>
      rw [hl] at hn ha
      subst hn
      simp at *
      omega
    | cons rule others =>
      rw [hl] at ha hf
      simp only [List.length_cons] at hf
      omega
  unfold Desk.call at h
  split at h
  · cases h
    exact key desk.rules _ rfl (by simp [intents, record]; omega) rfl
  · split at h
    · cases h
      simp [Effort.Less, Prod.lex_def, effortOf]
    · rename_i session hs
      split at h
      · cases h
        exact key session.rules _ rfl (@intents_setSession (desk.record (.called call)) _ _ hs _)
          rfl
      · cases h
        simp [Effort.Less, Prod.lex_def, effortOf]

theorem effort_settle {ticket : Ticket} (h : desk.settle ticket = (after, next)) :
    (effortOf after next).Less (effortOf desk [.settle ticket]) := by
  unfold settle at h
  split at h
  · cases h
    simp [Effort.Less, Prod.lex_def, effortOf]
  · rename_i session hsession
    have hs := intents_setSession hsession session.settle
    have hr : session.settle.rules = session.rules := rfl
    have hc (s : Session) : (desk.setSession ticket.session s).cache = desk.cache := rfl
    repeat' split at h
    all_goals
      cases h
      simp [Effort.Less, Prod.lex_def, effortOf, hr, hc] at *
      try omega

theorem effort_deliver (ticket : Ticket) (failures : List (String × String)) (result : Result) :
    (effortOf desk (deliver ticket failures result)).Less
      (effortOf desk [.deliver ticket failures result]) := by
  have hw (weight : Task → Nat) (h : ∀ call, weight (.call call) = 0) :
      sumOver weight (failures.map fun failure =>
        Task.call (.warning ticket.session ticket.generation failure.1 failure.2)) = 0 := by
    apply sumOver_eq_zero
    intro task ht
    obtain ⟨failure, -, rfl⟩ := List.mem_map.1 ht
    exact h _
  have h1 := hw Task.followUps (by simp)
  have h2 := hw Task.queries (by simp)
  have h3 := hw Task.turns (by simp)
  have h4 := hw Task.endings (by simp)
  have h5 := hw Task.answers (by simp)
  have h6 := hw Task.tellings (by simp)
  simp [Effort.Less, Prod.lex_def, effortOf, deliver, h1, h2, h3, h4, h5, h6]

theorem effort_finish {number : Nat} {ending : Ending}
    (h : desk.finish number ending = (after, next)) :
    (effortOf after next).Less (effortOf desk [.finish number ending]) := by
  cases h
  have hw (weight : Task → Nat) (hs : ∀ ticket, weight (.settle ticket) = 0)
      (hg : weight .guard = 0) :
      sumOver weight ((desk.cache.waitingFor number).flatMap fun ticket =>
        [Task.settle ticket, .guard]) = 0 := by
    apply sumOver_eq_zero
    simp only [List.mem_flatMap, List.mem_cons, List.not_mem_nil, or_false]
    rintro task ⟨ticket, -, rfl | rfl⟩
    · exact hs ticket
    · exact hg
  have h1 := hw Task.followUps (by simp) (by simp)
  have h2 := hw Task.queries (by simp) (by simp)
  have h3 := hw Task.turns (by simp) (by simp)
  have h4 := hw Task.endings (by simp) (by simp)
  simp [Effort.Less, Prod.lex_def, effortOf, h1, h2, h3, h4, Cache.finish, intents]

theorem effort_runLoad {number : Nat} (h : desk.runLoad number = (after, next)) :
    (effortOf after next).Less (effortOf desk [.load number]) := by
  have hw (weight : Task → Nat) (hs : ∀ call, weight (.call call) = 0)
      (hg : weight .guard = 0) (shard : Shard) : sumOver weight (reports shard) = 0 := by
    apply sumOver_eq_zero
    simp only [reports, List.mem_flatMap, List.mem_cons, List.not_mem_nil, or_false]
    rintro task ⟨diagnostic, -, rfl | rfl⟩
    · exact hs _
    · exact hg
  unfold runLoad at h
  split at h
  · cases h
    simp [Effort.Less, Prod.lex_def, effortOf]
  · split at h
    · cases h
      simp [Effort.Less, Prod.lex_def, effortOf]
    · have h1 := hw Task.followUps (by simp) (by simp)
      have h2 := hw Task.queries (by simp) (by simp)
      have h3 := hw Task.turns (by simp) (by simp)
      simp only [arrive] at h
      split at h <;> cases h <;>
        simp [Effort.Less, Prod.lex_def, effortOf, h1, h2, h3, Cache.keep, Cache.forget, intents,
          fetch, record]

theorem effort_drain (h : desk.drain = (after, next)) :
    (effortOf after next).Less (effortOf desk [.drain]) := by
  unfold drain at h
  split at h
  · cases h
    simp [Effort.Less, Prod.lex_def, effortOf]
  · rename_i number held hh
    cases h
    simp [Effort.Less, Prod.lex_def, effortOf, hh, intents]
    omega

theorem effort_perform {task : Task} (h : desk.perform task = (after, next)) :
    (effortOf after next).Less (effortOf desk [task]) := by
  cases task with
  | submit session query followUp => exact effort_submit h
  | look ticket => exact effort_look h
  | handOut outcome => exact effort_handOut h
  | call call => exact effort_call h
  | resolve outcome answered => exact effort_resolve h
  | settle ticket => exact effort_settle h
  | deliver ticket failures result => cases h; exact effort_deliver ticket failures result
  | finish number ending => exact effort_finish h
  | load number => exact effort_runLoad h
  | drain => exact effort_drain h
  | conclude outcome result =>
    cases h
    simp [Effort.Less, Prod.lex_def, effortOf]
  | raise fault =>
    cases h
    simp [Effort.Less, Prod.lex_def, effortOf]
  | guard =>
    cases h
    simp [Effort.Less, Prod.lex_def, effortOf]

end Desk

/-- What a fault leaves is a part of the tasks, if settling an outcome counts for concluding it. -/
theorem sumOver_unwind (weight : Task → Nat) (fault : Fault)
    (h : ∀ outcome result,
      weight (.resolve outcome (.fault fault)) ≤ weight (.conclude outcome result))
    (tasks : List Task) : sumOver weight (unwind fault tasks).1 ≤ sumOver weight tasks := by
  fun_induction unwind fault tasks with
  | case1 => simp
  | case2 tasks => simp
  | case3 outcome result tasks =>
    have := h outcome result
    simp only [sumOver_cons]
    omega
  | case4 task tasks _ _ ih =>
    simp only [sumOver_cons]
    omega

namespace Agenda

/-- Every step leaves less to be done. -/
theorem step?_effort_lt {agenda after : Agenda} (h : agenda.step? = some after) :
    after.effort.Less agenda.effort := by
  unfold step? at h
  split at h
  · cases h
  · rename_i fault tasks ht
    cases h
    have hu (weight : Task → Nat) := sumOver_unwind weight fault
    have h1 := hu Task.followUps (by simp) tasks
    have h2 := hu Task.queries (by simp) tasks
    have h3 := hu Task.turns (by simp) tasks
    have h4 := hu Task.endings (by simp) tasks
    have h5 := hu Task.answers (by simp) tasks
    have h6 := hu Task.tellings (by simp) tasks
    have h7 := hu Task.chores (by simp) tasks
    simp only [Effort.Less, Prod.lex_def, effort, effortOf, ht, sumOver_cons, Task.followUps,
      Task.queries, Task.turns, Task.endings, Task.answers, Task.tellings, Task.chores]
    omega
  · rename_i task tasks _ ht
    cases h
    simp only [effort, ht]
    exact less_append (Desk.effort_perform rfl) tasks

end Agenda

end SymbolLookup

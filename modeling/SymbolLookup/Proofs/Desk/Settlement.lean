import Mathlib.Data.List.Dedup
import SymbolLookup.Proofs.Desk.Waiting
/-!
# No query is lost

If nothing disturbs a desk, all outcomes are settled once, except that of a query that is still
pending, and the counts of a session account for all its queries.

## Main definitions

* `Agenda.settles`: whether an outcome is settled next.
* `Agenda.clears`: whether the empty query is typed next.
* `settledGenerations`: the queries of a session that were answered.
* `Desk.supersededOf`: the outcomes of a session whose queries were superseded.
* `Session.Balances`: whether the counts of a session account for its queries.

## Main results

* `Course.countP_settles`: no outcome is settled twice.
* `Course.none_lost`: when all is done, only the outcome of a pending query is open, and a load that
  it waits for is held.
-/

namespace SymbolLookup

namespace Agenda

/-- Whether an outcome is settled next. -/
def settles (number : Nat) (agenda : Agenda) : Bool :=
  match agenda.tasks with
  | .resolve outcome _ :: _ => outcome == number
  | _ => false

/-- Whether the empty query is typed into a session next. -/
def clears (number : Nat) (agenda : Agenda) : Bool :=
  match agenda.tasks with
  | .submit session query _ :: _ =>
    session == number && queryKey query == "" && decide (session < agenda.desk.sessions.length)
  | _ => false

/-- The generation of the latest query of a session, if it was answered. -/
def settledAt? (number : Nat) (agenda : Agenda) : Option Nat :=
  agenda.desk.sessions[number]?.bind fun session =>
    if session.state = .settled then some session.generation else none

instance (agenda : Agenda) (number : Nat) : Decidable (agenda.Drops number) :=
  inferInstanceAs (Decidable (_ ∨ _))

end Agenda

/-- The generations of the queries of a session that were answered in a course. -/
def settledGenerations (number : Nat) (course : List Agenda) : List Nat :=
  (course.filterMap (Agenda.settledAt? number)).dedup

/-- The outcomes of a session whose queries were superseded. -/
def Desk.supersededOf (desk : Desk) (number : Nat) : List Nat :=
  (List.range desk.outcomes.length).filter fun outcome =>
    desk.askers[outcome]? = some number ∧ desk.answer? outcome = some .superseded

/-! ## Outcomes are settled once -/

/-- An outcome that is settled has become what it is settled with. -/
theorem Move.answer?_of_resolve {desk after : Desk} {next : List Task} {number : Nat}
    {answered : Answered} (hm : Move desk (.resolve number answered) after next)
    (hl : number < desk.askers.length) (hn : desk.answer? number = none) :
    after.answer? number = some answered := by
  cases hm with
  | resolve ho hw hs ha => rw [Desk.answer?_note _ ho, if_pos rfl, ha]
  | resolveAgain ho hw =>
    rw [Desk.answer?, ho, Option.bind_some] at hn
    exact absurd hn hw
  | resolveNowhere ho =>
    rw [Desk.length_askers] at hl
    exact absurd hl (Nat.not_lt.2 (List.getElem?_eq_none_iff.1 ho))

/-- If nothing disturbs a desk, an outcome was settled once if it is settled, and else never. -/
theorem Course.countP_settles {agenda : Agenda} {past : List Agenda} (h : Course (agenda :: past))
    (hu : ∀ earlier ∈ past, earlier.Undisturbed) (number : Nat) :
    past.countP (·.settles number) = if agenda.desk.answer? number = none then 0 else 1 := by
  induction h, hu using Course.induct_undisturbed with
  | opened => simp [Desk.answer?]
  | @moved desk after task tasks next escaped past hc _ hp hu hm ih =>
    have hx := hc.exact hp
    have hn := hu _ List.mem_cons_self
    rw [List.countP_cons, ih]
    by_cases hs : ∃ answered, task = .resolve number answered
    · obtain ⟨answered, rfl⟩ := hs
      have ha := hx.answer?_of_resolve hn
      have hw := hm.answer?_of_resolve (hx.lt_of_resolve hn) ha
      dsimp only at ha ⊢
      simp [ha, hw, Agenda.settles]
    · have hq : Agenda.settles number ⟨desk, task :: tasks, escaped⟩ = false := by
        cases task with
        | resolve place answered =>
          refine beq_false_of_ne ?_
          rintro rfl
          exact hs ⟨answered, rfl⟩
        | _ => rfl
      obtain ha | ⟨-, answered, rfl, -⟩ := hm.answer?_cases number
      · simp [ha, hq]
      · exact absurd ⟨answered, rfl⟩ hs
  | @began agenda after past _ _ _ _ hr hb ih =>
    have hq : agenda.settles number = false := by rw [Agenda.settles, hr]
    rw [List.countP_cons, ih, hq]
    simp [hb.answer?]

/-! ## The latest query is not given up -/

/-- Only queries that were typed are given up. -/
theorem Course.lt_length_of_drops {agenda : Agenda} {past : List Agenda}
    (h : Course (agenda :: past)) {number : Nat} (hd : agenda.Drops number) :
    number < agenda.desk.askers.length := by
  obtain ha | hm := hd
  · obtain ⟨outcome, ho, -⟩ := Option.bind_eq_some_iff.1 ha
    rw [Desk.length_askers]
    exact (List.getElem?_eq_some_iff.1 ho).1
  · have hl := h.holders_le number
    have hc : 0 < agenda.tasks.countP (·.holds number) :=
      List.countP_pos_iff.2 ⟨_, hm, by simp [Task.holds]⟩
    rw [Desk.holders] at hl
    exact Desk.lt_length_of_owes (by omega)

/-- Throughout every course, a query that is given up is not the latest of its session. -/
theorem Course.lt_of_drops {agenda : Agenda} {past : List Agenda} (h : Course (agenda :: past))
    {session generation number : Nat} (hd : agenda.Drops number)
    (ho : OwedFor agenda.desk.askers session generation number) :
    generation < agenda.desk.askers.count session := by
  induction h using Course.induct with
  | opened => cases ho.1
  | worked hc hs ih =>
    cases hs with
    | @move desk after task tasks next escaped hm =>
      obtain ⟨later, he⟩ := hm.askers_prefix
      have old {number : Nat} (hl : number < desk.askers.length)
          (ho : OwedFor after.askers session generation number) :
          OwedFor desk.askers session generation number := (he ▸ ho).of_append hl
      obtain hd | ⟨place, query, followUp, asker, rfl, hs, hp⟩ := hm.drops_cases hd
      · have := ih hd (old (hc.lt_length_of_drops hd) ho)
        dsimp only at this ⊢
        rw [← he, List.count_append]
        omega
      · have hk := (hc.ledger.session place asker hs).pending _ (Option.filter_eq_some_iff.1 hp).1
        obtain ⟨rfl, rfl⟩ := hk.eq_of_eq (old hk.lt_length ho)
        have ha := hm.askers_of_submit hs
        have hg := (hc.ledger.session session asker hs).generation
        dsimp only at hg ⊢
        rw [ha, List.count_append, List.count_singleton_self, hg]
        omega
    | raise => exact ih hd.of_unwind ho
  | began _ _ hb ih =>
    rw [hb.askers] at ho ⊢
    exact ih (hb.drops_of_drops hd) ho

/-! ## Superseded queries are counted -/

/-- The outcomes of a session whose queries were or are about to be given up. -/
def Agenda.droppedOf (number : Nat) (agenda : Agenda) : List Nat :=
  (List.range agenda.desk.outcomes.length).filter fun outcome =>
    agenda.desk.askers[outcome]? = some number ∧ agenda.Drops outcome

theorem Agenda.mem_droppedOf {agenda : Agenda} {number outcome : Nat} :
    outcome ∈ agenda.droppedOf number ↔
      agenda.desk.askers[outcome]? = some number ∧ agenda.Drops outcome := by
  rw [droppedOf, List.mem_filter, List.mem_range, decide_eq_true_iff, ← Desk.length_askers]
  exact and_iff_right_of_imp fun h => (List.getElem?_eq_some_iff.1 h.1).1

theorem Agenda.nodup_droppedOf (agenda : Agenda) (number : Nat) :
    (agenda.droppedOf number).Nodup := List.nodup_range.filter _

theorem Desk.resolve_mem_submitTasks {desk : Desk} {session : Session} {pending : Nat}
    (hp : desk.superseded? session = some pending) (number : Nat) (query : Option String) :
    .resolve pending .superseded ∈ desk.submitTasks number session query := by
  simp [submitTasks, hp]

section Step

variable {desk after : Desk} {task : Task} {tasks next : List Task} {escaped : Option Fault}
  {past : List Agenda}

/-- If nothing disturbs a desk, a query that is given up stays so. -/
theorem Move.drops_of_drops (hm : Move desk task after next)
    (hx : Agenda.Exact ⟨desk, task :: tasks, escaped⟩)
    (hu : Agenda.Undisturbed ⟨desk, task :: tasks, escaped⟩) {number : Nat}
    (hd : Agenda.Drops ⟨desk, task :: tasks, escaped⟩ number) :
    Agenda.Drops ⟨after, next ++ tasks, escaped⟩ number := by
  obtain ha | hr := hd
  · obtain he | ⟨hn, -⟩ := hm.answer?_cases number
    · exact .inl (he.trans ha)
    · cases hn.symm.trans ha
  · rcases List.mem_cons.1 hr with rfl | hr
    · exact .inl (hm.answer?_of_resolve (hx.lt_of_resolve hu) (hx.answer?_of_resolve hu))
    · exact .inr (List.mem_append_right _ hr)

/-- A query of a session is newly given up when another is typed into the session. -/
theorem Move.mem_droppedOf (hm : Move desk task after next)
    (hc : Course (⟨desk, task :: tasks, escaped⟩ :: past))
    (hx : Agenda.Exact ⟨desk, task :: tasks, escaped⟩)
    (hu : Agenda.Undisturbed ⟨desk, task :: tasks, escaped⟩) {number outcome : Nat} :
    outcome ∈ Agenda.droppedOf number ⟨after, next ++ tasks, escaped⟩ ↔
      outcome ∈ Agenda.droppedOf number ⟨desk, task :: tasks, escaped⟩ ∨
        ∃ query followUp session, task = .submit number query followUp ∧
          desk.sessions[number]? = some session ∧ desk.superseded? session = some outcome := by
  obtain ⟨later, he⟩ := hm.askers_prefix
  have same {asker : Nat} (ho : desk.askers[outcome]? = some asker) :
      after.askers[outcome]? = some asker := by
    rw [← he, List.getElem?_append_left (List.getElem?_eq_some_iff.1 ho).1, ho]
  have asker {place : Nat} {session : Session} (hs : desk.sessions[place]? = some session)
      (hp : desk.superseded? session = some outcome) : desk.askers[outcome]? = some place :=
    ((hc.ledger.session place session hs).pending _ (Option.filter_eq_some_iff.1 hp).1).1
  rw [Agenda.mem_droppedOf, Agenda.mem_droppedOf]
  constructor
  · -- whose outcome it is was settled when its query was typed
    rintro ⟨ho, hd⟩
    obtain hd | ⟨place, query, followUp, session, rfl, hs, hp⟩ := hm.drops_cases hd
    · have hl := List.getElem?_eq_getElem (hc.lt_length_of_drops hd)
      obtain rfl := Option.some.inj ((same hl).symm.trans ho)
      exact .inl ⟨hl, hd⟩
    · obtain rfl := Option.some.inj ((same (asker hs hp)).symm.trans ho)
      exact .inr ⟨query, followUp, session, rfl, hs, hp⟩
  · rintro (⟨ho, hd⟩ | ⟨query, followUp, session, rfl, hs, hp⟩)
    · exact ⟨same ho, hm.drops_of_drops hx hu hd⟩
    · refine ⟨same (asker hs hp), .inr (List.mem_append_left _ ?_)⟩
      cases hm with
      | submit ho =>
        cases ho.symm.trans hs
        exact Desk.resolve_mem_submitTasks hp number query
      | submitNowhere ho => cases ho.symm.trans hs

/-- If nothing disturbs a desk, a query that is pending is superseded when another is typed. -/
theorem Agenda.Exact.superseded?_eq {agenda : Agenda} (he : agenda.Exact)
    (hl : agenda.desk.Ledger) {number : Nat} {session : Session}
    (hs : agenda.desk.sessions[number]? = some session) :
    agenda.desk.superseded? session = session.pending := by
  unfold Desk.superseded?
  cases hp : session.pending with
  | none => rfl
  | some outcome =>
    have ho := (hl.session number session hs).pending outcome hp
    have hw := hl.awaits_of_pending hs hp
    exact Option.filter_some_pos
      (Desk.isOwed_eq_true.2 ⟨ho.lt_length, he.answer?_of_awaits hw⟩)

/-- A session counts one more query that was superseded if one was pending when another was
typed. -/
theorem Move.length_droppedOf (hm : Move desk task after next)
    (hc : Course (⟨desk, task :: tasks, escaped⟩ :: past))
    (hx : Agenda.Exact ⟨desk, task :: tasks, escaped⟩)
    (hu : Agenda.Undisturbed ⟨desk, task :: tasks, escaped⟩) {number : Nat} {session : Session}
    (hs : after.sessions[number]? = some session)
    (ih : ∀ before, desk.sessions[number]? = some before →
      before.cancelled = (Agenda.droppedOf number ⟨desk, task :: tasks, escaped⟩).length) :
    session.cancelled = (Agenda.droppedOf number ⟨after, next ++ tasks, escaped⟩).length := by
  have kept (hn : ∀ outcome, ¬∃ query followUp session, task = .submit number query followUp ∧
      desk.sessions[number]? = some session ∧ desk.superseded? session = some outcome) :
      (Agenda.droppedOf number ⟨after, next ++ tasks, escaped⟩).length =
        (Agenda.droppedOf number ⟨desk, task :: tasks, escaped⟩).length := by
    apply List.Perm.length_eq
    rw [List.perm_ext_iff_of_nodup (Agenda.nodup_droppedOf _ _) (Agenda.nodup_droppedOf _ _)]
    intro outcome
    rw [hm.mem_droppedOf hc hx hu, or_iff_left (hn outcome)]
  obtain ⟨before, hb, ht⟩ := hm.turn hs
  cases ht with
  | same hn => exact (ih session hb).trans (kept fun _ ⟨_, _, _, ht, _⟩ => hn _ _ ht).symm
  | called => exact (ih before hb).trans (kept (by simp)).symm
  | settled => exact (ih before hb).trans (kept (by simp)).symm
  | @submitted query followUp =>
    have hd : (desk.submitted before query).cancelled =
        before.cancelled + if (desk.superseded? before).isSome then 1 else 0 := rfl
    rw [hd, ih before hb]
    cases hp : desk.superseded? before with
    | none =>
      rw [kept]
      · rfl
      · rintro outcome ⟨_, _, other, _, ho, hq⟩
        cases hb.symm.trans ho
        cases hp.symm.trans hq
    | some pending =>
      -- the query that is superseded was pending, and so it was not given up before
      have hn : pending ∉ Agenda.droppedOf number
          ⟨desk, .submit number query followUp :: tasks, escaped⟩ := by
        intro hm
        exact hc.not_drops_of_awaits (Desk.awaits_of_superseded? hc.ledger hb hp)
          (Agenda.mem_droppedOf.1 hm).2
      have hd := List.nodup_cons.2 ⟨hn, Agenda.nodup_droppedOf _ _⟩
      rw [Option.isSome_some, if_pos rfl, ← List.length_cons (a := pending)]
      apply Eq.symm
      apply List.Perm.length_eq
      rw [List.perm_ext_iff_of_nodup (Agenda.nodup_droppedOf _ _) hd]
      intro outcome
      rw [hm.mem_droppedOf hc hx hu, List.mem_cons, or_comm]
      apply or_congr_left
      constructor
      · rintro ⟨_, _, other, _, ho, hq⟩
        cases hb.symm.trans ho
        exact Option.some.inj (hq.symm.trans hp)
      · intro ho
        exact ⟨query, followUp, before, rfl, hb, ho ▸ hp⟩

end Step

/-- If nothing disturbs a desk, a session counts the queries of its that were given up. -/
theorem Course.cancelled_eq {agenda : Agenda} {past : List Agenda} (h : Course (agenda :: past))
    (hu : ∀ earlier ∈ past, earlier.Undisturbed) {number : Nat} {session : Session}
    (hs : agenda.desk.sessions[number]? = some session) :
    session.cancelled = (agenda.droppedOf number).length := by
  induction h, hu using Course.induct_undisturbed generalizing session with
  | opened => simp at hs
  | moved hc hp hu hm ih =>
    exact hm.length_droppedOf hc (hc.exact hp) (hu _ List.mem_cons_self) hs fun _ => ih
  | @began agenda after past hc _ _ _ hr hb ih =>
    have hd : after.droppedOf number = agenda.droppedOf number := by
      have hi (outcome : Nat) : after.Drops outcome ↔ agenda.Drops outcome := by
        refine ⟨hb.drops_of_drops, fun hd => .inl ?_⟩
        obtain hd | hd := hd
        · rwa [hb.answer?]
        · rw [hr] at hd
          cases hd
      simp only [Agenda.droppedOf, hb.frame.outcomes, hb.askers, hi]
    rw [hd]
    obtain hs | ⟨rfl, _, hf⟩ := hb.session_cases hs
    · exact ih hs
    · have hn : agenda.droppedOf agenda.desk.sessions.length = [] := by
        rw [List.eq_nil_iff_forall_not_mem]
        intro outcome ho
        have ha := List.mem_of_getElem? (Agenda.mem_droppedOf.1 ho).1
        exact Nat.lt_irrefl _ (hc.ledger.asker_lt _ ha)
      rw [hn, (Desk.eq_of_sessionFor hf).2.2.2.2, List.length_nil]

/-! ## The generation counts all queries -/

theorem settledGenerations_of_none {number : Nat} {agenda : Agenda} {course : List Agenda}
    (h : agenda.settledAt? number = none) :
    settledGenerations number (agenda :: course) = settledGenerations number course := by
  rw [settledGenerations, List.filterMap_cons_none h, settledGenerations]

/-- An agenda in which the same query is answered as in one before adds none. -/
theorem settledGenerations_of_mem {number generation : Nat} {agenda : Agenda}
    {course : List Agenda} (h : agenda.settledAt? number = some generation)
    (hm : generation ∈ settledGenerations number course) :
    settledGenerations number (agenda :: course) = settledGenerations number course := by
  rw [settledGenerations, List.filterMap_cons_some h,
    List.dedup_cons_of_mem (List.mem_dedup.1 hm), settledGenerations]

theorem settledGenerations_of_notMem {number generation : Nat} {agenda : Agenda}
    {course : List Agenda} (h : agenda.settledAt? number = some generation)
    (hm : generation ∉ settledGenerations number course) :
    settledGenerations number (agenda :: course) =
      generation :: settledGenerations number course := by
  rw [settledGenerations, List.filterMap_cons_some h,
    List.dedup_cons_of_notMem fun hn => hm (List.mem_dedup.2 hn), settledGenerations]

theorem settledGenerations_congr {number : Nat} {agenda before : Agenda} {course : List Agenda}
    (h : agenda.settledAt? number = before.settledAt? number) :
    settledGenerations number (agenda :: before :: course) =
      settledGenerations number (before :: course) := by
  cases hs : before.settledAt? number with
  | none => exact settledGenerations_of_none (h.trans hs)
  | some generation =>
    refine settledGenerations_of_mem (h.trans hs) (List.mem_dedup.2 ?_)
    rw [List.filterMap_cons_some hs]
    exact List.mem_cons_self

/-- Whether the counts of a session account for all its queries in a course. -/
structure Session.Balances (session : Session) (number : Nat) (agenda : Agenda)
    (past : List Agenda) : Prop where
  /-- Each query was empty, or superseded, or answered, or is pending. -/
  generation : session.generation = past.countP (·.clears number) + session.cancelled +
    (settledGenerations number (agenda :: past)).length + if session.state = .pending then 1 else 0
  /-- The queries that were answered are earlier ones, unless the latest one was. -/
  settled : ∀ generation ∈ settledGenerations number (agenda :: past),
    generation < session.generation ∨
      (generation = session.generation ∧ session.state = .settled)

theorem Agenda.settledAt?_of_session {agenda : Agenda} {number : Nat} {session : Session}
    (hs : agenda.desk.sessions[number]? = some session) : agenda.settledAt? number =
      if session.state = .settled then some session.generation else none := by
  rw [settledAt?, hs, Option.bind_some]

namespace Session.Balances

variable {before session : Session} {number : Nat} {agenda after : Agenda} {past : List Agenda}

/-- The counts stay as they are when nothing that is counted happens. -/
theorem same (h : before.Balances number agenda past)
    (hb : agenda.desk.sessions[number]? = some before)
    (hs : after.desk.sessions[number]? = some session)
    (hg : session.generation = before.generation) (ht : session.state = before.state)
    (hc : session.cancelled = before.cancelled) (hn : agenda.clears number = false) :
    session.Balances number after (agenda :: past) := by
  have ha : after.settledAt? number = agenda.settledAt? number := by
    rw [Agenda.settledAt?_of_session hs, Agenda.settledAt?_of_session hb, hg, ht]
  refine ⟨?_, ?_⟩
  · rw [settledGenerations_congr ha, List.countP_cons, hn, hg, ht, hc]
    exact h.generation
  · rw [settledGenerations_congr ha, hg, ht]
    exact h.settled

/-- A query that is answered is one more. -/
theorem settle (h : before.Balances number agenda past) (hp : before.state = .pending)
    (hs : after.desk.sessions[number]? = some before.settle) (hn : agenda.clears number = false) :
    before.settle.Balances number after (agenda :: past) := by
  have ha : after.settledAt? number = some before.generation := by
    rw [Agenda.settledAt?_of_session hs]
    rfl
  -- a query that is pending was not answered yet
  have hm : before.generation ∉ settledGenerations number (agenda :: past) := by
    intro hm
    obtain hlt | ⟨-, ht⟩ := h.settled _ hm
    · exact Nat.lt_irrefl _ hlt
    · rw [hp] at ht
      cases ht
  have hg := h.generation
  refine ⟨?_, ?_⟩
  · rw [hp, if_pos rfl] at hg
    rw [settledGenerations_of_notMem ha hm, List.countP_cons, hn, List.length_cons]
    simp only [Session.settle, reduceCtorEq, if_false, Bool.false_eq_true]
    omega
  · rw [settledGenerations_of_notMem ha hm]
    intro generation hk
    rcases List.mem_cons.1 hk with rfl | hk
    · exact .inr ⟨rfl, rfl⟩
    · obtain hlt | ⟨-, ht⟩ := h.settled generation hk
      · exact .inl hlt
      · rw [hp] at ht
        cases ht

/-- A query that is typed is one more, and supersedes the one that was pending. -/
theorem submit (h : before.Balances number agenda past) {key : String} {outcome : Nat}
    {supersedes : Bool} (hp : supersedes = true ↔ before.state = .pending)
    (hs : after.desk.sessions[number]? = some (before.submit key outcome supersedes))
    (hn : agenda.clears number = true ↔ key = "") :
    (before.submit key outcome supersedes).Balances number after (agenda :: past) := by
  have ht : (before.submit key outcome supersedes).state ≠ .settled := by
    simp only [Session.submit, stateFor]
    split <;> simp
  have ha : after.settledAt? number = none := by
    rw [Agenda.settledAt?_of_session hs, if_neg ht]
  have hk : (if stateFor key = .pending then 1 else 0) = if key = "" then 0 else 1 := by
    unfold stateFor
    split <;> rfl
  have hg := h.generation
  simp only [← hp] at hg
  refine ⟨?_, ?_⟩
  · rw [settledGenerations_of_none ha, List.countP_cons]
    simp only [Session.submit, hk, hn, hg]
    by_cases he : key = ""
    · simp only [if_pos he]
      omega
    · simp only [if_neg he]
      omega
  · rw [settledGenerations_of_none ha]
    intro generation hk
    refine .inl (Nat.lt_succ_of_le ?_)
    obtain hlt | ⟨he, -⟩ := h.settled generation hk
    · exact Nat.le_of_lt hlt
    · exact Nat.le_of_eq he

end Session.Balances

theorem Move.balances {desk after : Desk} {task : Task} {tasks next : List Task}
    {escaped : Option Fault} {past : List Agenda} (hm : Move desk task after next)
    (hc : Course (⟨desk, task :: tasks, escaped⟩ :: past))
    (hx : Agenda.Exact ⟨desk, task :: tasks, escaped⟩) {number : Nat} {session : Session}
    (hs : after.sessions[number]? = some session)
    (ih : ∀ before, desk.sessions[number]? = some before →
      before.Balances number ⟨desk, task :: tasks, escaped⟩ past) :
    session.Balances number ⟨after, next ++ tasks, escaped⟩
      (⟨desk, task :: tasks, escaped⟩ :: past) := by
  obtain ⟨before, hb, ht⟩ := hm.turn hs
  have hk := hc.ledger.session number before hb
  cases ht with
  | same hn =>
    refine (ih session hb).same hb hs rfl rfl rfl ?_
    cases task with
    | submit place query followUp =>
      have hne : place ≠ number := fun he => hn query followUp (he ▸ rfl)
      simp [Agenda.clears, hne]
    | _ => rfl
  | called => exact (ih before hb).same hb hs rfl rfl rfl rfl
  | settled _ _ hp => exact (ih before hb).settle (hk.state.2 (by simp [hp])) hs rfl
  | submitted =>
    refine (ih before hb).submit ?_ hs ?_
    · rw [hx.superseded?_eq hc.ledger hb, hk.state, Option.isSome_iff_ne_none]
    · simp [Agenda.clears, (List.getElem?_eq_some_iff.1 hb).1]

/-- Sessions are never closed. -/
theorem Course.length_sessions_le {agenda earlier : Agenda} {past : List Agenda}
    (h : Course (agenda :: past)) (he : earlier ∈ agenda :: past) :
    earlier.desk.sessions.length ≤ agenda.desk.sessions.length := by
  apply h.stays (p := fun agenda => earlier.desk.sessions.length ≤ agenda.desk.sessions.length)
    ?_ ?_ he (Nat.le_refl _)
  · intro agenda after hs hl
    cases hs with
    | move hm => exact Nat.le_trans hl (Nat.le_of_eq hm.length_sessions.symm)
    | raise => exact hl
  · intro agenda after hb hl
    exact Nat.le_trans hl hb.length_sessions_le

theorem Agenda.lt_of_clears {agenda : Agenda} {number : Nat} (h : agenda.clears number = true) :
    number < agenda.desk.sessions.length := by
  unfold clears at h
  split at h
  · simp only [Bool.and_eq_true, beq_iff_eq, decide_eq_true_iff] at h
    exact h.1.1 ▸ h.2
  · cases h

/-- The counts of a session that was just opened account for no queries. -/
theorem Course.balances_of_fresh {agenda after : Agenda} {past : List Agenda}
    (h : Course (agenda :: past)) {opening : SessionOpening} {session : Session}
    (hf : agenda.desk.sessionFor opening = .ok session)
    (hs : after.desk.sessions[agenda.desk.sessions.length]? = some session) :
    session.Balances agenda.desk.sessions.length after (agenda :: past) := by
  obtain ⟨hg, ht, -, -, hc⟩ := Desk.eq_of_sessionFor hf
  -- nothing could be typed into the session, nor answered, before it was opened
  have hn : settledGenerations agenda.desk.sessions.length (after :: agenda :: past) = [] := by
    have ha : after.settledAt? agenda.desk.sessions.length = none := by
      rw [Agenda.settledAt?_of_session hs, ht]
      rfl
    rw [settledGenerations_of_none ha, settledGenerations, List.dedup_eq_nil,
      List.filterMap_eq_nil_iff]
    intro earlier he
    rw [Agenda.settledAt?, List.getElem?_eq_none (h.length_sessions_le he), Option.bind_none]
  have hz : (agenda :: past).countP (·.clears agenda.desk.sessions.length) = 0 := by
    rw [List.countP_eq_zero]
    intro earlier he hc
    have hlt := Agenda.lt_of_clears hc
    have hle := h.length_sessions_le he
    omega
  refine ⟨?_, by simp [hn]⟩
  rw [hg, ht, hc, hn, hz]
  rfl

/-- If nothing disturbs a desk, the counts of its sessions account for all queries. -/
theorem Course.balances {agenda : Agenda} {past : List Agenda} (h : Course (agenda :: past))
    (hu : ∀ earlier ∈ past, earlier.Undisturbed) {number : Nat} {session : Session}
    (hs : agenda.desk.sessions[number]? = some session) :
    session.Balances number agenda past := by
  induction h, hu using Course.induct_undisturbed generalizing session with
  | opened => simp at hs
  | moved hc hp _ hm ih => exact hm.balances hc (hc.exact hp) hs fun _ => ih
  | began hc _ hr hb ih =>
    obtain ho | ⟨rfl, _, hf⟩ := hb.session_cases hs
    · exact (ih ho).same ho hs rfl rfl rfl (by rw [Agenda.clears, hr])
    · exact hc.balances_of_fresh hf hs

/-! ## No query is lost -/

/-- Whether none of the queries of a session was lost, when all is done. -/
structure Session.NoneLost (session : Session) (number : Nat) (agenda : Agenda)
    (past : List Agenda) : Prop where
  /-- Each outcome was settled once, but for that of the pending query. -/
  once : ∀ outcome, agenda.desk.askers[outcome]? = some number →
    ((agenda.desk.answer? outcome).isSome ∧ past.countP (·.settles outcome) = 1) ∨
      (session.state = .pending ∧
        OwedFor agenda.desk.askers number session.generation outcome)
  /-- The pending query is the latest one; its outcome is open, and a load of one of the buckets
  that can hold its answer is held. -/
  pending : session.state = .pending → ∃ outcome,
    OwedFor agenda.desk.askers number session.generation outcome ∧
      agenda.desk.answer? outcome = none ∧ past.countP (·.settles outcome) = 0 ∧
      ∃ query, (∃ earlier ∈ past, earlier.Types number query outcome) ∧
        ∃ place ∈ agenda.desk.cache.held, ∃ load, agenda.desk.cache.loads[place]? = some load ∧
          load.ending = none ∧ load.bucket ∈
            candidates (queryKey query) session.buckets session.partition session.mode
  /-- The latest query was not superseded. -/
  latest : ∀ outcome, OwedFor agenda.desk.askers number session.generation outcome →
    agenda.desk.answer? outcome ≠ some .superseded
  /-- The session counts the queries that were superseded. -/
  cancelled : session.cancelled = (agenda.desk.supersededOf number).length
  /-- Each query was empty, or superseded, or answered, or is pending. -/
  generation : session.generation = past.countP (·.clears number) + session.cancelled +
    (settledGenerations number (agenda :: past)).length + if session.state = .pending then 1 else 0
  /-- If no load is held, no query is pending. -/
  rests : agenda.desk.cache.held = [] → session.state ≠ .pending

/-- When all is done, an outcome that is open is that of the pending query of its session. -/
theorem Course.pending_of_open {agenda : Agenda} {past : List Agenda} (h : Course (agenda :: past))
    (hu : ∀ earlier ∈ past, earlier.Undisturbed) (hr : agenda.tasks = []) {number : Nat}
    {session : Session} (hs : agenda.desk.sessions[number]? = some session) {outcome : Nat}
    (ho : agenda.desk.askers[outcome]? = some number)
    (ha : agenda.desk.answer? outcome = none) : session.pending = some outcome := by
  -- nothing but the session can hold the outcome, and something does
  have hh := (h.exact hu).holders outcome
  have hn : agenda.desk.owes outcome = 1 := if_pos (List.getElem?_eq_some_iff.1 ho).1
  rw [hn, hr, Desk.holders, Desk.hasAnswered, ha, Desk.awaits_of_asker ho hs] at hh
  apply Classical.byContradiction
  intro hp
  rw [beq_false_of_ne hp] at hh
  cases hh

/-- A session whose latest query is pending waits for a load of one of its buckets. -/
theorem Course.waits_of_pending {agenda : Agenda} {past : List Agenda} (h : Course (agenda :: past))
    (hu : ∀ earlier ∈ past, earlier.Undisturbed) (hr : agenda.tasks = []) {number : Nat}
    {session : Session} (hs : agenda.desk.sessions[number]? = some session)
    (hp : session.state = .pending) : ∃ outcome,
      OwedFor agenda.desk.askers number session.generation outcome ∧
        agenda.desk.awaits outcome = true ∧
        ∃ query, (∃ earlier ∈ past, earlier.Types number query outcome) ∧
          ∃ place ∈ agenda.desk.cache.held, ∃ load, agenda.desk.cache.loads[place]? = some load ∧
            load.ending = none ∧ load.bucket ∈
              candidates (queryKey query) session.buckets session.partition session.mode := by
  have hk := h.ledger.session number session hs
  obtain ⟨outcome, hq⟩ := Option.ne_none_iff_exists'.1 (hk.state.1 hp)
  have ho := hk.pending outcome hq
  have hw := h.ledger.awaits_of_pending hs hq
  obtain ⟨place, hh, load, hl, he, ticket, ht, rfl, other, hn, hb⟩ := h.load_of_awaits hu hr hw
  have hi : InHand agenda.desk.cache agenda.tasks ticket := .inr ⟨place, load, hl, ht⟩
  obtain ⟨rfl, -⟩ := ho.eq_of_eq (h.owedFor hi)
  obtain ⟨hkey, -, htyped⟩ := h.typed hi
  obtain rfl := Option.some.inj (hn.symm.trans hs)
  exact ⟨ticket.outcome, ho, hw, ticket.query, htyped, place, hh, load, hl, he, hkey ▸ hb⟩

/-- If nothing disturbs a desk, no query is lost: when all is done, each outcome of a session was
settled once, but for that of the latest query as long as it is pending; then a load that the query
waits for is held. -/
theorem Course.none_lost {agenda : Agenda} {past : List Agenda} (h : Course (agenda :: past))
    (hu : ∀ earlier ∈ past, earlier.Undisturbed) (hr : agenda.tasks = []) {number : Nat}
    {session : Session} (hs : agenda.desk.sessions[number]? = some session) :
    session.NoneLost number agenda past := by
  have hx := h.exact hu
  have hk := h.ledger.session number session hs
  have waits := h.waits_of_pending hu hr hs
  have drops {outcome : Nat} : agenda.Drops outcome ↔
      agenda.desk.answer? outcome = some .superseded := by
    rw [Agenda.Drops, hr]
    exact or_iff_left nofun
  refine
    { once := fun outcome ho => ?_
      pending := fun hp => ?_
      latest := fun outcome ho ha => ?_
      cancelled := ?_
      generation := (h.balances hu hs).generation
      rests := fun hh hp => ?_ }
  · have hc := h.countP_settles hu outcome
    cases ha : agenda.desk.answer? outcome with
    | some answered =>
      rw [ha, if_neg nofun] at hc
      exact .inl ⟨rfl, hc⟩
    | none =>
      have hp := h.pending_of_open hu hr hs ho ha
      exact .inr ⟨hk.state.2 (by simp [hp]), hk.pending outcome hp⟩
  · obtain ⟨outcome, ho, hw, hq⟩ := waits hp
    have ha := hx.answer?_of_awaits hw
    have hc := h.countP_settles hu outcome
    rw [if_pos ha] at hc
    exact ⟨outcome, ho, ha, hc, hq⟩
  · have hlt := h.lt_of_drops (drops.2 ha) ho
    rw [hk.generation] at hlt
    exact Nat.lt_irrefl _ hlt
  · rw [h.cancelled_eq hu hs]
    simp only [Agenda.droppedOf, Desk.supersededOf, drops]
  · obtain ⟨_, _, _, _, _, place, hm, _⟩ := waits hp
    rw [hh] at hm
    cases hm

/-- After two queries that were typed before their bucket is loaded, the second one is pending. -/
theorem Course.none_lost_of_two :
    let course := sampleCourse [.openSession {}, .type 0 (some "a") none,
      .type 0 (some "al") none]
    ∃ session, course.1.desk.sessions[0]? = some session ∧ session.state = .pending ∧
      session.NoneLost 0 course.1 course.2 := by
  intro course
  have h : Course (course.1 :: course.2) := Course.sample _
  have opened : (course.1.desk.sessions[0]?.map (·.state)) = some .pending := by decide +kernel
  obtain ⟨session, hs, hp⟩ := Option.map_eq_some_iff.1 opened
  exact ⟨session, hs, hp, h.none_lost (by decide +kernel) (by decide +kernel) hs⟩

end SymbolLookup

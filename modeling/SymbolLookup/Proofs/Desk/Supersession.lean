import SymbolLookup.Proofs.Desk.Telling
/-!
# Queries that are superseded

A host is told the answer to a query or that another took its place, never both.

## Main definitions

* `Agenda.Tells`: whether a host was or is about to be told of the answer to a query.
* `Agenda.Drops`: whether a query was or is about to be given up for another.
* `Agenda.FailsTelling`: whether a fault ends the telling of an answer.

## Main results

* `Course.untold_of_superseded`: a host is told nothing of the answer to a query that is
  superseded.
* `Course.told_once`: nor is it told an answer twice, or another than that the query is settled
  with.
-/

namespace SymbolLookup

/-- Whether a host was or is about to be told of the answer to a query. -/
def Agenda.Tells (agenda : Agenda) (session generation : Nat) : Prop :=
  (∃ call, call.tells session generation = true ∧
      (.called call ∈ agenda.desk.events ∨ .call call ∈ agenda.tasks)) ∨
    ∃ ticket failures result, .deliver ticket failures result ∈ agenda.tasks ∧
      ticket.session = session ∧ ticket.generation = generation

/-- Whether a query was or is about to be given up for another. -/
def Agenda.Drops (agenda : Agenda) (number : Nat) : Prop :=
  agenda.desk.answer? number = some .superseded ∨ .resolve number .superseded ∈ agenda.tasks

/-- Nobody is newly told of an answer because a fault takes its way. -/
theorem Agenda.Tells.of_unwind {desk : Desk} {fault : Fault} {tasks : List Task}
    {escaped escaped' : Option Fault} {session generation : Nat}
    (h : Agenda.Tells ⟨desk, (unwind fault tasks).1, escaped'⟩ session generation) :
    Agenda.Tells ⟨desk, .raise fault :: tasks, escaped⟩ session generation := by
  obtain ⟨call, hc, he | hm⟩ | ⟨ticket, failures, result, hm, ht⟩ := h
  · exact .inl ⟨call, hc, .inl he⟩
  · exact .inl ⟨call, hc, .inr (mem_of_mem_unwind hm (by simp))⟩
  · exact .inr ⟨ticket, failures, result, mem_of_mem_unwind hm (by simp), ht⟩

/-- No query is newly given up because a fault takes its way. -/
theorem Agenda.Drops.of_unwind {desk : Desk} {fault : Fault} {tasks : List Task}
    {escaped escaped' : Option Fault} {number : Nat}
    (h : Agenda.Drops ⟨desk, (unwind fault tasks).1, escaped'⟩ number) :
    Agenda.Drops ⟨desk, .raise fault :: tasks, escaped⟩ number := by
  obtain ha | hm := h
  · exact .inl ha
  · exact .inr (mem_of_mem_unwind hm (by simp))

/-! ## What becomes of outcomes -/

/-- What became of an outcome stays so, and it becomes of it by being settled. -/
theorem Move.answer?_cases {desk after : Desk} {task : Task} {next : List Task}
    (h : Move desk task after next) (number : Nat) :
    after.answer? number = desk.answer? number ∨
      (desk.answer? number = none ∧ ∃ answered, task = .resolve number answered ∧
        after.answer? number = some answered) := by
  cases h with
  | submit => exact .inl (Desk.answer?_owe _ rfl)
  | handOut ho hs ha =>
    rw [Desk.answer?_note _ ho, ha]
    split
    · rename_i hp
      exact .inl (by rw [hp, Desk.answer?, ho, Option.bind_some])
    · exact .inl rfl
  | resolve ho hw hs ha =>
    rw [Desk.answer?_note _ ho, ha]
    split
    · rename_i hp
      exact .inr ⟨by rw [hp, Desk.answer?, ho, Option.bind_some, hw], _, by rw [hp], rfl⟩
    · exact .inl rfl
  | _ => exact .inl rfl

theorem Agenda.Step.answer?_of_answer? {agenda after : Agenda} (h : agenda.Step after)
    {number : Nat} {answered : Answered} (ha : agenda.desk.answer? number = some answered) :
    after.desk.answer? number = some answered := by
  cases h with
  | move hm =>
    obtain he | ⟨hn, -⟩ := hm.answer?_cases number
    · exact he.trans ha
    · rw [hn] at ha
      cases ha
  | raise => exact ha

/-- What became of an outcome stays so throughout a course. -/
theorem Course.answer?_of_earlier {agenda earlier : Agenda} {past : List Agenda}
    (h : Course (agenda :: past)) (he : earlier ∈ agenda :: past) {number : Nat}
    {answered : Answered} (ha : earlier.desk.answer? number = some answered) :
    agenda.desk.answer? number = some answered :=
  h.stays (p := fun agenda => agenda.desk.answer? number = some answered)
    (fun hs ha => hs.answer?_of_answer? ha)
    (fun hb ha => by rwa [hb.answer?]) he ha

/-- A query that is pending after a move was so before, unless it was just typed. -/
theorem Move.awaits_of_awaits {desk after : Desk} {task : Task} {next : List Task}
    (h : Move desk task after next) {number : Nat} (hn : number < desk.askers.length)
    (ha : after.awaits number = true) : desk.awaits number = true := by
  obtain ⟨session, hs, hp⟩ := Desk.awaits_iff.1 ha
  obtain ⟨asker, hk, hs⟩ := Desk.asker?_eq_some.1 hs
  obtain ⟨later, he⟩ := h.askers_prefix
  rw [← he, List.getElem?_append_left hn] at hk
  obtain ⟨before, hb, ht⟩ := h.turn hs
  rw [Desk.awaits_of_asker hk hb, beq_iff_eq]
  cases ht with
  | same => exact hp
  | called => exact hp
  | settled => cases hp
  | submitted =>
    rw [Desk.submitted, Session.pending_submit] at hp
    split at hp
    · cases hp
    · rw [Desk.length_askers] at hn
      cases hp
      exact absurd hn (Nat.lt_irrefl _)

/-- The query that another would supersede is pending. -/
theorem Desk.awaits_of_superseded? {desk : Desk} (hl : desk.Ledger) {place number : Nat}
    {session : Session} (hs : desk.sessions[place]? = some session)
    (hp : desk.superseded? session = some number) : desk.awaits number = true := by
  have hp := (Option.filter_eq_some_iff.1 hp).1
  exact hl.awaits_of_pending hs hp

/-- A query is given up when another is typed. -/
theorem Move.drops_cases {desk after : Desk} {task : Task} {tasks next : List Task}
    {escaped : Option Fault} (h : Move desk task after next) {number : Nat}
    (hd : Agenda.Drops ⟨after, next ++ tasks, escaped⟩ number) :
    Agenda.Drops ⟨desk, task :: tasks, escaped⟩ number ∨ ∃ place query followUp session,
      task = .submit place query followUp ∧ desk.sessions[place]? = some session ∧
        desk.superseded? session = some number := by
  obtain ha | hm := hd
  · obtain he | ⟨-, answered, rfl, he⟩ := h.answer?_cases number
    · exact .inl (.inl (he.symm.trans ha))
    · cases he.symm.trans ha
      exact .inl (.inr List.mem_cons_self)
  · rcases List.mem_append.1 hm with hm | hm
    · cases h.yields hm with
      | supersede hs hp => exact .inr ⟨_, _, _, _, rfl, hs, hp⟩
    · exact .inl (.inr (List.mem_cons_of_mem _ hm))

/-! ## What hosts are told of -/

/-- A query whose answer is told was pending when it was answered. -/
theorem Move.settle_cases {desk after : Desk} {ticket : Ticket} {next : List Task}
    (h : Move desk (.settle ticket) after next) : next = [] ∨
      ∃ session, desk.sessions[ticket.session]? = some session ∧
        session.generation = ticket.generation ∧ session.pending = some ticket.outcome ∧
        after = desk.setSession ticket.session session.settle := by
  cases h with
  | settle hs _ hg hp => exact .inr ⟨_, hs, hg, hp, rfl⟩
  | settleFailed hs _ hg hp => exact .inr ⟨_, hs, hg, hp, rfl⟩
  | settleDropped => exact .inl rfl

theorem Call.eq_of_tells_state {place number session generation : Nat} {reached : QueryState}
    (h : (Call.state place number reached).tells session generation = true) :
    place = session ∧ number = generation := by
  simp only [tells, Bool.and_eq_true, beq_iff_eq] at h
  exact h.1

theorem Call.eq_of_tells_warning {place number session generation : Nat} {bucket reason : String}
    (h : (Call.warning place number bucket reason).tells session generation = true) :
    place = session ∧ number = generation := by
  simpa [tells] using h

theorem Call.eq_of_tells_results {place number session generation : Nat} {groups : List Group}
    (h : (Call.results place number groups).tells session generation = true) :
    place = session ∧ number = generation := by
  simpa [tells] using h

/-- A host is newly told of an answer only when its query is settled. -/
theorem Move.tells_cases {desk after : Desk} {task : Task} {tasks next : List Task}
    {escaped : Option Fault} (h : Move desk task after next) {session generation : Nat}
    (ht : Agenda.Tells ⟨after, next ++ tasks, escaped⟩ session generation) :
    Agenda.Tells ⟨desk, task :: tasks, escaped⟩ session generation ∨
      ∃ ticket, task = .settle ticket ∧ next ≠ [] ∧ ticket.session = session ∧
        ticket.generation = generation := by
  rcases ht with ⟨call, hc, he | hm⟩ | ⟨ticket, failures, result, hm, hs, hg⟩
  · left
    obtain ⟨other, rfl, hw⟩ | ⟨done, hw, hn⟩ := h.event_cases
    · rw [hw, List.mem_append, List.mem_singleton] at he
      rcases he with he | he
      · exact .inl ⟨call, hc, .inl he⟩
      · cases he
        exact .inl ⟨call, hc, .inr List.mem_cons_self⟩
    · rw [hw, List.mem_append] at he
      exact .inl ⟨call, hc, .inl (he.resolve_right (hn call))⟩
  · rcases List.mem_append.1 hm with hm | hm
    · have hne : next ≠ [] := List.ne_nil_of_mem hm
      obtain hn | ⟨ticket, rfl, rfl⟩ | ⟨ticket, _, _, rfl, ⟨_, _, rfl⟩ | rfl⟩ := h.call_cases hm
      · rw [hn] at hc
        cases hc
      · exact .inr ⟨ticket, rfl, hne, Call.eq_of_tells_state hc⟩
      · exact .inl (.inr ⟨_, _, _, List.mem_cons_self, Call.eq_of_tells_warning hc⟩)
      · exact .inl (.inr ⟨_, _, _, List.mem_cons_self, Call.eq_of_tells_results hc⟩)
    · exact .inl (.inl ⟨call, hc, .inr (List.mem_cons_of_mem _ hm)⟩)
  · rcases List.mem_append.1 hm with hm | hm
    · exact .inr ⟨ticket, (h.deliver_cases hm).1, List.ne_nil_of_mem hm, hs, hg⟩
    · exact .inl (.inr ⟨_, _, _, List.mem_cons_of_mem _ hm, hs, hg⟩)

/-- Whether a query that its host was or is about to be told of is kept: it is not pending any more,
and it is not given up. -/
def Agenda.Keeps (agenda : Agenda) (session generation : Nat) : Prop :=
  ∃ number, OwedFor agenda.desk.askers session generation number ∧
    agenda.desk.awaits number = false ∧ ¬agenda.Drops number

/-- A query that is pending is not given up yet. -/
theorem Course.not_drops_of_awaits {agenda : Agenda} {past : List Agenda}
    (h : Course (agenda :: past)) {number : Nat} (ha : agenda.desk.awaits number = true) :
    ¬agenda.Drops number := by
  -- the session holds the outcome, and so nothing else does
  have hl := h.holders_le number
  have hb := agenda.desk.owes_le number
  rw [Desk.holders, ha, Bool.toNat_true] at hl
  rintro (hd | hd)
  · have hw := Desk.hasAnswered_of_answer? hd (by simp)
    rw [hw, Bool.toNat_true] at hl
    omega
  · have hc : 0 < agenda.tasks.countP (·.holds number) :=
      List.countP_pos_iff.2 ⟨_, hd, by simp [Task.holds]⟩
    omega

theorem Begins.tells_of_tells {agenda after : Agenda} (h : Begins agenda.desk after)
    {session generation : Nat} (ht : after.Tells session generation) :
    agenda.Tells session generation := by
  rcases ht with ⟨call, hc, he | hm⟩ | ⟨_, _, _, hm, -⟩
  · rw [h.frame.events] at he
    exact .inl ⟨call, hc, .inl he⟩
  · simpa using h.mem_tasks hm
  · simpa using h.mem_tasks hm

theorem Begins.drops_of_drops {agenda after : Agenda} (h : Begins agenda.desk after) {number : Nat}
    (hd : after.Drops number) : agenda.Drops number := by
  obtain ha | hm := hd
  · rw [h.answer?] at ha
    exact .inl ha
  · simpa using h.mem_tasks hm

theorem Agenda.Step.keeps {agenda after : Agenda} {past : List Agenda}
    (h : Course (agenda :: past)) (hs : agenda.Step after) {session generation : Nat}
    (hk : agenda.Tells session generation → agenda.Keeps session generation)
    (ht : after.Tells session generation) : after.Keeps session generation := by
  cases hs with
  | @move desk after task tasks next escaped hm =>
    obtain ⟨later, he⟩ := hm.askers_prefix
    obtain ht | ⟨ticket, rfl, hne, rfl, rfl⟩ := hm.tells_cases ht
    · obtain ⟨number, ho, ha, hd⟩ := hk ht
      refine ⟨number, he ▸ ho.append later, ?_, ?_⟩
      · rw [Bool.eq_false_iff]
        intro hw
        rw [hm.awaits_of_awaits ho.lt_length hw] at ha
        cases ha
      · intro hd'
        rcases hm.drops_cases hd' with hd' | ⟨_, _, _, _, -, hs, hp⟩
        · exact hd hd'
        · rw [Desk.awaits_of_superseded? h.ledger hs hp] at ha
          cases ha
    · -- the query that is settled now was pending until now, so nothing has given it up
      obtain hn | ⟨old, hs, hg, hp, rfl⟩ := hm.settle_cases
      · exact absurd hn hne
      · have ho := h.owedFor (.inl ⟨_, List.mem_cons_self, rfl⟩)
        have hw := h.ledger.awaits_of_pending hs hp
        refine ⟨ticket.outcome, ho, ?_, ?_⟩
        · exact (Desk.awaits_setSession ticket.outcome hs old.settle).trans (if_pos ho.1)
        · intro hd
          apply h.not_drops_of_awaits hw
          obtain ha | hd := hd
          · exact .inl ha
          · rcases List.mem_append.1 hd with hd | hd
            · cases hm.yields hd
            · exact .inr (List.mem_cons_of_mem _ hd)
  | raise =>
    obtain ⟨number, ho, ha, hd⟩ := hk ht.of_unwind
    exact ⟨number, ho, ha, fun hd' => hd hd'.of_unwind⟩

/-- A query that a host was or is about to be told of is kept. -/
theorem Course.keeps_of_tells {agenda : Agenda} {past : List Agenda} (h : Course (agenda :: past))
    {session generation : Nat} (ht : agenda.Tells session generation) :
    agenda.Keeps session generation := by
  induction h using Course.induct with
  | opened => obtain ⟨_, _, hm | hm⟩ | ⟨_, _, _, hm, _⟩ := ht <;> cases hm
  | worked hc hs ih => exact hs.keeps hc ih ht
  | began hc _ hb ih =>
    obtain ⟨number, ho, ha, hd⟩ := ih (hb.tells_of_tells ht)
    refine ⟨number, hb.askers ▸ ho, ?_, fun hd' => hd (hb.drops_of_drops hd')⟩
    rw [hb.awaits hc.ledger, ha]

/-- A host is told nothing of the answer to a query that is superseded, neither before nor after. -/
theorem Course.untold_of_superseded {agenda : Agenda} {past : List Agenda}
    (h : Course (agenda :: past)) {session generation number : Nat}
    (ho : OwedFor agenda.desk.askers session generation number)
    (ha : agenda.desk.answer? number = some .superseded) : ¬agenda.Tells session generation := by
  intro ht
  obtain ⟨other, ho', -, hd⟩ := h.keeps_of_tells ht
  obtain rfl := ho.unique ho'
  exact hd (.inl ha)

/-! ## What becomes of an answer that is delivered -/

/-- Whether a fault ends the telling of the answer that an outcome is settled with: it comes out of
a call by which the host is told, and the host did not meet it. -/
def Agenda.FailsTelling (agenda : Agenda) (number : Nat) : Prop :=
  ∃ fault passed result rest, agenda.tasks =
    .raise fault :: (passed ++ .conclude number result :: rest) ∧
      ∀ task ∈ passed, task.handles = false

/-- Whether each answer that is about to be delivered is concluded right afterwards. -/
def Concludes (askers : List Nat) (tasks : List Task) : Prop :=
  ∀ session generation groups rest, .call (.results session generation groups) :: rest <:+ tasks →
    ∃ number result others, rest = .conclude number result :: others ∧
      OwedFor askers session generation number ∧ result.groups = groups

/-- The ends of two rows of tasks that follow each other. -/
theorem cons_suffix_append {first : Task} {rest next tasks : List Task}
    (h : first :: rest <:+ next ++ tasks) : first :: rest <:+ tasks ∨
      ∃ others, first :: others <:+ next ∧ rest = others ++ tasks := by
  obtain ⟨before, hb⟩ := h
  obtain ⟨middle, rfl, he⟩ | ⟨middle, rfl, he⟩ := List.append_eq_append_iff.1 hb
  · cases middle with
    | nil => exact .inl ⟨[], by simpa using he⟩
    | cons other middle =>
      obtain ⟨rfl, rfl⟩ := List.cons.inj he
      exact .inr ⟨middle, ⟨before, rfl⟩, rfl⟩
  · exact .inl ⟨middle, he.symm⟩

theorem Concludes.of_suffix {askers : List Nat} {tasks next : List Task}
    (h : Concludes askers tasks) (hs : next <:+ tasks) : Concludes askers next := by
  intro session generation groups rest hr
  exact h session generation groups rest (hr.trans hs)

theorem Concludes.append {askers later : List Nat} {tasks : List Task}
    (h : Concludes askers tasks) : Concludes (askers ++ later) tasks := by
  intro session generation groups rest hr
  obtain ⟨number, result, others, he, ho, hg⟩ := h session generation groups rest hr
  exact ⟨number, result, others, he, ho.append later, hg⟩

theorem concludes_deliver {askers : List Nat} {ticket : Ticket}
    {failures : List (String × String)} {result : Result}
    (ho : OwedFor askers ticket.session ticket.generation ticket.outcome) :
    Concludes askers (Desk.deliver ticket failures result) := by
  intro session generation groups rest hr
  obtain hs | ⟨others, hs, -⟩ := cons_suffix_append hr
  · rw [List.suffix_cons_iff, List.suffix_cons_iff] at hs
    rcases hs with he | he | hs
    · cases he
      exact ⟨ticket.outcome, result, [], rfl, ho, rfl⟩
    · cases he
    · cases List.suffix_nil.1 hs
  · obtain ⟨_, -, he⟩ := List.mem_map.1 (hs.subset List.mem_cons_self)
    cases he

theorem Course.concludes {agenda : Agenda} {past : List Agenda} (h : Course (agenda :: past)) :
    Concludes agenda.desk.askers agenda.tasks := by
  induction h using Course.induct with
  | opened =>
    intro session generation groups rest hs
    cases List.suffix_nil.1 hs
  | worked hc hs ih =>
    cases hs with
    | @move desk after task tasks next escaped hm =>
      obtain ⟨later, he⟩ := hm.askers_prefix
      have old : Concludes after.askers tasks :=
        he ▸ (ih.of_suffix (List.suffix_cons task tasks)).append
      intro session generation groups rest hr
      obtain hs | ⟨others, hs, rfl⟩ := cons_suffix_append hr
      · exact old session generation groups rest hs
      · -- only telling an answer delivers one, and it concludes the outcome
        cases hm.yields (hs.subset List.mem_cons_self)
        have ho := hc.owedFor (.inl ⟨_, List.mem_cons_self, rfl⟩)
        cases hm
        obtain ⟨number, result, others, rfl, ho, hg⟩ := concludes_deliver ho _ _ _ _ hs
        exact ⟨number, result, others ++ tasks, rfl, ho, hg⟩
    | @raise desk fault tasks escaped =>
      have old := ih.of_suffix (List.suffix_cons _ tasks)
      obtain ⟨hn, -⟩ | ⟨passed, rest, -, ⟨rfl, hu⟩ | ⟨number, result, rfl, hu⟩⟩ :=
        unwind_cases fault tasks
      · rw [hn]
        intro _ _ _ _ hs
        cases List.suffix_nil.1 hs
      · rw [hu]
        exact old.of_suffix ((List.suffix_cons _ _).trans (List.suffix_append _ _))
      · -- the task at which the way of the fault ends settles an outcome, and delivers nothing
        rw [hu]
        intro session generation groups others hs
        rcases List.suffix_cons_iff.1 hs with he | hs
        · cases he
        · exact old session generation groups others
            (hs.trans ((List.suffix_cons _ _).trans (List.suffix_append _ _)))
  | began _ _ hb =>
    intro session generation groups rest hs
    simpa using hb.mem_tasks (hs.subset List.mem_cons_self)

/-- Whether an outcome is, or is about to be, settled with an answer that was delivered, unless the
host cancels it or a fault ends the telling. -/
def Agenda.Honours (agenda : Agenda) (past : List Agenda) (number : Nat) (groups : List Group) :
    Prop :=
  (∃ result, result.groups = groups ∧ (.conclude number result ∈ agenda.tasks ∨
      agenda.tasks.head? = some (.resolve number (.result result)) ∨
      agenda.desk.answer? number = some (.result result))) ∨
    agenda.desk.answer? number = some .cancelled ∨
    ∃ earlier ∈ agenda :: past, earlier.FailsTelling number

/-- The outcome that a task settles with an answer is settled with it, unless it was cancelled. -/
theorem Course.answer?_of_resolve {desk after : Desk} {tasks next : List Task}
    {escaped : Option Fault} {past : List Agenda} {number : Nat} {result : Result}
    (h : Course (⟨desk, .resolve number (.result result) :: tasks, escaped⟩ :: past))
    (hm : Move desk (.resolve number (.result result)) after next)
    (hn : number < desk.askers.length) :
    after.answer? number = some (.result result) ∨ after.answer? number = some .cancelled := by
  cases hm with
  | resolve ho hw hs ha =>
    left
    rw [Desk.answer?_note _ ho, if_pos rfl, ha]
  | resolveAgain ho hw =>
    -- the task holds the outcome, and only a cancelled one is settled then
    refine .inr (Classical.byContradiction fun hc => ?_)
    have hn := h.answer?_of_holds List.mem_cons_self (by simp [Task.holds]) hc
    rw [Desk.answer?, ho, Option.bind_some] at hn
    exact hw hn
  | resolveNowhere ho =>
    rw [Desk.length_askers] at hn
    exact absurd hn (Nat.not_lt.2 (List.getElem?_eq_none_iff.1 ho))

theorem Agenda.Step.honours {agenda after : Agenda} {past : List Agenda}
    (h : Course (agenda :: past)) (hs : agenda.Step after) {number : Nat} {groups : List Group}
    (hn : number < agenda.desk.askers.length) (hh : agenda.Honours past number groups) :
    after.Honours (agenda :: past) number groups := by
  obtain ⟨result, hg, hc | hr | ha⟩ | ha | ⟨earlier, he, hf⟩ := hh
  · cases hs with
    | move hm =>
      rcases List.mem_cons.1 hc with rfl | hc
      · cases hm
        exact .inl ⟨result, hg, .inr (.inl rfl)⟩
      · exact .inl ⟨result, hg, .inl (List.mem_append_right _ hc)⟩
    | @raise desk fault tasks escaped =>
      have hc : .conclude number result ∈ tasks := by simpa using hc
      obtain ⟨-, hw⟩ | ⟨passed, rest, hw, ⟨rfl, hu⟩ | ⟨other, found, rfl, hu⟩⟩ :=
        unwind_cases fault tasks
      · cases hw _ hc
      · rw [List.mem_append, List.mem_cons] at hc
        obtain hc | hc | hc := hc
        · cases hw _ hc
        · cases hc
        · exact .inl ⟨result, hg, .inl (by rw [hu]; exact hc)⟩
      · rw [List.mem_append, List.mem_cons] at hc
        obtain hc | hc | hc := hc
        · cases hw _ hc
        · cases hc
          exact .inr (.inr ⟨_, List.mem_cons_of_mem _ List.mem_cons_self, _, _, _, _, rfl, hw⟩)
        · exact .inl ⟨result, hg, .inl (by rw [hu]; exact List.mem_cons_of_mem _ hc)⟩
  · cases hs with
    | @move desk after task tasks next escaped hm =>
      obtain rfl : task = .resolve number (.result result) := by simpa using hr
      obtain ha | ha := h.answer?_of_resolve hm hn
      · exact .inl ⟨result, hg, .inr (.inr ha)⟩
      · exact .inr (.inl ha)
    | raise => simp at hr
  · exact .inl ⟨result, hg, .inr (.inr (hs.answer?_of_answer? ha))⟩
  · exact .inr (.inl (hs.answer?_of_answer? ha))
  · exact .inr (.inr ⟨earlier, List.mem_cons_of_mem _ he, hf⟩)

/-- The outcome of a query whose answer was delivered is, or is about to be, settled with it. -/
theorem Course.honours_of_delivered {agenda : Agenda} {past : List Agenda}
    (h : Course (agenda :: past)) {session generation number : Nat} {groups : List Group}
    (ho : OwedFor agenda.desk.askers session generation number)
    (he : .called (.results session generation groups) ∈ agenda.desk.events) :
    agenda.Honours past number groups := by
  induction h using Course.induct generalizing number with
  | opened => cases he
  | @worked agenda after past hc _ hs ih =>
    obtain ⟨later, hl⟩ : agenda.desk.askers <+: after.desk.askers := by
      cases hs with
      | move hm => exact hm.askers_prefix
      | raise => exact List.prefix_rfl
    have old (he : .called (.results session generation groups) ∈ agenda.desk.events) :
        after.Honours (agenda :: past) number groups := by
      have ht : agenda.Tells session generation := .inl ⟨_, by simp [Call.tells], .inl he⟩
      obtain ⟨other, ho', -, -⟩ := hc.keeps_of_tells ht
      obtain rfl := ho.unique (hl ▸ ho'.append later)
      exact hs.honours hc ho'.lt_length (ih ho' he)
    cases hs with
    | move hm =>
      obtain ⟨call, rfl, hw⟩ | ⟨done, hw, hn⟩ := hm.event_cases
      · rw [hw, List.mem_append, List.mem_singleton] at he
        rcases he with he | he
        · exact old he
        · cases he
          obtain ⟨other, result, others, rfl, ho', hg⟩ := hc.concludes _ _ _ _ List.suffix_rfl
          obtain rfl := ho.unique (hl ▸ ho'.append later)
          exact .inl ⟨result, hg, .inl (List.mem_append_right _ List.mem_cons_self)⟩
      · rw [hw, List.mem_append] at he
        exact old (he.resolve_right (hn _))
    | raise => exact old he
  | began _ hr hb ih =>
    rw [hb.askers] at ho
    rw [hb.frame.events] at he
    obtain ⟨result, hg, hm | hm | ha⟩ | ha | ⟨earlier, hm, hf⟩ := ih ho he
    · rw [hr] at hm
      cases hm
    · rw [hr] at hm
      cases hm
    · refine .inl ⟨result, hg, .inr (.inr ?_)⟩
      rwa [hb.answer?]
    · refine .inr (.inl ?_)
      rwa [hb.answer?]
    · exact .inr (.inr ⟨earlier, List.mem_cons_of_mem _ hm, hf⟩)

/-! ## Superseded and delivered queries -/

/-- Throughout every course, each answer is delivered at most once; a host is told nothing of the
answer to a query that is superseded at any time; and when all is done, a query whose answer was
delivered is settled with what was delivered, unless a fault ended the telling or the host cancelled
the outcome. -/
theorem Course.told_once {agenda : Agenda} {past : List Agenda} (h : Course (agenda :: past))
    (session generation : Nat) :
    agenda.desk.events.countP (·.delivers session generation) ≤ 1 ∧
      ∀ number, OwedFor agenda.desk.askers session generation number →
        (∀ earlier ∈ agenda :: past, earlier.desk.answer? number = some .superseded →
          ∀ call, call.tells session generation = true → .called call ∉ agenda.desk.events) ∧
        ∀ groups, .called (.results session generation groups) ∈ agenda.desk.events →
          agenda.tasks = [] → (∀ earlier ∈ agenda :: past, ¬earlier.FailsTelling number) →
          agenda.desk.answer? number ≠ some .cancelled →
          ∃ result, agenda.desk.answer? number = some (.result result) ∧
            result.groups = groups := by
  refine ⟨h.countP_delivers_le session generation, fun number ho => ⟨?_, ?_⟩⟩
  · intro earlier he ha call ht hc
    have hs := h.answer?_of_earlier he ha
    exact h.untold_of_superseded ho hs (.inl ⟨call, ht, .inl hc⟩)
  · intro groups hd hr hf hn
    obtain ⟨result, hg, hm | hm | ha⟩ | ha | ⟨earlier, he, hw⟩ := h.honours_of_delivered ho hd
    · rw [hr] at hm
      cases hm
    · rw [hr] at hm
      cases hm
    · exact ⟨result, ha, hg⟩
    · exact absurd ha hn
    · exact absurd hw (hf earlier he)

/-- Whether a task is a fault that takes its way. -/
def Task.raises : Task → Bool
  | .raise _ => true
  | _ => false

/-- Of two queries that are typed before their bucket is loaded, the first one is superseded. -/
theorem Course.told_once_of_two :
    let course := sampleCourse [.openSession {}, .type 0 (some "a") none,
      .type 0 (some "al") none, .drain]
    course.1.desk.answer? 0 = some .superseded ∧
      (∀ call, call.tells 0 1 = true → .called call ∉ course.1.desk.events) ∧
      course.1.desk.events.countP (·.delivers 0 2) ≤ 1 ∧
      ∃ result, course.1.desk.answer? 1 = some (.result result) ∧
        result.groups = [Group.sample] := by
  intro course
  have h : Course (course.1 :: course.2) := Course.sample _
  have given : course.1.desk.answer? 0 = some .superseded := by decide +kernel
  have raises : ∀ earlier ∈ course.1 :: course.2,
      earlier.tasks.head?.any (·.raises) = false := by decide +kernel
  have first := (h.told_once 0 1).2 0 ⟨by decide +kernel, by decide +kernel⟩
  have second := h.told_once 0 2
  refine ⟨given, first.1 _ List.mem_cons_self given, second.1, ?_⟩
  refine (second.2 1 ⟨by decide +kernel, by decide +kernel⟩).2 [Group.sample]
    (by decide +kernel) (by decide +kernel) (fun earlier he hf => ?_) (by decide +kernel)
  obtain ⟨fault, passed, result, rest, ht, -⟩ := hf
  have := raises earlier he
  rw [ht] at this
  cases this

end SymbolLookup

import SymbolLookup.Console.Lines
import SymbolLookup.Proofs.Desk.Steady
/-!
# Replies to one query

What the console shows from when a query is typed until it is answered: its answer once, if the
query is not empty, and nothing else.

## Main definitions

* `promised`: what was shown since some moment, and what the tasks are about to show.
* `Replying`: where the answer to a query stands.
* `AtPrompt`: whether a desk waits for the next line.

## Main results

* `promised_move`: only an answer that is found adds to what is promised.
* `Replying.step`: how the answer to a query goes on.
* `typeQuery_eq`: what is shown for a query.
-/

namespace SymbolLookup.Console

variable {interpreter : Interpreter} {doc : String → Option String} {terms : Session}
  {desk after : Desk} {task : Task}
  {tasks next : List Task} {escaped : Option Fault} {past : List Agenda}

/-! ## What is promised -/

/-- What a task is about to show. -/
def piecesOf : Task → List Piece
  | .call call => (pieceOf? (.called call)).toList
  | .deliver _ failures result =>
    failures.map (fun failure => .warning (failureMessage failure)) ++ [.answer result.groups]
  | _ => []

/-- What was shown since so many things had happened, and what some tasks are about to show. -/
def promised (seen : Nat) (desk : Desk) (tasks : List Task) : List Piece :=
  (desk.events.drop seen).filterMap pieceOf? ++ tasks.flatMap piecesOf

/-- Only an answer that is found, or told, comes of a task and is shown. -/
theorem piecesOf_of_yields {first : Task} (h : Yields desk task first)
    (hs : ∀ ticket, task ≠ .settle ticket)
    (hd : ∀ ticket failures result, task ≠ .deliver ticket failures result) :
    piecesOf first = [] := by
  cases h with
  | deliver => exact absurd rfl (hs _)
  | warning => exact absurd rfl (hd _ _ _)
  | results => exact absurd rfl (hd _ _ _)
  | _ => rfl

theorem flatMap_deliver (ticket : Ticket) (failures : List (String × String)) (result : Result) :
    (Desk.deliver ticket failures result).flatMap piecesOf =
      piecesOf (.deliver ticket failures result) := by
  induction failures with
  | nil => rfl
  | cons failure failures ih => exact congrArg (_ :: ·) ih

theorem flatMap_piecesOf (hm : Move desk task after next) (hs : ∀ ticket, task ≠ .settle ticket)
    (hd : ∀ ticket failures result, task ≠ .deliver ticket failures result) :
    next.flatMap piecesOf = [] :=
  List.flatMap_eq_nil_iff.2 fun _ hf => piecesOf_of_yields (hm.yields hf) hs hd

/-- A call that is not heard shows nothing. -/
theorem piecesOf_of_unheard (h : Steady interpreter doc terms desk (task :: tasks))
    (hm : Move desk task after next) (ht : ∀ session generation groups,
      task = .call (.results session generation groups) → session < desk.sessions.length)
    {done : List Event} (he : after.events = desk.events ++ done)
    (hn : ∀ call, .called call ∉ done)
    (hd : ∀ ticket failures result, task ≠ .deliver ticket failures result) :
    piecesOf task = [] := by
  have recorded {call : Call} (hc : after.events = desk.events ++ [.called call]) : False := by
    rw [he, List.append_cancel_left_eq] at hc
    exact hn call (hc ▸ List.mem_cons_self)
  cases hm with
  | call => exact (recorded rfl).elim
  | callDiagnostic => exact (recorded rfl).elim
  | @callUnheard call _ hh =>
    cases call with
    | results session generation groups =>
      -- every session hears of results
      have hl := List.getElem?_eq_getElem (ht session generation groups rfl)
      have := hh _ hl
      simp [Session.hears, Call.occasion] at this
    | warning => cases h.smooth _ List.mem_cons_self
    | _ => rfl
  | deliver => exact absurd rfl (hd _ _ _)
  | _ => rfl

/-- What was promised is kept by every move, and only an answer that is found adds to it. -/
theorem promised_move (h : Steady interpreter doc terms desk (task :: tasks))
    (hm : Move desk task after next)
    {seen : Nat} (hl : seen ≤ desk.events.length) (ht : ∀ session generation groups,
      task = .call (.results session generation groups) → session < desk.sessions.length)
    (hs : ∀ ticket, task ≠ .settle ticket) :
    promised seen after (next ++ tasks) = promised seen desk (task :: tasks) := by
  have later {done : List Event} (he : after.events = desk.events ++ done) :
      (after.events.drop seen).filterMap pieceOf? =
        (desk.events.drop seen).filterMap pieceOf? ++ done.filterMap pieceOf? := by
    rw [he, List.drop_append_of_le_length hl, List.filterMap_append]
  unfold promised
  rw [List.flatMap_append, List.flatMap_cons]
  obtain ⟨call, rfl, he⟩ | ⟨done, he, hn⟩ := hm.event_cases
  · rw [later he, flatMap_piecesOf hm nofun nofun, List.nil_append, List.append_assoc]
    have shown : [Event.called call].filterMap pieceOf? = piecesOf (.call call) := by
      rw [piecesOf, List.filterMap_cons]
      cases pieceOf? (.called call) <;> rfl
    rw [shown]
  · have none : done.filterMap pieceOf? = [] := by
      rw [List.filterMap_eq_nil_iff]
      intro event hm
      cases event with
      | called call => exact absurd hm (hn call)
      | _ => rfl
    rw [later he, none, List.append_nil]
    by_cases hd : ∃ ticket failures result, task = .deliver ticket failures result
    · obtain ⟨ticket, failures, result, rfl⟩ := hd
      cases hm
      rw [flatMap_deliver]
    · have hd : ∀ ticket failures result, task ≠ .deliver ticket failures result :=
        fun ticket failures result e => hd ⟨_, _, _, e⟩
      rw [flatMap_piecesOf hm hs hd, piecesOf_of_unheard h hm ht he hn hd]

/-! ## Where an answer stands -/

/-- Where the answer to a query stands, for which an outcome is owed: it is pending, and nothing is
promised; or it is not, and its answer is promised unless it is empty. -/
structure Replying (interpreter : Interpreter) (doc : String → Option String) (terms : Session)
    (outcome : Nat) (key : String) (seen : Nat) (desk : Desk) (tasks : List Task) : Prop where
  steady : Steady interpreter doc terms desk tasks
  seen_le : seen ≤ desk.events.length
  opened : 0 < desk.sessions.length
  /-- Answers are told to sessions that exist. -/
  told : ∀ session generation groups, .call (.results session generation groups) ∈ tasks →
    session < desk.sessions.length
  /-- The tickets for the outcome are those of the query. -/
  tickets : ∀ ticket, InHand desk.cache tasks ticket → ticket.outcome = outcome → ticket.key = key
  /-- No other query is pending, and the one that is is looked for. -/
  pending : ∀ number, desk.awaits number = true →
    number = outcome ∧ promised seen desk tasks = [] ∧ Pursues desk.cache tasks outcome
  replied : (∀ number, desk.awaits number = false) → promised seen desk tasks =
    if key = "" then [] else [.answer (terms.reply interpreter doc key)]

namespace Replying

variable {outcome : Nat} {key : String} {seen : Nat}

theorem tickets_next (h : Replying interpreter doc terms outcome key seen desk (task :: tasks))
    (hm : Move desk task after next) {ticket : Ticket}
    (ht : InHand after.cache (next ++ tasks) ticket) (ho : ticket.outcome = outcome) :
    ticket.key = key := by
  have new (hn : InHand after.cache next ticket) : ticket.key = key := by
    obtain ⟨earlier, hi, he⟩ | ⟨_, _, _, _, rfl, _⟩ := hm.ticket_cases hn
    · have old : InHand desk.cache (task :: tasks) earlier := by
        refine hi.imp_left fun ⟨first, hf, ht⟩ => ⟨first, ?_, ht⟩
        exact List.mem_singleton.1 hf ▸ List.mem_cons_self
      have hk := h.tickets earlier old (by rw [← ho, he])
      rw [← hk, he]
    · exact absurd List.mem_cons_self (h.steady.submit_notMem _ _ _)
  obtain ⟨first, hf, he⟩ | hw := ht
  · rcases List.mem_append.1 hf with hf | hf
    · exact new (.inl ⟨first, hf, he⟩)
    · exact h.tickets ticket (.inl ⟨first, List.mem_cons_of_mem _ hf, he⟩) ho
  · exact new (.inr hw)

/-- The task that tells an answer is one for a session that exists. -/
theorem told_next (h : Replying interpreter doc terms outcome key seen desk (task :: tasks))
    (hm : Move desk task after next) (hc : Course (⟨desk, task :: tasks, escaped⟩ :: past))
    {session generation : Nat} {groups : List Group}
    (hf : .call (.results session generation groups) ∈ next ++ tasks) :
    session < after.sessions.length := by
  rw [hm.length_sessions]
  rcases List.mem_append.1 hf with hf | hf
  · cases hm.yields hf with
    | results =>
      have ho := hc.owedFor (.inl ⟨_, List.mem_cons_self, rfl⟩)
      exact hc.ledger.asker_lt _ (List.mem_of_getElem? ho.1)
  · exact h.told session generation groups (List.mem_cons_of_mem _ hf)

/-- A pending query whose loads have all ended is answered. -/
theorem settle {ticket : Ticket}
    (h : Replying interpreter doc terms outcome key seen desk (.settle ticket :: tasks))
    (hc : Course (⟨desk, .settle ticket :: tasks, escaped⟩ :: past)) {session : Session}
    {endings : List (String × Ending)} {result : Result} {failures : List (String × String)}
    (hs : desk.sessions[ticket.session]? = some session)
    (he : desk.cache.endings? ticket.fetched = some endings)
    (hp : session.pending = some ticket.outcome)
    (ha : answerTicket session ticket endings = .ok (result, failures)) :
    promised seen (desk.setSession ticket.session session.settle)
        ([.call (.state ticket.session ticket.generation .settled),
          .deliver ticket failures result] ++ tasks) =
      if key = "" then [] else [.answer (terms.reply interpreter doc key)] := by
  have inHand : InHand desk.cache (.settle ticket :: tasks) ticket :=
    .inl ⟨_, List.mem_cons_self, rfl⟩
  have hw := hc.ledger.awaits_of_pending hs hp
  obtain ⟨ho, hn, -⟩ := h.pending _ hw
  have hk := h.tickets ticket inHand ho
  obtain ⟨same, hr, warnings, answers⟩ := h.steady.answerTicket_ok hs he
  cases hr.symm.trans ha
  obtain ⟨number, other, hq, hs', -, -, reflects⟩ :=
    hc.justifies_of_settle h.steady.mirrors hs he ha
  cases hq.symm.trans (hc.owedFor inHand).1
  cases hs'.symm.trans hs
  have same := h.steady.sessions _ _ hs
  rw [same.buckets, same.partition, same.mode, same.limit, h.steady.reads] at reflects
  rw [if_neg (hk ▸ (hc.typed inHand).2.1), ← hk, ← answers, ← reflects.groups_eq warnings]
  have quiet : promised seen (desk.setSession ticket.session session.settle) tasks = [] := hn
  obtain ⟨none, rest⟩ := List.append_eq_nil_iff.1 quiet
  rw [promised, none, List.flatMap_append, rest]
  rfl

theorem promised_eq (h : Replying interpreter doc terms outcome key seen desk (task :: tasks))
    (hm : Move desk task after next) (hs : ∀ ticket, task ≠ .settle ticket) :
    promised seen after (next ++ tasks) = promised seen desk (task :: tasks) := by
  refine promised_move h.steady hm h.seen_le (fun session generation groups e => ?_) hs
  exact h.told session generation groups (e ▸ List.mem_cons_self)

/-- A query stays pending as long as nothing is promised. -/
theorem pending_next (h : Replying interpreter doc terms outcome key seen desk (task :: tasks))
    (hm : Move desk task after next) (hc : Course (⟨desk, task :: tasks, escaped⟩ :: past))
    {number : Nat} (hw : after.awaits number = true) :
    number = outcome ∧ promised seen after (next ++ tasks) = [] ∧
      Pursues after.cache (next ++ tasks) outcome := by
  have notSubmit := h.steady.not_submit
  have askers : after.askers = desk.askers :=
    hm.askers_cases.resolve_right fun ⟨_, _, _, e, _⟩ => notSubmit _ _ _ e
  have hl : number < desk.askers.length := askers ▸ Desk.lt_length_of_awaits hw
  have before := hm.awaits_of_awaits hl hw
  obtain ⟨rfl, hn, hp⟩ := h.pending number before
  have granted : Agenda.breaksOff ⟨desk, task :: tasks, escaped⟩ number = false :=
    h.steady.not_breaksOff number
  refine ⟨rfl, ?_, (hm.pursues hc granted before hp).resolve_left (by simp [hw])⟩
  by_cases hs : ∃ ticket, task = .settle ticket
  · obtain ⟨ticket, rfl⟩ := hs
    cases hm with
    | settle hs _ _ hp =>
      -- the query that is answered is no longer pending
      obtain ⟨ho, -⟩ := h.pending _ (hc.ledger.awaits_of_pending hs hp)
      have hq := ((hc.ledger.session _ _ hs).pending _ hp).1
      rw [← ho, Desk.awaits_setSession _ hs, if_pos hq] at hw
      cases hw
    | settleFailed hs he _ _ ha => exact (h.steady.not_answerTicket_error hs he ha).elim
    | settleDropped => exact hn
  · have hs : ∀ ticket, task ≠ .settle ticket := fun ticket e => hs ⟨ticket, e⟩
    rw [h.promised_eq hm hs]
    exact hn

/-- Where the answer to a query stands is kept by every step. -/
theorem step {agenda after : Agenda}
    (h : Replying interpreter doc terms outcome key seen agenda.desk agenda.tasks)
    (hc : Course (agenda :: past)) (hs : agenda.step? = some after) :
    Replying interpreter doc terms outcome key seen after.desk after.tasks := by
  have steady := h.steady.step hc hs
  cases Agenda.step_of_step? hs with
  | @move desk after task tasks next escaped hm =>
    have later : desk.events.length ≤ after.events.length := by
      obtain ⟨_, -, he⟩ | ⟨_, he, -⟩ := hm.event_cases <;> simp [he]
    refine
      { steady
        seen_le := Nat.le_trans h.seen_le later
        opened := hm.length_sessions ▸ h.opened
        told := fun _ _ _ hf => h.told_next hm hc hf
        tickets := fun _ ht ho => h.tickets_next hm ht ho
        pending := fun number hw => h.pending_next hm hc hw
        replied := fun hw => ?_ }
    by_cases ht : ∃ ticket, task = .settle ticket
    · obtain ⟨ticket, rfl⟩ := ht
      cases hm with
      | settle hn he _ hp ha => exact h.settle hc hn he hp ha
      | settleFailed hn he _ _ ha => exact (h.steady.not_answerTicket_error hn he ha).elim
      | settleDropped => exact h.replied hw
    · have ht : ∀ ticket, task ≠ .settle ticket := fun ticket e => ht ⟨ticket, e⟩
      rw [h.promised_eq hm ht]
      refine h.replied fun number => ?_
      rw [← hm.awaits_eq h.steady.not_submit ht]
      exact hw number
  | raise => cases h.steady.smooth _ List.mem_cons_self

theorem run {agenda : Agenda}
    (h : Replying interpreter doc terms outcome key seen agenda.desk agenda.tasks)
    (hc : Course (agenda :: past)) :
    Replying interpreter doc terms outcome key seen agenda.run.desk [] := by
  obtain ⟨-, h⟩ := Agenda.run_induction (p := fun agenda =>
      (∃ past, Course (agenda :: past)) ∧
        Replying interpreter doc terms outcome key seen agenda.desk agenda.tasks)
    (by
      rintro agenda after hs ⟨⟨past, hc⟩, h⟩
      exact ⟨⟨_, hc.worked hs⟩, h.step hc hs⟩)
    agenda ⟨⟨past, hc⟩, h⟩
  rwa [Agenda.tasks_run] at h

/-- Loads that have their turns may answer the query. -/
theorem drain (h : Replying interpreter doc terms outcome key seen desk []) :
    Replying interpreter doc terms outcome key seen desk [.drain] where
  steady := h.steady.drain
  seen_le := h.seen_le
  opened := h.opened
  told := by simp
  tickets ticket ht := by
    refine h.tickets ticket (ht.resolve_left ?_ |> .inr)
    simp [Task.ticket?]
  pending number hw := by
    obtain ⟨hn, hp, ticket, ho, hl | ⟨hj, hl | hl⟩⟩ := h.pending number hw
    · cases hl
    · cases hl
    · exact ⟨hn, hp, ticket, ho, .inr ⟨hj, .inr hl⟩⟩
  replied := h.replied

/-- When all loads had their turns, the answer was shown. -/
theorem shown {agenda : Agenda} (hc : Course (agenda :: past)) (hr : agenda.tasks = [])
    (h : Replying interpreter doc terms outcome key seen agenda.desk [])
    (hh : agenda.desk.cache.held = []) :
    (∀ number, agenda.desk.awaits number = false) ∧
      (agenda.desk.events.drop seen).filterMap pieceOf? =
        if key = "" then [] else [.answer (terms.reply interpreter doc key)] := by
  have idle (number : Nat) : agenda.desk.awaits number = false := by
    rw [← Bool.not_eq_true]
    intro hw
    -- a load that the query waits for would be held
    obtain ⟨-, -, ticket, -, hl | ⟨-, hl | ⟨pair, -, place, load, -, hl, he⟩⟩⟩ :=
      h.pending number hw
    · cases hl
    · cases hl
    · have ha := hc.accounts place load hl he
      rw [hr, hh] at ha
      simp at ha
  refine ⟨idle, ?_⟩
  have replied := h.replied idle
  rwa [promised, List.flatMap_nil, List.append_nil] at replied

end Replying

/-! ## One query -/

/-- Whether a desk waits for the next line: it has a session, and no query is pending. -/
structure AtPrompt (interpreter : Interpreter) (doc : String → Option String) (terms : Session)
    (desk : Desk) : Prop where
  atEase : desk.AtEase interpreter doc terms
  session : 0 < desk.sessions.length
  idle : ∀ number, desk.awaits number = false

namespace AtPrompt

/-- A query that is typed when none is pending is going to be replied to. -/
theorem replying (h : AtPrompt interpreter doc terms desk) {session : Session}
    (hs : desk.sessions[0]? = some session) (query : String) :
    Replying interpreter doc terms desk.outcomes.length (normalize query) desk.events.length
      ((desk.setSession 0 (desk.submitted session (some query))).owe { session := 0 })
      (desk.submitTasks 0 session (some query)) := by
  obtain ⟨agenda, past, hc, hr, rfl⟩ := h.atEase.reached
  have hp : session.pending = none := by
    refine Option.eq_none_iff_forall_ne_some.2 fun outcome hp => ?_
    have := hc.ledger.awaits_of_pending hs hp
    rw [h.idle] at this
    cases this
  have typed : queryKey (some query) = normalize query := rfl
  have hm : Move agenda.desk (.submit 0 (some query) none) _ _ := .submit hs
  have ht := agenda.desk.submitTasks_of_idle hp 0 (some query)
  have nothing : promised agenda.desk.events.length
      ((agenda.desk.setSession 0 (agenda.desk.submitted session (some query))).owe { session := 0 })
      (agenda.desk.submitTasks 0 session (some query)) = [] := by
    have events : ((agenda.desk.setSession 0 (agenda.desk.submitted session (some query))).owe
        { session := 0 }).events = agenda.desk.events := rfl
    rw [promised, events, List.drop_length, ht]
    split <;> rfl
  refine
    { steady := h.atEase.steady.submit hs hp (some query)
      seen_le := Nat.le_refl _
      opened := hm.length_sessions ▸ h.session
      told := ?_
      tickets := fun ticket hi ho => ?_
      pending := fun number hw => ?_
      replied := fun hw => ?_ }
  · rw [ht]
    split <;> simp
  · obtain ⟨first, hf, he⟩ | hi := hi
    · rw [ht] at hf
      by_cases hk : queryKey (some query) = ""
      · rw [if_pos hk] at hf
        rcases List.mem_cons.1 hf with rfl | hf
        · cases he
        · rcases List.mem_cons.1 hf with rfl | hf
          · cases he
          · cases List.mem_singleton.1 hf
            cases he
      · rw [if_neg hk] at hf
        rcases List.mem_cons.1 hf with rfl | hf
        · cases he
        · rcases List.mem_cons.1 hf with rfl | hf
          · cases he
            rfl
          · cases List.mem_singleton.1 hf
            cases he
    · -- a query that waits was typed before
      have hl := (hc.owedFor (.inr hi)).lt_length
      rw [Desk.length_askers] at hl
      omega
  · rcases Nat.lt_or_ge number agenda.desk.askers.length with hlt | hge
    · have := hm.awaits_of_awaits hlt hw
      rw [h.idle] at this
      cases this
    · have he : number = agenda.desk.outcomes.length := by
        obtain ⟨_, ho, -⟩ := Desk.awaits_iff.1 hw
        obtain ⟨_, hk, -⟩ := Desk.asker?_eq_some.1 ho
        have hl := (List.getElem?_eq_some_iff.1 hk).1
        rw [hm.askers_of_submit hs, List.length_append, List.length_singleton] at hl
        rw [Desk.length_askers] at hl hge
        omega
      refine ⟨he, nothing, ?_⟩
      have pursued : Pursues _ (agenda.desk.submitTasks 0 session (some query) ++ []) number :=
        hm.pursues_of_submit hge hw
      rwa [List.append_nil, he] at pursued
  · rw [nothing]
    by_cases hk : normalize query = ""
    · rw [if_pos hk]
    · -- the query that was typed is pending
      have asker : ((agenda.desk.setSession 0 (agenda.desk.submitted session (some query))).owe
          { session := 0 }).askers[agenda.desk.outcomes.length]? = some 0 := by
        rw [hm.askers_of_submit hs, ← Desk.length_askers, List.getElem?_concat_length]
      have pends := hw agenda.desk.outcomes.length
      rw [Desk.awaits_of_asker asker (List.getElem?_set_self h.session), Desk.submitted,
        Session.pending_submit, typed, if_neg hk, beq_self_eq_true] at pends
      cases pends

end AtPrompt

/-- **What is shown for one query.** Its answer is shown once, as the documents have it, unless the
query is empty, and nothing else; then the next line may be typed. -/
theorem typeQuery_eq (h : AtPrompt interpreter doc terms desk) (query : String) :
    (typeQuery desk query).1 =
        (if normalize query = "" then []
        else [.answer (terms.reply interpreter doc (normalize query))]) ∧
      AtPrompt interpreter doc terms (typeQuery desk query).2 := by
  obtain ⟨session, hs⟩ : ∃ session, desk.sessions[0]? = some session :=
    ⟨_, List.getElem?_eq_getElem h.session⟩
  have begun := h.replying hs query
  obtain ⟨agenda, past, hc, hr, rfl⟩ := h.atEase.reached
  have hm : Move agenda.desk (.submit 0 (some query) none) _ _ := .submit hs
  have stepped : Agenda.step? ⟨agenda.desk, [.submit 0 (some query) none], none⟩ =
      some ⟨(agenda.desk.setSession 0 (agenda.desk.submitted session (some query))).owe
        { session := 0 }, agenda.desk.submitTasks 0 session (some query), none⟩ := by
    simp only [Agenda.step?, Desk.perform, Desk.submit, hs, List.append_nil]
  have typed : Course (_ :: agenda :: past) := hc.tookUp hr (.type 0 (some query) none)
  have begins := typed.worked stepped
  have rested := begun.run begins
  obtain ⟨_, rests, -⟩ := begins.run
  -- whatever the query still waits for has its turn now
  have drains := rests.tookUp (Agenda.tasks_run _) .drain
  have drained := Replying.run rested.drain drains
  have held := rests.held_drained (Agenda.tasks_run _)
  obtain ⟨_, ends, -⟩ := drains.run
  obtain ⟨idle, shown⟩ := drained.shown ends (Agenda.tasks_run _) held
  have last : (typeQuery agenda.desk query).2 = _ :=
    congrArg Desk.drained ((Desk.type_snd agenda.desk 0 (some query) none).trans
      (congrArg Agenda.desk (Agenda.run_of_some stepped)))
  have first : (typeQuery agenda.desk query).1 = ((typeQuery agenda.desk query).2.events.drop
      agenda.desk.events.length).filterMap pieceOf? := rfl
  rw [first, last]
  exact ⟨shown, ⟨⟨_, _, ends, Agenda.tasks_run _, rfl⟩, drained.steady⟩, drained.opened, idle⟩

end SymbolLookup.Console

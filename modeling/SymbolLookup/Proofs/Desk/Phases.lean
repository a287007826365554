import SymbolLookup.Proofs.Desk.Telling
/-!
# News of the states of queries

The host of a session is told of every change of the state of its queries, one after the other, and
as long as it only listens then, nothing comes between a change and the news of it.

## Main definitions

* `Progress`: how the state of a session goes on, with the news of all changes.
* `Faithful`: what all the news of a session have in common.
* `Desk.phases`: the news that the host of a session was told.
* `Session.Listens`: whether the host of a session only listens when it is told of a state.

## Main results

* `Progress.faithful`: the news of every progress are faithful.
* `Course.faithful_phases`: the news that a host was told, and those it is told next, are faithful.

## Design notes

News that were not told yet are on top of the tasks of a desk, so nothing else is done before them.
What hosts do when they are told of anything but a state, and what hosts of other sessions do at
any time, is not restricted: the faults that come of it take no news away, since none wait below
other tasks.
-/

namespace SymbolLookup

/-- The states of the queries of a generation among some news, in their order. -/
def statesOf (path : List (Nat × QueryState)) (generation : Nat) : List QueryState :=
  (path.filter (·.1 == generation)).map (·.2)

/-- How the state of a session goes on, with the news of all changes, the first first. -/
inductive Progress :
    (generation : Nat) → (state : QueryState) → List (Nat × QueryState) → Prop where
  /-- Nothing was typed yet. -/
  | fresh : Progress 0 .idle []
  /-- A query is typed, and none is pending. -/
  | next {generation : Nat} {state begun : QueryState} {path : List (Nat × QueryState)}
      (h : Progress generation state path) (hb : begun = .idle ∨ begun = .pending) :
      Progress (generation + 1) begun (path ++ [(generation + 1, begun)])
  /-- A query is typed and supersedes the one that is pending. -/
  | supersede {generation : Nat} {begun : QueryState} {path : List (Nat × QueryState)}
      (h : Progress generation .pending path) (hb : begun = .idle ∨ begun = .pending) :
      Progress (generation + 1) begun
        (path ++ [(generation, .cancelled), (generation + 1, begun)])
  /-- The pending query is settled. -/
  | settle {generation : Nat} {path : List (Nat × QueryState)}
      (h : Progress generation .pending path) :
      Progress generation .settled (path ++ [(generation, .settled)])

/-- What the news of a session have in common when its latest query is of this generation and in
this state. -/
structure Faithful (generation : Nat) (state : QueryState) (path : List (Nat × QueryState)) :
    Prop where
  /-- Generations never decrease. -/
  ordered : (path.map (·.1)).Pairwise (· ≤ ·)
  /-- A query goes one of four ways. -/
  states : ∀ number, 0 < number → number ≤ generation → statesOf path number ∈
    [[.idle], [.pending], [.pending, .settled], [.pending, .cancelled]]
  /-- There are no news of queries that were not typed. -/
  typed : ∀ news ∈ path, 0 < news.1 ∧ news.1 ≤ generation
  /-- The news that a query was superseded are followed at once by those of the next query. -/
  followed : ∀ place number, path[place]? = some (number, .cancelled) →
    path[place + 1]? = some (number + 1, .idle) ∨ path[place + 1]? = some (number + 1, .pending)
  /-- The last news are those of the latest query. -/
  last : 0 < generation → path.getLast? = some (generation, state)

/-! ## Progress -/

theorem statesOf_append (path news : List (Nat × QueryState)) (generation : Nat) :
    statesOf (path ++ news) generation = statesOf path generation ++ statesOf news generation := by
  simp [statesOf]

theorem statesOf_eq_nil {path : List (Nat × QueryState)} {generation : Nat}
    (h : ∀ news ∈ path, news.1 ≠ generation) : statesOf path generation = [] := by
  simpa [statesOf] using h

/-- The states of a query whose latest one is this. -/
def QueryState.way : QueryState → List QueryState
  | .idle => [.idle]
  | .pending => [.pending]
  | .settled => [.pending, .settled]
  | .cancelled => [.pending, .cancelled]

namespace Progress

variable {generation : Nat} {state : QueryState} {path : List (Nat × QueryState)}

theorem generation_pos (h : Progress generation .pending path) : 0 < generation := by
  cases h <;> exact Nat.succ_pos _

theorem typed (h : Progress generation state path) :
    ∀ news ∈ path, 0 < news.1 ∧ news.1 ≤ generation := by
  induction h with
  | fresh => simp
  | next h _ ih => grind
  | supersede h _ ih =>
    have := h.generation_pos
    grind
  | settle h ih =>
    have := h.generation_pos
    grind

theorem last (h : Progress generation state path) (hg : 0 < generation) :
    path.getLast? = some (generation, state) := by
  cases h with
  | fresh => omega
  | next | supersede | settle => simp

theorem statesOf_next (h : Progress generation state path) :
    statesOf path (generation + 1) = [] := by
  apply statesOf_eq_nil
  intro news hn
  have := h.typed news hn
  omega

/-- The latest query went its way so far. -/
theorem statesOf_latest (h : Progress generation state path) (hg : 0 < generation) :
    statesOf path generation = state.way := by
  induction h with
  | fresh => omega
  | next h hb =>
    rw [statesOf_append, h.statesOf_next]
    obtain rfl | rfl := hb <;> simp [statesOf, QueryState.way]
  | supersede h hb =>
    rw [statesOf_append, h.statesOf_next]
    obtain rfl | rfl := hb <;> simp [statesOf, QueryState.way]
  | settle h ih =>
    rw [statesOf_append, ih h.generation_pos]
    simp [statesOf, QueryState.way]

/-- Every query that was typed went one of the four ways. -/
theorem states (h : Progress generation state path) {number : Nat} (hp : 0 < number)
    (hl : number ≤ generation) : ∃ state, statesOf path number = QueryState.way state := by
  induction h with
  | fresh => omega
  | @next generation state begun path h hb ih =>
    obtain hl | rfl := Nat.le_succ_iff.1 hl
    · have ho : statesOf [(generation + 1, begun)] number = [] :=
        statesOf_eq_nil (by simp; omega)
      rw [statesOf_append, ho, List.append_nil]
      exact ih hl
    · exact ⟨begun, (h.next hb).statesOf_latest hp⟩
  | @supersede generation begun path h hb ih =>
    obtain hl | rfl := Nat.le_succ_iff.1 hl
    · obtain hl | rfl := Nat.lt_or_eq_of_le hl
      · have ho : statesOf [(generation, .cancelled), (generation + 1, begun)] number = [] :=
          statesOf_eq_nil (by simp; omega)
        rw [statesOf_append, ho, List.append_nil]
        exact ih (Nat.le_of_lt hl)
      · -- the way of the query that was pending ends here
        refine ⟨.cancelled, ?_⟩
        rw [statesOf_append, h.statesOf_latest hp]
        simp [statesOf, QueryState.way]
    · exact ⟨begun, (h.supersede hb).statesOf_latest hp⟩
  | @settle generation path h ih =>
    obtain hl | rfl := Nat.lt_or_eq_of_le hl
    · have ho : statesOf [(generation, .settled)] number = [] := statesOf_eq_nil (by simp; omega)
      rw [statesOf_append, ho, List.append_nil]
      exact ih (Nat.le_of_lt hl)
    · exact ⟨.settled, h.settle.statesOf_latest hp⟩

theorem ordered (h : Progress generation state path) : (path.map (·.1)).Pairwise (· ≤ ·) := by
  have later {generation : Nat} {state : QueryState} {path news : List (Nat × QueryState)}
      (h : Progress generation state path) (ih : (path.map (·.1)).Pairwise (· ≤ ·))
      (hn : (news.map (·.1)).Pairwise (· ≤ ·)) (hg : ∀ new ∈ news, generation ≤ new.1) :
      ((path ++ news).map (·.1)).Pairwise (· ≤ ·) := by
    rw [List.map_append, List.pairwise_append]
    refine ⟨ih, hn, ?_⟩
    intro a ha b hb
    obtain ⟨old, ho, rfl⟩ := List.mem_map.1 ha
    obtain ⟨new, hm, rfl⟩ := List.mem_map.1 hb
    exact Nat.le_trans (h.typed old ho).2 (hg new hm)
  induction h with
  | fresh => exact .nil
  | next h _ ih | supersede h _ ih | settle h ih => exact later h ih (by simp) (by simp)

theorem followed (h : Progress generation state path) {place number : Nat}
    (hp : path[place]? = some (number, .cancelled)) :
    path[place + 1]? = some (number + 1, .idle) ∨
      path[place + 1]? = some (number + 1, .pending) := by
  -- both news of a query that supersedes come in one step, so none of them is the last of a path
  have early {path news : List (Nat × QueryState)} {new : Nat × QueryState}
      (h : path[place + 1]? = some new) : (path ++ news)[place + 1]? = some new := by
    rw [List.getElem?_append_left (List.getElem?_eq_some_iff.1 h).1, h]
  have cases {path news : List (Nat × QueryState)} {new : Nat × QueryState}
      (h : (path ++ news)[place]? = some new) :
      path[place]? = some new ∨ ∃ later, place = path.length + later ∧ news[later]? = some new := by
    rw [List.getElem?_append] at h
    split at h
    · exact .inl h
    · exact .inr ⟨place - path.length, by omega, h⟩
  induction h with
  | fresh => cases hp
  | next h hb ih =>
    obtain hp | ⟨later, -, hn⟩ := cases hp
    · exact (ih hp).imp early early
    · obtain rfl | rfl := hb <;> simp [List.getElem?_singleton] at hn
  | @supersede generation begun path h hb ih =>
    obtain hp | ⟨later, rfl, hn⟩ := cases hp
    · exact (ih hp).imp early early
    · cases later with
      | zero =>
        cases hn
        rw [Nat.add_zero, List.getElem?_append_right (Nat.le_succ _)]
        obtain rfl | rfl := hb <;> simp
      | succ later => obtain rfl | rfl := hb <;> simp [List.getElem?_singleton] at hn
  | settle h ih =>
    obtain hp | ⟨later, -, hn⟩ := cases hp
    · exact (ih hp).imp early early
    · simp [List.getElem?_singleton] at hn

theorem faithful (h : Progress generation state path) : Faithful generation state path where
  ordered := h.ordered
  states number hp hl := by
    obtain ⟨state, hs⟩ := h.states hp hl
    rw [hs]
    cases state <;> decide
  typed := h.typed
  followed _ _ := h.followed
  last := h.last

end Progress

/-! ## The news of a desk -/

/-- The news that a call tells the host of a session. -/
def Call.news? (number : Nat) : Call → Option (Nat × QueryState)
  | .state other generation reached => if other = number then some (generation, reached) else none
  | _ => none

/-- The news that the host of a session is told when this happens. -/
def Event.news? (number : Nat) : Event → Option (Nat × QueryState)
  | .called told => told.news? number
  | _ => none

/-- The news that a task tells the host of a session. -/
def Task.news? (number : Nat) : Task → Option (Nat × QueryState)
  | .call told => told.news? number
  | _ => none

/-- The news that the host of a session was told, the first first. -/
def Desk.phases (desk : Desk) (number : Nat) : List (Nat × QueryState) :=
  desk.events.filterMap (Event.news? number)

/-- The task that tells the host of a session some news. -/
def announcement (number : Nat) (news : Nat × QueryState) : Task :=
  .call (.state number news.1 news.2)

/-- Whether the host of a session wants to be told of states and only listens then. -/
def Session.Listens (session : Session) : Prop :=
  session.quiet = false ∧
    ∀ rule ∈ session.rules, rule.on = .state →
      rule.submits = none ∧ rule.next = .stop ∧ rule.raises = none

instance (session : Session) : Decidable session.Listens :=
  inferInstanceAs (Decidable (_ ∧ _))

theorem Session.Listens.hears {session : Session} (h : session.Listens) (occasion : Occasion) :
    session.hears occasion = true := by
  rw [Session.hears, h.1]
  rfl

/-- Nothing comes of telling news to a host that only listens. -/
theorem Session.Listens.reactions {session : Session} (h : session.Listens) (number : Nat) :
    reactions number .state session.rules = [] := by
  rw [SymbolLookup.reactions, List.flatMap_eq_nil_iff]
  intro rule hr
  obtain ⟨hm, ha⟩ := List.mem_filter.1 hr
  have ho : rule.on = .state := by
    simp only [Rule.applies, Bool.and_eq_true, beq_iff_eq] at ha
    exact ha.1
  obtain ⟨hs, hn, hf⟩ := h.2 rule hm ho
  simp [Rule.tasks, Script.tasks, hs, hn, hf]

/-- What a move tells the host of a session is what the task was about to tell. -/
theorem Move.phases_of_news {desk after : Desk} {task : Task} {next : List Task}
    (h : Move desk task after next) {number : Nat} (hn : task.news? number = none) :
    after.phases number = desk.phases number := by
  unfold Desk.phases
  obtain ⟨call, rfl, he⟩ | ⟨done, he, hd⟩ := h.event_cases
  · have hc : (Event.called call).news? number = none := hn
    simp [he, hc]
  · have hz : done.filterMap (Event.news? number) = [] := by
      rw [List.filterMap_eq_nil_iff]
      intro event hm
      cases event with
      | called call => exact absurd hm (hd call)
      | _ => rfl
    rw [he, List.filterMap_append, hz, List.append_nil]

/-- News come of a query that is typed, and of one that is settled. -/
theorem Move.news_cases {desk after : Desk} {task first : Task} {next : List Task}
    (h : Move desk task after next) (hf : first ∈ next) {number : Nat}
    (hn : first.news? number ≠ none) :
    (∃ session query followUp, task = .submit number query followUp ∧
        desk.sessions[number]? = some session) ∨
      ∃ ticket session, task = .settle ticket ∧ ticket.session = number ∧
        desk.sessions[number]? = some session := by
  cases h.yields hf with
  | @change place query followUp generation state hs =>
    obtain rfl : place = number := by
      simp only [Task.news?, Call.news?] at hn
      split at hn
      · assumption
      · exact absurd rfl hn
    cases h with
    | submit hs => exact .inl ⟨_, _, _, rfl, hs⟩
    | submitNowhere => cases hf
  | @settled ticket =>
    obtain rfl : ticket.session = number := by
      simp only [Task.news?, Call.news?] at hn
      split at hn
      · assumption
      · exact absurd rfl hn
    cases h with
    | settle hs | settleFailed hs => exact .inr ⟨_, _, rfl, rfl, hs⟩
    | settleDropped => cases hf
  | _ => exact absurd rfl hn

/-- What is told to a host that only listens is told, and nothing comes of it. -/
theorem Move.phases_of_announcement {desk after : Desk} {next : List Task} {number : Nat}
    {news : Nat × QueryState} (h : Move desk (announcement number news) after next)
    {session : Session} (hs : desk.sessions[number]? = some session) (hl : session.Listens) :
    after.phases number = desk.phases number ++ [news] ∧ next = [] := by
  cases h with
  | call _ ho =>
    obtain rfl := Option.some.inj (hs.symm.trans ho)
    exact ⟨by simp [Desk.phases, Event.news?, Call.news?], hl.reactions number⟩
  | callUnheard _ hh =>
    have hu := hh session hs
    rw [hl.hears] at hu
    cases hu

/-- Whether some news are those that the host of a session is told before anything else is done, and
go with how the state of the session went on. -/
structure Announces (desk : Desk) (tasks : List Task) (number : Nat)
    (news : List (Nat × QueryState)) : Prop where
  first : ∃ rest, tasks = news.map (announcement number) ++ rest ∧
    ∀ task ∈ rest, task.news? number = none
  progress : ∀ session ∈ desk.sessions[number]?,
    Progress session.generation session.state (desk.phases number ++ news)
  /-- Nothing is told to hosts that there are not. -/
  nobody : desk.sessions[number]? = none → desk.phases number = [] ∧ news = []

namespace Announces

variable {desk after : Desk} {task : Task} {tasks next : List Task} {number : Nat}
  {news : List (Nat × QueryState)}

theorem of_nil (ht : ∀ task ∈ tasks, task.news? number = none)
    (hp : ∀ session ∈ desk.sessions[number]?,
      Progress session.generation session.state (desk.phases number))
    (hn : desk.sessions[number]? = none → desk.phases number = []) :
    Announces desk tasks number [] where
  first := ⟨tasks, rfl, ht⟩
  progress session hs := by rw [List.append_nil]; exact hp session hs
  nobody h := ⟨hn h, rfl⟩

/-- Only news that are told next are among the tasks. -/
theorem news?_eq_none (h : Announces desk tasks number []) :
    ∀ task ∈ tasks, task.news? number = none := by
  obtain ⟨rest, rfl, hr⟩ := h.first
  exact hr

theorem tell {new : Nat × QueryState} (h : Announces desk (task :: tasks) number (new :: news))
    (hl : ∀ session ∈ desk.sessions[number]?, session.Listens) (hm : Move desk task after next) :
    Announces after (next ++ tasks) number news := by
  obtain ⟨rest, ht, hr⟩ := h.first
  obtain ⟨rfl, rfl⟩ := List.cons.inj ht
  -- somebody hears the news, as nothing is told to hosts that there are not
  obtain ⟨session, hs⟩ : ∃ session, desk.sessions[number]? = some session :=
    Option.ne_none_iff_exists'.1 fun hn => by cases (h.nobody hn).2
  obtain ⟨hp, rfl⟩ := hm.phases_of_announcement hs (hl session hs)
  refine ⟨⟨rest, rfl, hr⟩, ?_, ?_⟩
  · intro other ho
    obtain ⟨before, hb, turn⟩ := hm.turn ho
    have hg := h.progress before hb
    rw [hp, List.append_assoc]
    cases turn with
    | same | called => exact hg
  · intro hn
    obtain ⟨other, ho, -⟩ := hm.sameTerms hs
    rw [hn] at ho
    cases ho

/-- A move that changes no state tells no news. -/
theorem pass (h : Announces desk (task :: tasks) number []) (hm : Move desk task after next)
    (hn : ∀ first ∈ next, first.news? number = none)
    (hs : ∀ session ∈ after.sessions[number]?, ∃ before ∈ desk.sessions[number]?,
      before.generation = session.generation ∧ before.state = session.state) :
    Announces after (next ++ tasks) number [] := by
  have hp := hm.phases_of_news (h.news?_eq_none task List.mem_cons_self)
  apply of_nil
  · intro first hf
    rcases List.mem_append.1 hf with hf | hf
    · exact hn first hf
    · exact h.news?_eq_none first (List.mem_cons_of_mem _ hf)
  · intro session ho
    obtain ⟨before, hb, hg, hw⟩ := hs session ho
    have := h.progress before hb
    rwa [hp, ← hg, ← hw, ← List.append_nil (desk.phases number)]
  · intro ho
    rw [hp]
    apply (h.nobody ?_).1
    rw [List.getElem?_eq_none_iff] at ho ⊢
    rwa [hm.length_sessions] at ho

/-- News of a session whose state changes are told next. -/
theorem change (h : Announces desk (task :: tasks) number []) (hm : Move desk task after next)
    {session : Session} {rest : List Task}
    (hs : after.sessions[number]? = some session)
    (hn : next = news.map (announcement number) ++ rest)
    (hr : ∀ first ∈ rest, first.news? number = none)
    (hp : Progress session.generation session.state (desk.phases number ++ news)) :
    Announces after (next ++ tasks) number news where
  first := by
    refine ⟨rest ++ tasks, by rw [hn, List.append_assoc], ?_⟩
    intro first hf
    rcases List.mem_append.1 hf with hf | hf
    · exact hr first hf
    · exact h.news?_eq_none first (List.mem_cons_of_mem _ hf)
  progress other ho := by
    obtain rfl := Option.some.inj (hs.symm.trans ho)
    rwa [hm.phases_of_news (h.news?_eq_none task List.mem_cons_self)]
  nobody ho := by
    rw [hs] at ho
    cases ho

end Announces

/-! ## News of queries that are typed -/

/-- The news that come of a query that is typed: the one that it supersedes is cancelled, and it
begins itself. -/
def Desk.newsOf (desk : Desk) (session : Session) (query : Option String) :
    List (Nat × QueryState) :=
  ((desk.superseded? session).toList.map fun _ => (session.generation, .cancelled)) ++
    [(session.generation + 1, (desk.submitted session query).state)]

theorem Desk.submitTasks_eq (desk : Desk) (number : Nat) (session : Session)
    (query : Option String) : ∃ rest,
      desk.submitTasks number session query =
        (desk.newsOf session query).map (announcement number) ++ rest ∧
      ∀ task ∈ rest, task.news? number = none := by
  have hg : (desk.submitted session query).generation = session.generation + 1 := rfl
  refine ⟨(desk.superseded? session).toList.map (.resolve · .superseded) ++
    [if queryKey query = "" then .resolve desk.outcomes.length (.result
        { query, key := queryKey query, groups := [], generation := session.generation + 1 })
      else .look (desk.ticketFor number session query), .handOut desk.outcomes.length], ?_, ?_⟩
  · simp [submitTasks, newsOf, announcement, ticketFor, hg]
  · intro task ht
    simp only [List.mem_append, List.mem_map, List.mem_cons, List.not_mem_nil, or_false] at ht
    obtain ⟨_, -, rfl⟩ | ht | rfl := ht
    · rfl
    · rw [ht]
      by_cases hk : queryKey query = ""
      · rw [if_pos hk]
        rfl
      · rw [if_neg hk]
        rfl
    · rfl

/-- A session goes on with the news of a query that is typed into it. -/
theorem Progress.typed_next {desk : Desk} {session : Session} {askers : List Nat} {number : Nat}
    {path : List (Nat × QueryState)} (h : Progress session.generation session.state path)
    (ha : session.Agrees askers number) (query : Option String) :
    Progress (session.generation + 1) (desk.submitted session query).state
      (path ++ desk.newsOf session query) := by
  have hb : (desk.submitted session query).state = .idle ∨
      (desk.submitted session query).state = .pending := by
    simp only [Desk.submitted, Session.submit, Session.stateFor]
    split
    · exact .inl rfl
    · exact .inr rfl
  cases hw : desk.superseded? session with
  | none => simpa [Desk.newsOf, hw] using h.next hb
  | some pending =>
    have hp : session.state = .pending := by
      rw [ha.state, (Option.filter_eq_some_iff.1 hw).1]
      simp
    rw [hp] at h
    simpa [Desk.newsOf, hw] using h.supersede hb

/-! ## Courses -/

namespace Announces

variable {desk after : Desk} {task : Task} {tasks next : List Task} {number : Nat}
  {news : List (Nat × QueryState)}

/-- A query that is settled is told next. -/
theorem settled {ticket : Ticket} {session : Session} {last : Task}
    (h : Announces desk (.settle ticket :: tasks) ticket.session []) (hd : desk.Ledger)
    (hm : Move desk (.settle ticket) (desk.setSession ticket.session session.settle)
      [announcement ticket.session (ticket.generation, .settled), last])
    (hs : desk.sessions[ticket.session]? = some session)
    (hg : session.generation = ticket.generation) (hp : session.pending = some ticket.outcome)
    (hl : last.news? ticket.session = none) :
    Announces (desk.setSession ticket.session session.settle)
      ([announcement ticket.session (ticket.generation, .settled), last] ++ tasks)
      ticket.session [(ticket.generation, .settled)] := by
  have hb := h.progress session hs
  -- only a query that is pending can be settled
  have hw : session.state = .pending := by
    rw [(hd.session _ _ hs).state, hp]
    simp
  rw [List.append_nil, hw, hg] at hb
  have hn : [announcement ticket.session (ticket.generation, .settled), last] =
      [(ticket.generation, .settled)].map (announcement ticket.session) ++ [last] := rfl
  refine h.change hm (List.getElem?_set_self (List.getElem?_eq_some_iff.1 hs).1) hn
    (by simpa using hl) ?_
  rw [Session.settle, hg]
  exact hb.settle

/-- A move that neither takes a query that is typed into the session nor settles one tells no
news. -/
theorem elsewhere (h : Announces desk (task :: tasks) number []) (hm : Move desk task after next)
    (hn : ∀ query followUp, task ≠ .submit number query followUp)
    (hs : ∀ ticket, task = .settle ticket → ticket.session ≠ number) :
    Announces after (next ++ tasks) number [] := by
  refine h.pass hm ?_ ?_
  · intro first hf
    cases ho : first.news? number with
    | none => rfl
    | some new =>
      have hne : first.news? number ≠ none := by simp [ho]
      obtain ⟨_, query, followUp, rfl, -⟩ | ⟨ticket, _, rfl, ht, -⟩ := hm.news_cases hf hne
      · exact absurd rfl (hn query followUp)
      · exact absurd ht (hs ticket rfl)
  · intro session ho
    obtain ⟨before, hb, turn⟩ := hm.turn ho
    refine ⟨before, hb, ?_⟩
    cases turn with
    | same | called => exact ⟨rfl, rfl⟩
    | settled ht => exact absurd ht (hs _ rfl)
    | submitted => exact absurd rfl (hn _ _)

/-- A move tells what comes of it next, when nothing else was to be told. -/
theorem move (h : Announces desk (task :: tasks) number []) (hd : desk.Ledger)
    (hm : Move desk task after next) : ∃ news, Announces after (next ++ tasks) number news := by
  have dropped (hn : next = []) (ha : after = desk) :
      ∃ news, Announces after (next ++ tasks) number news := by
    subst hn ha
    exact ⟨[], h.pass hm (by simp) fun session hs => ⟨session, hs, rfl, rfl⟩⟩
  have taken := hm
  cases taken with
  | @submit place query followUp session hs =>
    by_cases hp : place = number
    · subst hp
      obtain ⟨rest, he, hr⟩ := desk.submitTasks_eq place session query
      have hb := h.progress session hs
      rw [List.append_nil] at hb
      exact ⟨_, h.change hm (List.getElem?_set_self (List.getElem?_eq_some_iff.1 hs).1) he hr
        (hb.typed_next (hd.session _ _ hs) query)⟩
    · exact ⟨[], h.elsewhere hm (fun _ _ he => hp (by cases he; rfl)) nofun⟩
  | @settle ticket _ _ _ _ hs _ hg hp | @settleFailed ticket _ _ _ hs _ hg hp =>
    by_cases ht : ticket.session = number
    · subst ht
      exact ⟨_, h.settled hd hm hs hg hp rfl⟩
    · refine ⟨[], h.elsewhere hm nofun ?_⟩
      rintro _ ⟨⟩
      exact ht
  | submitNowhere | settleDropped => exact dropped rfl rfl
  | _ => exact ⟨[], h.elsewhere hm nofun nofun⟩

/-- What is left when a fault took its way tells nothing, since no news were to be told. -/
theorem raise {fault : Fault} (h : Announces desk (.raise fault :: tasks) number news) :
    Announces desk (unwind fault tasks).1 number [] := by
  obtain rfl : news = [] := by
    obtain ⟨rest, ht, -⟩ := h.first
    cases news with
    | nil => rfl
    | cons new news => cases ht
  refine ⟨⟨_, rfl, ?_⟩, h.progress, h.nobody⟩
  intro task ht
  obtain hm | ⟨_, _, rfl, -⟩ := mem_unwind ht
  · exact h.news?_eq_none task (List.mem_cons_of_mem _ hm)
  · rfl

/-- A deed begins with no news. -/
theorem begins {agenda : Agenda} (h : Announces desk [] number news)
    (hb : Begins desk agenda) : Announces agenda.desk agenda.tasks number [] := by
  obtain rfl : news = [] := by
    obtain ⟨rest, ht, -⟩ := h.first
    simpa using (List.append_eq_nil_iff.1 ht.symm).1
  have hp : agenda.desk.phases number = desk.phases number := by
    rw [Desk.phases, Desk.phases, hb.frame.events]
  apply of_nil
  · intro task ht
    obtain ⟨_, _, _, rfl⟩ | ⟨_, rfl⟩ | rfl | ⟨_, rfl⟩ | ⟨_, rfl⟩ := hb.mem_tasks ht <;> rfl
  · intro session hs
    rw [hp]
    obtain hs | ⟨rfl, opening, hf⟩ := hb.session_cases hs
    · simpa using h.progress session hs
    · -- a session that was just opened is told nothing before
      obtain ⟨hg, hw, -⟩ := Desk.eq_of_sessionFor hf
      rw [hg, hw, (h.nobody (by simp)).1]
      exact .fresh
  · intro hs
    rw [hp]
    apply (h.nobody ?_).1
    rw [List.getElem?_eq_none_iff] at hs ⊢
    exact Nat.le_trans hb.length_sessions_le hs

end Announces

/-- Throughout every course a host that only listens is told the news of its session before anything
else is done, and they go with how the state of the session went on. -/
theorem Course.announces {agenda : Agenda} {past : List Agenda} (h : Course (agenda :: past))
    {number : Nat} (hl : ∀ earlier ∈ past, ∀ session ∈ earlier.desk.sessions[number]?,
      session.Listens) : ∃ news, Announces agenda.desk agenda.tasks number news := by
  induction h using Course.induct with
  | opened => exact ⟨[], .of_nil (by simp) (by simp) fun _ => rfl⟩
  | worked hc hs ih =>
    obtain ⟨news, hn⟩ := ih fun earlier he => hl earlier (List.mem_cons_of_mem _ he)
    cases hs with
    | move hm =>
      -- news that were not told yet are the next task
      cases news with
      | nil => exact hn.move hc.ledger hm
      | cons new news => exact ⟨news, hn.tell (hl _ List.mem_cons_self) hm⟩
    | raise => exact ⟨[], hn.raise⟩
  | began _ hr hb ih =>
    obtain ⟨news, hn⟩ := ih fun earlier he => hl earlier (List.mem_cons_of_mem _ he)
    rw [hr] at hn
    exact ⟨[], hn.begins hb⟩

/-- **States are told faithfully.** When the host of a session only listens when it is told of
states, the news that it was told, with those that it is told before anything else is done, are
faithful throughout every course, and when nothing is left to do it was told all of them. -/
theorem Course.faithful_phases {agenda : Agenda} {past : List Agenda}
    (h : Course (agenda :: past)) {number : Nat} {session : Session}
    (hs : agenda.desk.sessions[number]? = some session)
    (hl : ∀ earlier ∈ past, ∀ session ∈ earlier.desk.sessions[number]?, session.Listens) :
    (∃ news, news.map (announcement number) <+: agenda.tasks ∧
        Faithful session.generation session.state (agenda.desk.phases number ++ news)) ∧
      (agenda.tasks = [] →
        Faithful session.generation session.state (agenda.desk.phases number)) := by
  obtain ⟨news, hn⟩ := h.announces hl
  have hf := (hn.progress session hs).faithful
  obtain ⟨rest, ht, -⟩ := hn.first
  refine ⟨⟨news, ⟨rest, ht.symm⟩, hf⟩, ?_⟩
  intro hr
  rw [hr] at ht
  obtain rfl : news = [] := by simpa using (List.append_eq_nil_iff.1 ht.symm).1
  simpa using hf

/-- One query supersedes another, and the host answers its results by clearing the box. Then the
host of another session types into it, and clears it too when it is told the answer. -/
theorem Course.faithful_phases_of_five :
    let course := sampleCourse [.openSession { rules := [{ on := .results, submits := some "" }] },
      .openSession { rules := [{
        on := .results
        next := .typeThen (some 0) (some "alp") false (some "") .stop .stop .stop }] },
      .type 0 (some "a") none, .type 0 (some "al") none, .type 1 (some "a") none, .drain]
    course.1.tasks = [] ∧
      course.1.desk.phases 0 =
        [(1, .pending), (1, .cancelled), (2, .pending), (2, .settled), (3, .idle), (4, .pending),
          (4, .settled), (5, .idle)] ∧
      Faithful 5 .idle (course.1.desk.phases 0) := by
  intro course
  have h : Course (course.1 :: course.2) := Course.sample _
  have rests : course.1.tasks = [] := by decide +kernel
  have typed : course.1.desk.sessions[0]?.map (fun session => (session.generation, session.state)) =
      some (5, .idle) := by decide +kernel
  have listens : ∀ earlier ∈ course.2, ∀ session ∈ earlier.desk.sessions[0]?,
      session.Listens := by decide +kernel
  obtain ⟨session, hs, he⟩ := Option.map_eq_some_iff.1 typed
  obtain ⟨hg, hw⟩ := Prod.mk.inj he
  have faithful := (h.faithful_phases hs listens).2 rests
  rw [hg, hw] at faithful
  exact ⟨rests, by decide +kernel, faithful⟩

end SymbolLookup

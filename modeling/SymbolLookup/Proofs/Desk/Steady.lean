import Mathlib.Data.List.Basic
import SymbolLookup.Proofs.Desk.Draining
import SymbolLookup.Proofs.Desk.Reference
/-!
# Desks at which nothing goes wrong

If the hosts of a desk only listen, and its loads do not fail, all queries are answered by the
documents of all their buckets, without warnings.

## Main definitions

* `Supply.Provides`: whether some buckets can always be loaded.
* `Session.reply`: the answer that the documents give to a query.
* `Steady`: whether nothing goes wrong at a desk with some tasks.
* `Desk.AtEase`: whether a desk at rest is one at which nothing goes wrong.

## Main results

* `Steady.step`: every step keeps a desk steady.
* `Desk.AtEase.search`: a query is answered at once by the documents.

## Design notes

All sessions of a steady desk were opened in the same way, which is told by one session. That hosts
only listen is told by the effort of an agenda: they mean to do nothing, and no step makes that
more.
-/

namespace SymbolLookup

/-! ## Loads that do not fail -/

/-- Whether some buckets can always be loaded. -/
structure Supply.Provides (supply : Supply) (interpreter : Interpreter)
    (doc : String → Option String) (buckets : List String) : Prop where
  /-- Fetches that are answered are answered with the documents of their buckets. -/
  answers : supply.Answers doc
  /-- Whatever was fetched before, a fetch of one of the buckets is answered, and a shard is made of
  the answer. -/
  loads : ∀ fetched, ∀ bucket ∈ buckets, ∃ document shard,
    ((supply.after fetched).fetch bucket).1 = .ok document ∧
      shardOf interpreter bucket document = .ok shard

namespace Supply.Provides

variable {supply : Supply} {interpreter : Interpreter} {doc : String → Option String}
  {buckets : List String}

theorem fetch (h : supply.Provides interpreter doc buckets) (bucket : String) :
    (supply.fetch bucket).2.Provides interpreter doc buckets where
  answers := h.answers.fetch bucket
  loads fetched := h.loads (bucket :: fetched)

theorem fetch_ok {desk : Desk} (h : desk.supply.Provides desk.interpreter doc buckets)
    {bucket : String} (hb : bucket ∈ buckets) : ∃ shard, (desk.fetch bucket).1 = .ok shard := by
  obtain ⟨document, shard, hf, hs⟩ := h.loads [] bucket hb
  refine ⟨shard, ?_⟩
  have he : (desk.fetch bucket).1 =
      (desk.supply.fetch bucket).1.bind (shardOf desk.interpreter bucket) := rfl
  have hf : (desk.supply.fetch bucket).1 = .ok document := hf
  rw [he, hf]
  exact hs

/-- A source without outages always answers as it does at first. -/
theorem of_source {source : Source} {files : Files}
    (h : ∀ bucket ∈ buckets, ∃ document shard,
      source.fetch files bucket = .ok document ∧
        shardOf interpreter bucket document = .ok shard) :
    Supply.Provides { source, files } interpreter
      (fun bucket => (source.fetch files bucket).toOption.join) buckets := by
  have same (fetched : List String) :
      Supply.after { source, files } fetched = { source, files } := by
    induction fetched with
    | nil => rfl
    | cons _ _ ih => exact ih
  refine ⟨fun fetched bucket answer ha => ?_, fun fetched bucket hb => ?_⟩
  · rw [same] at ha
    have ha : source.fetch files bucket = .ok answer := ha
    rw [ha]
    rfl
  · rw [same]
    exact h bucket hb

end Supply.Provides

/-! ## Answers without warnings -/

/-- The answer that the documents give to a query with this key in a session like this one. -/
def Session.reply (terms : Session) (interpreter : Interpreter) (doc : String → Option String)
    (key : String) : List Group :=
  let asked := candidates key terms.buckets terms.partition terms.mode
  let shards := asked.filterMap fun bucket => (shardOf interpreter bucket (doc bucket)).toOption
  rank (hits shards key terms.mode) key (readLimit terms.limit).toOption.join

/-- A result without warnings is what all documents give. -/
theorem Reflects.groups_eq {interpreter : Interpreter} {doc : String → Option String}
    {terms : Session} {result : Result}
    (h : Reflects interpreter doc terms.buckets terms.partition terms.mode terms.limit result)
    (hw : result.warnings = []) : result.groups = terms.reply interpreter doc result.key := by
  obtain ⟨brought, count, hl, makes, hn, hg⟩ := h
  rw [hw, eq_comm, List.filterMap_eq_nil_iff] at hn
  -- each candidate brought its shard, which is the one that its document makes
  have all : (candidates result.key terms.buckets terms.partition terms.mode).filterMap
      (fun bucket => (brought bucket).toOption) =
        (candidates result.key terms.buckets terms.partition terms.mode).filterMap
          fun bucket => (shardOf interpreter bucket (doc bucket)).toOption := by
    apply List.filterMap_congr
    intro bucket hb
    have told := hn bucket hb
    cases he : brought bucket with
    | error => simp [he, warningOf] at told
    | ok shard =>
      have made : shardOf interpreter bucket (doc bucket) = .ok shard := makes bucket hb shard he
      rw [made]
      rfl
  rw [hg, all, Session.reply, hl]
  rfl

theorem failures_of_collect {endings : List (String × Ending)} {all : Collected}
    (hc : collect endings = .ok all) (hs : ∀ pair ∈ endings, ∃ shard, pair.2 = .shard shard) :
    all.failures = [] := by
  induction endings generalizing all with
  | nil =>
    cases hc
    rfl
  | cons pair endings ih =>
    obtain ⟨⟨shard, he⟩, ho⟩ := List.forall_mem_cons.1 hs
    obtain ⟨bucket, ending⟩ := pair
    obtain rfl : ending = .shard shard := he
    obtain ⟨rest, hr, rfl⟩ := exists_of_map_eq_ok hc
    have none : rest.failures = [] := ih hr ho
    exact none

theorem candidates_subset (key : String) (buckets : List String) (partition : Partition)
    (mode : Mode) : candidates key buckets partition mode ⊆ buckets := by
  unfold candidates
  split
  · simp
  · split
    · simp
    · simp only
      split <;> simp_all

/-- A load is one of those there were before some requests, or its bucket was asked for. -/
theorem Cache.bucket_requestAll {cache after : Cache} {buckets : List String}
    {fetched : List (String × Fetched)} (h : cache.requestAll buckets = .ok (fetched, after))
    {number : Nat} {load : Load} (hl : after.loads[number]? = some load) :
    cache.loads[number]? = some load ∨ load.bucket ∈ buckets := by
  induction buckets generalizing cache fetched with
  | nil =>
    cases h
    exact .inl hl
  | cons bucket buckets ih =>
    unfold requestAll at h
    split at h
    · cases h
    · rename_i first middle hr
      split at h
      · cases h
      · rename_i others last ho
        cases h
        obtain hl | hb := ih ho
        · obtain ⟨rfl, -⟩ | ⟨-, -, -, rfl⟩ := request_cases hr
          · exact .inl hl
          · rw [begun, List.getElem?_append] at hl
            split at hl
            · exact .inl hl
            · rw [List.getElem?_singleton] at hl
              split at hl <;> cases hl
              exact .inr List.mem_cons_self
        · exact .inr (List.mem_cons_of_mem _ hb)

/-! ## Steady desks -/

/-- Whether a task is one of those that are met where nothing goes wrong. -/
def Task.isSmooth : Task → Bool
  | .raise _ | .finish _ (.failed _) | .finish _ (.exit _) | .finish _ .cancelled
  | .resolve _ .superseded | .resolve _ (.fault _) | .resolve _ .cancelled
  | .deliver _ (_ :: _) _ | .call (.warning _ _ _ _) => false
  | _ => true

/-- Whether nothing goes wrong at a desk with some tasks: it is open, its hosts only listen, no
outcome is cancelled, and its loads do not fail. -/
structure Steady (interpreter : Interpreter) (doc : String → Option String) (terms : Session)
    (desk : Desk) (tasks : List Task) : Prop where
  isOpen : desk.isOpen = true
  /-- The hosts mean to do nothing. -/
  intents : desk.intents + sumOver Task.followUps tasks = 0
  /-- No more than one query was typed that is not looked for yet. -/
  queries : sumOver Task.queries tasks ≤ 1
  /-- All sessions were opened in the same way. -/
  sessions : ∀ (number : Nat) (session : Session), desk.sessions[number]? = some session →
    terms.SameTerms session
  limit : ∃ count, readLimit terms.limit = .ok count
  answered : ∀ number, desk.answer? number ≠ some .cancelled
  loads : ∀ (number : Nat) (load : Load), desk.cache.loads[number]? = some load →
    load.bucket ∈ terms.buckets ∧
      ∀ ending, load.ending = some ending → ∃ shard, ending = .shard shard
  reads : desk.interpreter = interpreter
  supply : desk.supply.Provides interpreter doc terms.buckets
  mirrors : Mirrors doc desk tasks
  smooth : ∀ task ∈ tasks, task.isSmooth = true

theorem sumOver_eq_zero_iff {weight : α → Nat} {items : List α} :
    sumOver weight items = 0 ↔ ∀ item ∈ items, weight item = 0 := by
  refine ⟨fun h => ?_, sumOver_eq_zero⟩
  induction items with
  | nil => simp
  | cons item items ih =>
    rw [sumOver_cons] at h
    exact List.forall_mem_cons.2 ⟨by omega, ih (by omega)⟩

/-- Every rule counts. -/
theorem eq_nil_of_weight_eq_zero {rules : List Rule} (h : sumOver Rule.weight rules = 0) :
    rules = [] := by
  cases rules with
  | nil => rfl
  | cons rule rules =>
    rw [sumOver_cons, Rule.weight] at h
    omega

theorem Session.SameTerms.trans {session middle other : Session} (first : session.SameTerms middle)
    (second : middle.SameTerms other) : session.SameTerms other :=
  ⟨second.mode.trans first.mode, second.limit.trans first.limit,
    second.partition.trans first.partition, second.buckets.trans first.buckets,
    second.quiet.trans first.quiet⟩

/-- What comes of a query that is typed when none is pending. -/
theorem Desk.submitTasks_of_idle (desk : Desk) {session : Session} (hp : session.pending = none)
    (number : Nat) (query : Option String) :
    desk.submitTasks number session query =
      [.call (.state number (session.generation + 1) (Session.stateFor (queryKey query))),
        if queryKey query = "" then .resolve desk.outcomes.length (.result
          { query, key := queryKey query, groups := [], generation := session.generation + 1 })
        else .look (desk.ticketFor number session query),
        .handOut desk.outcomes.length] := by
  have hn : desk.superseded? session = none := by simp [superseded?, hp]
  unfold submitTasks
  rw [hn]
  generalize hk : queryKey query = key
  have hg : (desk.submitted session query).generation = session.generation + 1 := rfl
  have hs : (desk.submitted session query).state = Session.stateFor key := by
    simp only [submitted, Session.submit, hk]
  simp only [hg, hs, ticketFor, hk, Option.toList_none, List.map_nil, List.nil_append,
    List.cons_append]

/-- Whether a query is pending changes only when one is typed or answered. -/
theorem Move.awaits_eq {desk after : Desk} {task : Task} {next : List Task}
    (h : Move desk task after next)
    (hq : ∀ session query followUp, task ≠ .submit session query followUp)
    (hs : ∀ ticket, task ≠ .settle ticket) (number : Nat) :
    after.awaits number = desk.awaits number := by
  cases h with
  | submit => exact absurd rfl (hq _ _ _)
  | settle => exact absurd rfl (hs _)
  | settleFailed => exact absurd rfl (hs _)
  | handOut ho hn => exact Desk.awaits_congr (Desk.askers_note _ ho hn) rfl
  | resolve ho _ hn => exact Desk.awaits_congr (Desk.askers_note _ ho hn) rfl
  | @call call session _ hn =>
    have hn' : (desk.record (.called call)).sessions[call.session]? = some session := hn
    rw [Desk.awaits_setSession number hn']
    split
    · rename_i hp
      have hw : desk.awaits number = (session.pending == some number) :=
        Desk.awaits_of_asker hp hn
      rw [hw]
      rfl
    · rfl
  | _ => rfl

namespace Steady

variable {interpreter : Interpreter} {doc : String → Option String} {terms : Session}
  {desk after : Desk} {task : Task}
  {tasks next : List Task} {escaped : Option Fault} {past : List Agenda}

theorem rules (h : Steady interpreter doc terms desk tasks) : desk.rules = [] := by
  have hi := h.intents
  rw [Desk.intents] at hi
  exact eq_nil_of_weight_eq_zero (by omega)

theorem sessionRules (h : Steady interpreter doc terms desk tasks) {number : Nat}
    {session : Session}
    (hs : desk.sessions[number]? = some session) : session.rules = [] := by
  have hi := h.intents
  rw [Desk.intents] at hi
  have hz : sumOver (fun session : Session => sumOver Rule.weight session.rules) desk.sessions =
      0 := by omega
  exact eq_nil_of_weight_eq_zero (sumOver_eq_zero_iff.1 hz session (List.mem_of_getElem? hs))

/-- No query is typed at a steady desk while it works. -/
theorem submit_notMem (h : Steady interpreter doc terms desk tasks) (number : Nat)
    (query : Option String)
    (followUp : Option FollowUp) : .submit number query followUp ∉ tasks := by
  intro hm
  have hq := h.queries
  have hl := sumOver_le_sumOver Task.queries (List.singleton_sublist.2 hm)
  simp at hl
  omega

theorem not_submit (h : Steady interpreter doc terms desk (task :: tasks)) (number : Nat)
    (query : Option String) (followUp : Option FollowUp) :
    task ≠ .submit number query followUp := by
  rintro rfl
  exact h.submit_notMem number query followUp List.mem_cons_self

/-- What was handed out for some buckets ended with shards. -/
theorem shards_of_endings? (h : Steady interpreter doc terms desk tasks)
    {fetched : List (String × Fetched)}
    {endings : List (String × Ending)} (he : desk.cache.endings? fetched = some endings) :
    ∀ pair ∈ endings, ∃ shard, pair.2 = .shard shard := by
  induction fetched generalizing endings with
  | nil =>
    cases he
    simp
  | cons pair fetched ih =>
    rw [Cache.endings?_cons] at he
    obtain ⟨ending, hf, hm⟩ := Option.bind_eq_some_iff.1 he
    obtain ⟨others, ho, rfl⟩ := Option.map_eq_some_iff.1 hm
    refine List.forall_mem_cons.2 ⟨?_, ih ho⟩
    cases hp : pair.2 with
    | ready shard =>
      rw [hp] at hf
      exact ⟨shard, (Option.some.inj hf).symm⟩
    | load number =>
      rw [hp] at hf
      obtain ⟨load, hl, hn⟩ := Option.bind_eq_some_iff.1 hf
      exact (h.loads number load hl).2 ending hn

/-- A query that can be answered is answered, and without warnings. -/
theorem answerTicket_ok (h : Steady interpreter doc terms desk tasks) {number : Nat}
    {session : Session}
    (hs : desk.sessions[number]? = some session) {ticket : Ticket}
    {endings : List (String × Ending)} (he : desk.cache.endings? ticket.fetched = some endings) :
    ∃ result, answerTicket session ticket endings = .ok (result, []) ∧ result.warnings = [] ∧
      result.key = ticket.key := by
  have hp := h.shards_of_endings? he
  have notCancelled : ∀ pair ∈ endings, pair.2 ≠ .cancelled := by
    intro pair hm hn
    obtain ⟨shard, hs⟩ := hp pair hm
    cases hs.symm.trans hn
  obtain ⟨all, hc⟩ := exists_collect notCancelled
  obtain ⟨count, hl⟩ := h.limit
  rw [← (h.sessions number session hs).limit] at hl
  have hf := failures_of_collect hc hp
  simp only [answerTicket, hc, hl, hf]
  exact ⟨_, rfl, rfl, rfl⟩

theorem not_answerTicket_error (h : Steady interpreter doc terms desk tasks) {number : Nat}
    {session : Session}
    (hs : desk.sessions[number]? = some session) {ticket : Ticket}
    {endings : List (String × Ending)} (he : desk.cache.endings? ticket.fetched = some endings)
    {fault : Fault} (ha : answerTicket session ticket endings = .error fault) : False := by
  obtain ⟨result, hr, -⟩ := h.answerTicket_ok hs he
  cases hr.symm.trans ha

/-- No query is broken off at a steady desk. -/
theorem not_breaksOff (h : Steady interpreter doc terms desk tasks) (number : Nat) :
    Agenda.breaksOff ⟨desk, tasks, escaped⟩ number = false := by
  cases tasks with
  | nil => rfl
  | cons task tasks =>
    cases task with
    | look ticket =>
      have hg := Desk.not_refuses_of_isOpen h.isOpen ticket
      exact (congrArg (ticket.outcome == number && ·) hg).trans (Bool.and_false _)
    | raise => cases h.smooth _ List.mem_cons_self
    | _ => rfl

/-- All that comes of a task at a steady desk is smooth. -/
theorem smooth_next (h : Steady interpreter doc terms desk (task :: tasks))
    (hm : Move desk task after next) (hc : Course (⟨desk, task :: tasks, escaped⟩ :: past)) :
    ∀ first ∈ next, first.isSmooth = true := by
  intro first hf
  have ht := h.smooth task List.mem_cons_self
  cases hm.yields hf with
  | supersede => exact absurd List.mem_cons_self (h.submit_notMem _ _ _)
  | fail =>
    -- no host has a rule
    cases hm with
    | call _ hs =>
      rw [h.sessionRules hs] at hf
      cases hf
    | callUnheard => cases hf
    | callDiagnostic =>
      rw [h.rules] at hf
      cases hf
  | refuse _ hr =>
    obtain ⟨_, _, ha⟩ := Cache.requestAll_of_isOpen h.isOpen _
    cases ha.symm.trans hr
  | @again number answered hn =>
    -- the outcome would be in two hands
    obtain ⟨old, ha⟩ := Option.isSome_iff_exists.1 hn
    have hw := Desk.hasAnswered_of_answer? ha fun hn => h.answered number (hn ▸ ha)
    have hh : Task.holds number (.resolve number answered) = true := by
      cases answered with
      | result => simp [Task.holds, bne]
      | _ => cases ht
    have hl := hc.holders_le number
    have ho := desk.owes_le number
    dsimp only at hl
    rw [Desk.holders, hw, Bool.toNat_true, List.countP_cons_of_pos hh] at hl
    omega
  | deliver hs he ha =>
    obtain ⟨result, hr, -⟩ := h.answerTicket_ok hs he
    cases hr.symm.trans ha
    rfl
  | unanswered =>
    cases hm with
    | settle => simp at hf
    | settleFailed hs he _ _ ha =>
      exact (h.not_answerTicket_error hs he ha).elim
    | settleDropped => cases hf
  | @warning ticket failures result _ _ =>
    -- there are no failures to warn of
    cases failures with
    | nil =>
      cases hm
      simp [Desk.deliver] at hf
    | cons => cases ht
  | miss hn =>
    cases hm with
    | load =>
      rcases List.mem_append.1 hf with hf | hf
      · obtain ⟨_, he⟩ | he := Desk.mem_reports hf <;> cases he
      · cases List.mem_singleton.1 hf
        exact absurd rfl (hn _)
    | loadLeft hl _ he | loadFailed hl _ he =>
      have provides := h.supply
      rw [← h.reads] at provides
      obtain ⟨shard, hs⟩ := provides.fetch_ok (h.loads _ _ hl).1
      cases hs.symm.trans he
    | loadSkipped => cases hf
  | _ => rfl

/-- A load is one of those there were before, or its bucket is one of those that are looked into. -/
theorem bucket_mem (h : Steady interpreter doc terms desk (task :: tasks))
    (hm : Move desk task after next) {number : Nat} {load : Load}
    (hl : after.cache.loads[number]? = some load) :
    load.bucket ∈ terms.buckets := by
  have old {other : Load} (ho : desk.cache.loads[number]? = some other) :
      other.bucket ∈ terms.buckets := (h.loads number other ho).1
  have asked {ticket : Ticket} {session : Session} {fetched : List (String × Fetched)}
      {cache : Cache} (hs : desk.sessions[ticket.session]? = some session)
      (hr : desk.cache.requestAll (candidates ticket.key session.buckets session.partition
        session.mode) = .ok (fetched, cache)) {other : Load}
      (ho : cache.loads[number]? = some other) : other.bucket ∈ terms.buckets := by
    rcases Cache.bucket_requestAll hr ho with ho | hb
    · exact old ho
    · rw [← (h.sessions _ _ hs).buckets]
      exact candidates_subset _ _ _ _ hb
  cases hm with
  | lookEnded hs hr => exact asked hs hr hl
  | lookWaits hs hr =>
    obtain ⟨other, ho, hj⟩ := Cache.load_of_await _ hl
    exact hj.bucket ▸ asked hs hr ho
  | finish =>
    rw [Cache.getElem?_finish] at hl
    split at hl
    · obtain ⟨other, ho, rfl⟩ := Option.map_eq_some_iff.1 hl
      have hb : other.bucket ∈ terms.buckets := old ho
      exact hb
    · exact old hl
  | _ => exact old hl

/-- Every step keeps a desk steady. -/
theorem step {agenda after : Agenda} (h : Steady interpreter doc terms agenda.desk agenda.tasks)
    (hc : Course (agenda :: past)) (hs : agenda.step? = some after) :
    Steady interpreter doc terms after.desk after.tasks := by
  have effort := Agenda.step?_effort_lt hs
  have stepped := Agenda.step_of_step? hs
  have isOpen := stepped.isOpen
  have mirrors := stepped.mirrors h.supply.answers.faithful h.mirrors
  have reads := stepped.interpreter_eq.trans h.reads
  cases stepped with
  | @move desk after task tasks next escaped hm =>
    have hi := h.intents
    have hq := h.queries
    simp only [Agenda.Effort.Less, Prod.lex_def, Agenda.effort, Agenda.effortOf] at effort
    refine
      { isOpen := isOpen.trans h.isOpen
        intents := by dsimp only at *; omega
        queries := by dsimp only at *; omega
        sessions := fun number session hs => ?_
        limit := h.limit
        answered := fun number ha => ?_
        loads := fun number load hl => ⟨h.bucket_mem hm hl, fun ending he => ?_⟩
        reads := reads
        supply := ?_
        mirrors := mirrors
        smooth := fun first hf => ?_ }
    · obtain ⟨before, hb, -⟩ := hm.turn hs
      obtain ⟨other, ho, ht⟩ := hm.sameTerms hb
      cases hs.symm.trans ho
      exact (h.sessions number before hb).trans ht
    · obtain he | ⟨-, answered, rfl, he⟩ := hm.answer?_cases number
      · exact h.answered number (he.symm.trans ha)
      · cases he.symm.trans ha
        cases h.smooth _ List.mem_cons_self
    · obtain ⟨before, hb, -, he | rfl⟩ := hm.ended_cases hl he
      · exact (h.loads number before hb).2 ending he
      · have hf := h.smooth _ List.mem_cons_self
        cases ending with
        | shard shard => exact ⟨shard, rfl⟩
        | _ => cases hf
    · cases hm with
      | load | loadLeft | loadFailed => exact h.supply.fetch _
      | _ => exact h.supply
    · rcases List.mem_append.1 hf with hf | hf
      · exact h.smooth_next hm hc first hf
      · exact h.smooth first (List.mem_cons_of_mem _ hf)
  | raise => cases h.smooth _ List.mem_cons_self

/-- A desk that gives its loads their turns is as steady as it was. -/
theorem drain (h : Steady interpreter doc terms desk []) :
    Steady interpreter doc terms desk [.drain] where
  isOpen := h.isOpen
  intents := h.intents
  queries := Nat.zero_le _
  sessions := h.sessions
  limit := h.limit
  answered := h.answered
  loads := h.loads
  reads := h.reads
  supply := h.supply
  mirrors := Begins.drain.mirrors h.mirrors
  smooth := by simp [Task.isSmooth]

/-- A desk that is asked for buckets of its sessions is as steady as it was. -/
theorem ask (h : Steady interpreter doc terms desk []) {buckets : List String}
    {fetched : List (String × Fetched)} {cache : Cache}
    (hr : desk.cache.requestAll buckets = .ok (fetched, cache)) (hb : buckets ⊆ terms.buckets) :
    Steady interpreter doc terms { desk with cache } [] where
  isOpen := (Cache.isOpen_requestAll hr).trans h.isOpen
  intents := h.intents
  queries := Nat.zero_le _
  sessions := h.sessions
  limit := h.limit
  answered := h.answered
  loads number load hl := by
    constructor
    · obtain hl | hm := Cache.bucket_requestAll hr hl
      · exact (h.loads number load hl).1
      · exact hb hm
    · intro ending he
      exact (h.loads number load (Cache.ended_requestAll hr hl (by simp [he]))).2 ending he
  reads := h.reads
  supply := h.supply
  mirrors := (Begins.ask hr).mirrors h.mirrors
  smooth := nofun

/-- A query that is typed when none is pending leaves a desk steady. -/
theorem submit (h : Steady interpreter doc terms desk []) {number : Nat} {session : Session}
    (hs : desk.sessions[number]? = some session) (hp : session.pending = none)
    (query : Option String) :
    Steady interpreter doc terms ((desk.setSession number (desk.submitted session query)).owe
      { session := number }) (desk.submitTasks number session query) := by
  have hm : Move desk (.submit number query none) _ _ := .submit hs
  have ht := desk.submitTasks_of_idle hp number query
  refine
    { isOpen := h.isOpen
      intents := ?_
      queries := ?_
      sessions := fun place other ho => ?_
      limit := h.limit
      answered := fun place => ?_
      loads := h.loads
      reads := h.reads
      supply := h.supply
      mirrors := ?_
      smooth := ?_ }
  · have hi := h.intents
    have hc := Desk.intents_setSession hs (desk.submitted session query)
    have hr : (desk.submitted session query).rules = session.rules := rfl
    rw [Desk.intents_owe, ht]
    rw [hr] at hc
    split <;> simp at hi ⊢ <;> omega
  · rw [ht]
    split <;> simp
  · obtain ⟨before, hb, -⟩ := hm.turn ho
    obtain ⟨same, hs, ht⟩ := hm.sameTerms hb
    cases ho.symm.trans hs
    exact (h.sessions place before hb).trans ht
  · rw [Desk.answer?_owe _ rfl]
    exact h.answered place
  · have faithful : Agenda.Faithful doc ⟨desk, [.submit number query none], none⟩ :=
      h.supply.answers.faithful
    simpa using hm.mirrors faithful (Begins.type.mirrors h.mirrors)
  · rw [ht]
    split <;> simp [Task.isSmooth]

end Steady

/-! ## Desks at rest -/

/-- A query that is typed is dealt with before anything else. -/
theorem Desk.type_snd (desk : Desk) (session : Nat) (query : Option String)
    (followUp : Option FollowUp) :
    (desk.type session query followUp).2 = (desk.run [.submit session query followUp]).1 := by
  unfold type
  obtain ⟨after, _ | fault⟩ := desk.run [.submit session query followUp] <;> rfl

/-- Whether a desk at rest is one at which nothing goes wrong. -/
structure Desk.AtEase (interpreter : Interpreter) (doc : String → Option String)
    (terms : Session) (desk : Desk) : Prop where
  reached : ∃ agenda past, Course (agenda :: past) ∧ agenda.tasks = [] ∧ agenda.desk = desk
  steady : Steady interpreter doc terms desk []

/-- A steady desk that is reached is at ease when it has come to rest. -/
theorem Steady.atEase {interpreter : Interpreter} {doc : String → Option String} {terms : Session}
    {agenda : Agenda}
    {past : List Agenda} (hc : Course (agenda :: past))
    (h : Steady interpreter doc terms agenda.desk agenda.tasks) :
    agenda.run.desk.AtEase interpreter doc terms := by
  obtain ⟨⟨past, hc⟩, h⟩ := Agenda.run_induction (p := fun agenda =>
      (∃ past, Course (agenda :: past)) ∧ Steady interpreter doc terms agenda.desk agenda.tasks)
    (by
      rintro agenda after hs ⟨⟨past, hc⟩, h⟩
      exact ⟨⟨_, hc.worked hs⟩, h.step hc hs⟩)
    agenda ⟨⟨past, hc⟩, h⟩
  rw [Agenda.tasks_run] at h
  exact ⟨⟨_, _, hc, Agenda.tasks_run _, rfl⟩, h⟩

namespace Desk.AtEase

variable {interpreter : Interpreter} {doc : String → Option String} {terms : Session} {desk : Desk}

theorem drained (h : desk.AtEase interpreter doc terms) :
    desk.drained.AtEase interpreter doc terms := by
  obtain ⟨agenda, past, hc, hr, rfl⟩ := h.reached
  exact Steady.atEase (hc.tookUp hr .drain) h.steady.drain

theorem poised (h : desk.AtEase interpreter doc terms) (turns : Turns) :
    (desk.poised turns).AtEase interpreter doc terms :=
  match turns with
  | .first => h.drained
  | .joined => h

theorem ask (h : desk.AtEase interpreter doc terms) {buckets : List String}
    {fetched : List (String × Fetched)} {cache : Cache}
    (hr : desk.cache.requestAll buckets = .ok (fetched, cache)) (hb : buckets ⊆ terms.buckets) :
    Desk.AtEase interpreter doc terms { desk with cache } := by
  obtain ⟨agenda, past, hc, ht, he⟩ := h.reached
  obtain ⟨last, earlier, hl, hn, hd, -⟩ := Desk.requestAll_leadsTo hr agenda past hc ht he
  exact ⟨⟨last, earlier, hl, hn, hd⟩, h.steady.ask hr hb⟩

/-- No load of a desk at ease is cancelled. -/
theorem uncancelled (h : desk.AtEase interpreter doc terms) :
    Agenda.Uncancelled { desk, tasks := [] } := by
  refine ⟨fun number load hl hn => ?_, nofun⟩
  obtain ⟨shard, hs⟩ := (h.steady.loads number load hl).2 _ hn
  cases hs

/-- A desk at ease answers every query at once, as the documents have it, and stays at ease. -/
theorem search (h : desk.AtEase interpreter doc terms) (hb : desk.bucketIds = .ok terms.buckets)
    (hm : desk.mode = terms.mode) (hp : desk.partition = terms.partition) (query : Option String)
    (turns : Turns) :
    (∃ result, (desk.search query terms.limit turns).1 = .ok result ∧
        result.groups = terms.reply interpreter doc (queryKey query)) ∧
      (desk.search query terms.limit turns).2.AtEase interpreter doc terms := by
  obtain ⟨count, hl⟩ := h.steady.limit
  obtain ⟨agenda, past, hc, hr, rfl⟩ := h.reached
  obtain ⟨result, hs⟩ := hc.search_ok hr h.steady.isOpen h.uncancelled hb query hl turns
  obtain ⟨all, _, hg, -, he⟩ := Desk.search_eq_ok hs
  obtain ⟨buckets, endings, hw, ho, hd, hn⟩ := Desk.gatherFrom_eq_ok hg
  obtain ⟨fetched, cache, hq, ha, hf⟩ := Desk.obtain_eq_ok ho
  obtain rfl : terms.buckets = buckets :=
    Except.ok.inj (hb.symm.trans ((agenda.desk.worksOn_poised turns).buckets.symm.trans hw))
  have after := ((h.poised turns).ask hq (candidates_subset _ _ _ _)).drained
  have last : (agenda.desk.search query terms.limit turns).2 = _ := hd.trans ha
  rw [last]
  refine ⟨⟨result, hs, ?_⟩, after⟩
  obtain ⟨hk, _, hb', reflects⟩ := hc.reflects_search hr h.steady.mirrors h.steady.supply.answers hs
  cases hb.symm.trans hb'
  rw [hm, hp, h.steady.reads] at reflects
  rw [reflects.groups_eq, hk]
  rw [he, failures_of_collect hn (after.steady.shards_of_endings? hf)]
  rfl

end Desk.AtEase

end SymbolLookup

import SymbolLookup.Proofs.Desk.Mirror
import SymbolLookup.Proofs.Desk.Supersession
/-!
# Results and their documents

A query is answered as by a search through the documents of all its buckets, but for those that
could not be loaded, and these are told.

## Main definitions

* `Reflects`: whether a result is what the documents give.
* `Agenda.Gives`: whether an outcome is or is about to be settled with a result.

## Main results

* `Course.reflects`: all results reflect the documents, whether they were waited for or not.

## Design notes

A document that cannot be read as a whole makes an empty shard with a diagnostic, and queries do not
look at diagnostics. A document over which reading trips makes no shard.
-/

namespace SymbolLookup

/-- The warning about a bucket that brought the reason why it failed, not its shard. -/
def warningOf (bucket : String) : Except String Shard → Option String
  | .error reason => some (failureMessage (bucket, reason))
  | .ok _ => none

/-- Whether a result is what a search through the documents of some buckets gives, but for the
candidates among them that failed. Each candidate brought the shard that its document makes, or the
reason why it failed, so one whose document makes no shard is among those that failed. -/
def Reflects (interpreter : Interpreter) (doc : String → Option String) (buckets : List String)
    (partition : Partition) (mode : Mode) (limit : Option Amount) (result : Result) : Prop :=
  ∃ (brought : String → Except String Shard) (count : Option Int), readLimit limit = .ok count ∧
    let asked := candidates result.key buckets partition mode
    (∀ bucket ∈ asked, ∀ shard, brought bucket = .ok shard → Makes interpreter doc bucket shard) ∧
      result.warnings = asked.filterMap (fun bucket => warningOf bucket (brought bucket)) ∧
      result.groups =
        rank (hits (asked.filterMap fun bucket => (brought bucket).toOption) result.key mode)
          result.key count

/-! ## Endings -/

/-- What a load brought, or why it did not; one that was cancelled tells no reason. -/
def Ending.brought : Ending → Except String Shard
  | .shard found => .ok found
  | .failed reason | .exit reason => .error reason
  | .cancelled => .error ""

theorem Ending.eq_shard_of_brought {ending : Ending} {found : Shard}
    (h : ending.brought = .ok found) : ending = .shard found := by
  cases ending <;> cases h
  rfl

/-- What is collected of some buckets is what their loads brought. -/
theorem collect_map {ending : String → Ending} {buckets : List String} {all : Collected}
    (hc : collect (buckets.map fun bucket => (bucket, ending bucket)) = .ok all) :
    all.failures.map failureMessage =
        buckets.filterMap (fun bucket => warningOf bucket (ending bucket).brought) ∧
      all.shards = buckets.filterMap fun bucket => (ending bucket).brought.toOption := by
  induction buckets generalizing all with
  | nil =>
    cases hc
    exact ⟨rfl, rfl⟩
  | cons bucket buckets ih =>
    rw [List.map_cons] at hc
    cases he : ending bucket with
    | cancelled => simp only [collect, he, reduceCtorEq] at hc
    | shard shard | failed reason | exit reason =>
      simp only [collect, he] at hc
      obtain ⟨rest, hr, rfl⟩ := exists_of_map_eq_ok hc
      obtain ⟨hf, hs⟩ := ih hr
      simp [he, Ending.brought, warningOf, Except.toOption, hf, hs]

/-- What was handed out for a bucket ends with the shard that the document of the bucket makes. -/
theorem Mirrors.makes_of_ending {doc : String → Option String} {desk : Desk} {tasks : List Task}
    (h : Mirrors doc desk tasks) {bucket : String} {fetched : Fetched} {shard : Shard}
    (hb : desk.cache.Backs bucket fetched)
    (hr : ∀ shard, fetched = .ready shard → Makes desk.interpreter doc bucket shard)
    (he : desk.cache.ending? fetched = some (.shard shard)) :
    Makes desk.interpreter doc bucket shard := by
  cases fetched with
  | ready other =>
    cases he
    exact hr _ rfl
  | load number =>
    obtain ⟨load, hl, rfl⟩ := hb
    rw [Cache.ending?, hl, Option.bind_some] at he
    exact h.loads number load shard hl he

/-- An answer from all that was handed out for some buckets reflects their documents. -/
theorem Mirrors.reflects_of_endings {doc : String → Option String} {desk : Desk} {tasks : List Task}
    (h : Mirrors doc desk tasks) {buckets : List String} {partition : Partition} {mode : Mode}
    {limit : Option Amount} {count : Option Int} {result : Result} {handed : String → Fetched}
    {endings : List (String × Ending)} {all : Collected}
    (hb : ∀ bucket ∈ candidates result.key buckets partition mode,
      desk.cache.Backs bucket (handed bucket) ∧
        ∀ shard, handed bucket = .ready shard → Makes desk.interpreter doc bucket shard)
    (he : desk.cache.endings? ((candidates result.key buckets partition mode).map
      fun bucket => (bucket, handed bucket)) = some endings)
    (hc : collect endings = .ok all) (hl : readLimit limit = .ok count)
    (hw : result.warnings = all.failures.map failureMessage)
    (hg : result.groups = answer all.shards result.key mode count) :
    Reflects desk.interpreter doc buckets partition mode limit result := by
  obtain ⟨ending, rfl, hn⟩ := Cache.endings?_map he
  obtain ⟨hf, hs⟩ := collect_map hc
  refine ⟨fun bucket => (ending bucket).brought, count, hl, ?_, hw.trans hf, ?_⟩
  · intro bucket hm shard hs
    obtain ⟨hb, hr⟩ := hb bucket hm
    exact h.makes_of_ending hb hr (Ending.eq_shard_of_brought hs ▸ hn bucket hm)
  · rw [hg, answer, hs]

/-! ## Results of sessions -/

/-- The result that a task is about to settle an outcome with. -/
def Task.gives? : Task → Option (Nat × Result)
  | .deliver ticket _ result => some (ticket.outcome, result)
  | .conclude outcome result | .resolve outcome (.result result) => some (outcome, result)
  | _ => none

/-- Whether an outcome is or is about to be settled with a result. -/
def Agenda.Gives (agenda : Agenda) (outcome : Nat) (result : Result) : Prop :=
  (∃ task ∈ agenda.tasks, task.gives? = some (outcome, result)) ∨
    agenda.desk.answer? outcome = some (.result result)

/-- No result is newly given because a fault takes its way. -/
theorem Agenda.Gives.of_unwind {desk : Desk} {fault : Fault} {tasks : List Task}
    {escaped escaped' : Option Fault} {outcome : Nat} {result : Result}
    (h : Agenda.Gives ⟨desk, (unwind fault tasks).1, escaped'⟩ outcome result) :
    Agenda.Gives ⟨desk, .raise fault :: tasks, escaped⟩ outcome result := by
  obtain ⟨first, hm, he⟩ | ha := h
  · refine .inl ⟨first, mem_of_mem_unwind hm ?_, he⟩
    rintro number rfl
    cases he
  · exact .inr ha

/-- A result is newly given to the empty query, or when a query is settled. -/
theorem Move.gives_cases {desk after : Desk} {task : Task} {tasks next : List Task}
    {escaped : Option Fault} (hm : Move desk task after next) {outcome : Nat} {result : Result}
    (h : Agenda.Gives ⟨after, next ++ tasks, escaped⟩ outcome result) :
    Agenda.Gives ⟨desk, task :: tasks, escaped⟩ outcome result ∨ result.key = "" ∨
      ∃ ticket session endings failures, task = .settle ticket ∧ outcome = ticket.outcome ∧
        desk.sessions[ticket.session]? = some session ∧
        desk.cache.endings? ticket.fetched = some endings ∧
        answerTicket session ticket endings = .ok (result, failures) := by
  obtain ⟨first, hf, hg⟩ | ha := h
  · rcases List.mem_append.1 hf with hf | hf
    · cases hm.yields hf with
      | empty =>
        cases hg
        exact .inr (.inl rfl)
      | deliver hs he ha =>
        cases hg
        exact .inr (.inr ⟨_, _, _, _, rfl, rfl, hs, he, ha⟩)
      | conclude =>
        cases hg
        exact .inl (.inl ⟨_, List.mem_cons_self, rfl⟩)
      | resolve =>
        cases hg
        exact .inl (.inl ⟨_, List.mem_cons_self, rfl⟩)
      | _ => cases hg
    · exact .inl (.inl ⟨first, List.mem_cons_of_mem _ hf, hg⟩)
  · obtain he | ⟨-, answered, rfl, he⟩ := hm.answer?_cases outcome
    · exact .inl (.inr (he.symm.trans ha))
    · cases he.symm.trans ha
      exact .inl (.inl ⟨_, List.mem_cons_self, rfl⟩)

/-- Whether a result answers the query that an outcome is owed for by the documents. -/
def Agenda.Justifies (agenda : Agenda) (past : List Agenda) (doc : String → Option String)
    (outcome : Nat) (result : Result) : Prop :=
  ∃ number session, agenda.desk.askers[outcome]? = some number ∧
    agenda.desk.sessions[number]? = some session ∧ result.key = queryKey result.query ∧
    (∃ earlier ∈ past, earlier.Types number result.query outcome) ∧
    Reflects agenda.desk.interpreter doc session.buckets session.partition session.mode
      session.limit result

theorem Agenda.Justifies.next {agenda after : Agenda} {past : List Agenda}
    {doc : String → Option String} {outcome : Nat} {result : Result}
    (h : agenda.Justifies past doc outcome result)
    (hi : after.desk.interpreter = agenda.desk.interpreter)
    (ha : agenda.desk.askers <+: after.desk.askers)
    (hs : ∀ (number : Nat) (session : Session), agenda.desk.sessions[number]? = some session →
      ∃ other, after.desk.sessions[number]? = some other ∧ session.SameTerms other) :
    after.Justifies (agenda :: past) doc outcome result := by
  obtain ⟨number, session, hn, ho, hk, ⟨earlier, he, ht⟩, hr⟩ := h
  obtain ⟨other, ho, hw⟩ := hs number session ho
  refine ⟨number, other, ?_, ho, hk, ⟨earlier, List.mem_cons_of_mem _ he, ht⟩, ?_⟩
  · obtain ⟨later, ha⟩ := ha
    rw [← ha, List.getElem?_append_left (List.getElem?_eq_some_iff.1 hn).1, hn]
  · rwa [hi, hw.buckets, hw.partition, hw.mode, hw.limit]

/-- A query that is settled is answered by the documents. -/
theorem Course.justifies_of_settle {desk : Desk} {ticket : Ticket} {tasks : List Task}
    {escaped : Option Fault} {past : List Agenda}
    (h : Course (⟨desk, .settle ticket :: tasks, escaped⟩ :: past))
    {doc : String → Option String} (hm : Mirrors doc desk (.settle ticket :: tasks))
    {session : Session} {endings : List (String × Ending)} {result : Result}
    {failures : List (String × String)}
    (hs : desk.sessions[ticket.session]? = some session)
    (he : desk.cache.endings? ticket.fetched = some endings)
    (ha : answerTicket session ticket endings = .ok (result, failures)) :
    Agenda.Justifies ⟨desk, .settle ticket :: tasks, escaped⟩ past doc ticket.outcome result := by
  have hk : Seeks desk.cache (.settle ticket :: tasks) ticket := .inl List.mem_cons_self
  have ho := h.owedFor hk.inHand
  obtain ⟨hkey, -, ht⟩ := h.typed hk.inHand
  obtain ⟨other, hn, handed, hf, hb⟩ := h.serves hk
  obtain rfl := Option.some.inj (hn.symm.trans hs)
  unfold answerTicket at ha
  split at ha
  · cases ha
  · rename_i all hc
    split at ha
    · cases ha
    · rename_i count hl
      cases ha
      refine ⟨ticket.session, other, ho.1, hs, hkey, ht, ?_⟩
      rw [hf] at he
      apply hm.reflects_of_endings ?_ he hc hl rfl rfl
      intro bucket hb'
      have hp : (bucket, handed bucket) ∈ ticket.fetched := hf ▸ List.mem_map.2 ⟨bucket, hb', rfl⟩
      exact ⟨hb _ hp, fun shard hr => hm.tickets ticket hk _ hp shard hr⟩

/-- As long as all fetches are faithful, outcomes are settled with results that answer their queries
by the documents. -/
theorem Course.justifies {agenda : Agenda} {past : List Agenda} (h : Course (agenda :: past))
    {doc : String → Option String} (hf : ∀ earlier ∈ past, earlier.Faithful doc) {outcome : Nat}
    {result : Result} (hg : agenda.Gives outcome result) (hk : result.key ≠ "") :
    agenda.Justifies past doc outcome result := by
  induction h using Course.induct with
  | opened =>
    obtain ⟨_, hm, _⟩ | ha := hg
    · cases hm
    · simp [Desk.answer?] at ha
  | @worked agenda after past hc _ hs ih =>
    have hp : ∀ earlier ∈ past, earlier.Faithful doc :=
      fun earlier hm => hf earlier (List.mem_cons_of_mem _ hm)
    cases hs with
    | @move desk after task tasks next escaped hm =>
      have terms (number : Nat) (session : Session) (hs : desk.sessions[number]? = some session) :=
        hm.sameTerms hs
      obtain hg | hn | ⟨ticket, session, endings, failures, rfl, rfl, hs, he, ha⟩ :=
        hm.gives_cases hg
      · exact (ih hp hg).next hm.interpreter_eq hm.askers_prefix terms
      · exact absurd hn hk
      · exact (hc.justifies_of_settle (hc.mirrors hp) hs he ha).next hm.interpreter_eq
          hm.askers_prefix terms
    | raise =>
      exact (ih hp hg.of_unwind).next rfl List.prefix_rfl
        fun number session hs => ⟨session, hs, rfl, rfl, rfl, rfl, rfl⟩
  | @began agenda after past _ _ _ hb ih =>
    have hg : agenda.Gives outcome result := by
      obtain ⟨task, hm, he⟩ | ha := hg
      · obtain ⟨_, _, _, rfl⟩ | ⟨_, rfl⟩ | rfl | ⟨_, rfl⟩ | ⟨_, rfl⟩ := hb.mem_tasks hm <;> cases he
      · rw [hb.answer?] at ha
        exact .inr ha
    have hp : agenda.desk.askers <+: after.desk.askers := hb.askers ▸ List.prefix_rfl
    exact (ih (fun earlier hm => hf earlier (List.mem_cons_of_mem _ hm)) hg).next
      hb.interpreter_eq hp fun number session hs =>
        ⟨session, hb.session_of_session hs, rfl, rfl, rfl, rfl, rfl⟩

/-! ## Results that are waited for -/

theorem Desk.obtain_eq_ok {desk : Desk} {buckets : List String}
    {endings : List (String × Ending)} (h : (desk.obtain buckets).1 = .ok endings) :
    ∃ fetched cache, desk.cache.requestAll buckets = .ok (fetched, cache) ∧
      (desk.obtain buckets).2 = ({ desk with cache } : Desk).drained ∧
      ({ desk with cache } : Desk).drained.cache.endings? fetched = some endings := by
  unfold obtain at h ⊢
  split at h
  · cases h
  · rename_i fetched cache hr
    simp only at h
    split at h
    · cases h
    · rename_i found he
      cases h
      refine ⟨fetched, cache, hr, ?_, he⟩
      dsimp only
      rw [he]

theorem Desk.gatherFrom_eq_ok {desk : Desk} {choose : List String → List String} {turns : Turns}
    {all : Collected} (h : (desk.gatherFrom choose turns).1 = .ok all) :
    ∃ buckets endings, (desk.poised turns).bucketIds = .ok buckets ∧
      ((desk.poised turns).obtain (choose buckets)).1 = .ok endings ∧
      (desk.gatherFrom choose turns).2 = ((desk.poised turns).obtain (choose buckets)).2 ∧
      collect endings = .ok all := by
  unfold gatherFrom at h ⊢
  split at h
  · cases h
  · rename_i ho
    simp only at h
    split at h
    · cases h
    · rename_i buckets hb
      split at h
      · cases h
      · rename_i endings after he
        refine ⟨buckets, endings, hb, by rw [he], ?_, h⟩
        rw [if_neg ho]
        dsimp only
        rw [hb]
        dsimp only
        rw [he]

theorem Desk.search_eq_ok {desk : Desk} {query : Option String} {limit : Option Amount}
    {turns : Turns} {result : Result} (h : (desk.search query limit turns).1 = .ok result) :
    let gathered := desk.gatherFrom (fun buckets =>
      candidates (queryKey query) buckets desk.partition desk.mode) turns
    ∃ all count, gathered.1 = .ok all ∧ readLimit limit = .ok count ∧
      result = { query, key := queryKey query
                 groups := answer all.shards (queryKey query) gathered.2.mode count
                 warnings := all.failures.map failureMessage } := by
  intro gathered
  unfold search at h
  simp only [bind, Except.bind, pure, Except.pure] at h
  split at h
  · cases h
  · rename_i all ha
    split at h
    · cases h
    · rename_i count hl
      exact ⟨all, count, ha, hl, (Except.ok.inj h).symm⟩

/-- An answer from the candidates among some buckets, which were waited for, reflects their
documents. -/
theorem Desk.reflects_of_obtain {desk : Desk} {doc : String → Option String}
    (hk : desk.cache.Linked) (hm : Mirrors doc desk []) (ha : desk.supply.Answers doc)
    {buckets : List String} {partition : Partition} {mode : Mode} {limit : Option Amount}
    {count : Option Int} {result : Result} {endings : List (String × Ending)} {all : Collected}
    (ho : (desk.obtain (candidates result.key buckets partition mode)).1 = .ok endings)
    (hc : collect endings = .ok all) (hl : readLimit limit = .ok count)
    (hw : result.warnings = all.failures.map failureMessage)
    (hg : result.groups = answer all.shards result.key mode count) :
    Reflects desk.interpreter doc buckets partition mode limit result := by
  obtain ⟨fetched, cache, hq, -, he⟩ := obtain_eq_ok ho
  have hb : Begins desk ⟨{ desk with cache }, [], none⟩ := .ask hq
  have ready : Mirrors doc { desk with cache } [] := hb.mirrors hm
  have hs : ({ desk with cache } : Desk).supply.Answers doc := ha
  obtain ⟨hm, -, hn⟩ := mirrors_drained hs ready
  obtain ⟨handed, rfl, hh⟩ := Cache.requestAll_eq_map hq
  have kept : ({ desk with cache } : Desk).drained.interpreter = desk.interpreter := hn.interpreter
  rw [← kept]
  apply hm.reflects_of_endings ?_ he hc hl hw hg
  intro bucket hb
  have hh := hh bucket hb
  constructor
  · exact ((hk.requestAll hq).backs_of_handed? hh).of_grows hn.cache
  · intro shard hr
    rw [hr] at hh
    rw [kept]
    exact ready.shards bucket shard (Cache.get?_of_handed? hh)

theorem Desk.obtain_worksOn {desk : Desk} {doc : String → Option String} (hm : Mirrors doc desk [])
    (ha : desk.supply.Answers doc) {buckets : List String} {endings : List (String × Ending)}
    (ho : (desk.obtain buckets).1 = .ok endings) : desk.WorksOn (desk.obtain buckets).2 := by
  obtain ⟨fetched, cache, hq, hd, -⟩ := obtain_eq_ok ho
  have hb : Begins desk ⟨{ desk with cache }, [], none⟩ := .ask hq
  have hs : ({ desk with cache } : Desk).supply.Answers doc := ha
  rw [hd]
  have first : desk.WorksOn { desk with cache } := ⟨Cache.grows_requestAll hq, rfl, rfl, rfl, rfl⟩
  exact first.trans (mirrors_drained hs (hb.mirrors hm)).2.2

theorem Desk.mirrors_poised {desk : Desk} {doc : String → Option String}
    (ha : desk.supply.Answers doc) (hm : Mirrors doc desk []) (turns : Turns) :
    Mirrors doc (desk.poised turns) [] ∧ (desk.poised turns).supply.Answers doc ∧
      desk.WorksOn (desk.poised turns) :=
  match turns with
  | .first => mirrors_drained ha hm
  | .joined => ⟨hm, ha, .refl desk⟩

/-- A desk at rest that loads buckets and waits for them answers by the documents. -/
theorem Course.reflects_search {agenda : Agenda} {past : List Agenda} (h : Course (agenda :: past))
    (hr : agenda.tasks = []) {doc : String → Option String} (hm : Mirrors doc agenda.desk [])
    (ha : agenda.desk.supply.Answers doc) {query : Option String} {limit : Option Amount}
    {turns : Turns} {result : Result} (hs : (agenda.desk.search query limit turns).1 = .ok result) :
    result.key = queryKey query ∧ ∃ buckets, agenda.desk.bucketIds = .ok buckets ∧
      Reflects agenda.desk.interpreter doc buckets agenda.desk.partition agenda.desk.mode limit
        result := by
  obtain ⟨all, count, hg, hl, rfl⟩ := Desk.search_eq_ok hs
  obtain ⟨buckets, endings, hb, ho, hd, hc⟩ := Desk.gatherFrom_eq_ok hg
  obtain ⟨last, earlier, hcourse, -, hlast, -⟩ :=
    agenda.desk.poised_leadsTo turns agenda past h hr rfl
  have linked : (agenda.desk.poised turns).cache.Linked := hlast ▸ hcourse.linked
  obtain ⟨hm, ha, hw⟩ := Desk.mirrors_poised ha hm turns
  refine ⟨rfl, buckets, hw.buckets ▸ hb, ?_⟩
  rw [← hw.interpreter]
  refine Desk.reflects_of_obtain linked hm ha ho hc hl rfl ?_
  rw [hd, (Desk.obtain_worksOn hm ha ho).mode, hw.mode]

end SymbolLookup

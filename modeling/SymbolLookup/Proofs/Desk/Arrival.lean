import SymbolLookup.Proofs.Desk.SingleFlight
import SymbolLookup.Proofs.Shard.Unreadable
/-!
# Documents that arrive at a desk

What becomes of a bucket whose document the supply answered with.

## Main definitions

* `Arrival`: a load has its turn, and the supply answers it with a document.
* `Shard.StandsFor`: whether a shard is what is kept for a document.
* `Agenda.EndsWith`, `Agenda.Retains`: how the load ends, and what is kept of it.

## Main results

* `Desk.retains_unless_trips`: the bucket is kept once and for all, unless reading its document
  trips; then the load fails, and the bucket is fetched once more for whoever asks for it next.

## Design notes

A shard is kept before its load has ended, because hosts are told first what is wrong with the
document. From the moment of its arrival the load has the fate to end with this shard.
-/

namespace SymbolLookup

/-! ## Documents -/

/-- Whether a shard is what is kept for a document: what was read, or an empty shard with one
diagnostic. -/
inductive Shard.StandsFor (interpreter : Interpreter) (bucket text : String) : Shard → Prop where
  | read {shard : Shard} (h : Shard.read bucket text none interpreter = .ok shard) :
      StandsFor interpreter bucket text shard
  | malformed {message : String}
      (h : Shard.read bucket text none interpreter = .error (.malformed bucket message none)) :
      StandsFor interpreter bucket text { bucket, diagnostics := [⟨bucket, message, none⟩] }

/-- A document makes a shard that stands for it, unless reading it trips. -/
theorem shardOf_cases (interpreter : Interpreter) (bucket text : String) :
    (∃ shard, shardOf interpreter bucket (some text) = .ok shard ∧
          Shard.StandsFor interpreter bucket text shard) ∧
        ¬Shard.Trips interpreter bucket text (Format.detect text) ∨
      (∃ fault, shardOf interpreter bucket (some text) = .error fault ∧ fault.isTrip) ∧
        Shard.Trips interpreter bucket text (Format.detect text) := by
  obtain ⟨⟨shard, hr⟩ | ⟨message, hr⟩, hn⟩ | ⟨⟨fault, hr, hf⟩, ht⟩ :=
    Shard.read_cases interpreter bucket text none
  · exact .inl ⟨⟨shard, by rw [shardOf, hr], .read hr⟩, hn⟩
  · exact .inl ⟨⟨_, by rw [shardOf, hr], .malformed hr⟩, hn⟩
  · refine .inr ⟨⟨fault, ?_, hf⟩, ht⟩
    cases fault with
    | malformed => cases hf
    | _ => rw [shardOf, hr]

/-! ## Loads -/

namespace Desk

variable {desk : Desk} {number : Nat} {load : Load}

theorem runLoad_eq (hl : desk.cache.loads[number]? = some load) (he : load.ending = none) :
    desk.runLoad number = (desk.fetch load.bucket).2.arrive number load.bucket
      (desk.fetch load.bucket).1 := by
  simp [runLoad, hl, he]

/-- A load that trips over its document fails. -/
theorem arrive_of_isTrip {fault : Fault} (h : fault.isTrip) (desk : Desk) (number : Nat)
    (bucket : String) : desk.arrive number bucket (.error fault) =
      ({ desk with cache := desk.cache.forget bucket },
        [.finish number (.failed fault.message)]) := by
  cases fault with
  | numeral | unhashable | wholeTooLarge | system => rfl
  | _ => cases h

end Desk

/-- When a load is about to end, its fate is that ending. -/
theorem Depot.fate_of_finish {depot : Depot} {number : Nat} {load : Load} {ending : Ending}
    (hh : depot.work.head? = some (.finish number ending))
    (hl : depot.cache.loads[number]? = some load) (he : load.ending = none) :
    depot.fates[number]? = some ⟨load.bucket, some ending⟩ := by
  rw [getElem?_fates, hl, Option.map_some, fateOf, he, hh]
  simp [Task.ending?]

namespace Agenda

/-- Whether a load ends so, if it has ended, and has ended when nothing is left to do. -/
def EndsWith (agenda : Agenda) (number : Nat) (ending : Ending) : Prop :=
  ∃ load, agenda.desk.cache.loads[number]? = some load ∧
    (load.ending = none ∨ load.ending = some ending) ∧
    (agenda.tasks = [] → load.ending = some ending)

/-- Whether a bucket that was fetched so often is kept with the shard that a load ends with. -/
structure Retains (agenda : Agenda) (number : Nat) (bucket : String) (shard : Shard)
    (fetches : Nat) : Prop where
  kept : Keyed.get? bucket agenda.desk.cache.shards = some shard
  fetched : agenda.desk.fetchesOf bucket = fetches
  ends : agenda.EndsWith number (.shard shard)

theorem endsWith_of_fate {agenda : Agenda} {number : Nat} {bucket : String} {ending : Ending}
    (h : agenda.depot.fates[number]? = some ⟨bucket, some ending⟩) :
    agenda.EndsWith number ending := by
  rw [Depot.getElem?_fates] at h
  obtain ⟨load, hl, hf⟩ := Option.map_eq_some_iff.1 h
  have he := congrArg Fate.ending hf
  refine ⟨load, hl, ?_, fun rests => ?_⟩
  · cases hn : load.ending with
    | none => exact .inl rfl
    | some other => simpa [Depot.fateOf, hn] using he
  · simpa [Depot.fateOf, depot, rests] using he

end Agenda

/-! ## Arrivals -/

/-- Whether a load of a bucket had its turn at some moment of a run, and was answered with a
document. -/
structure Arrival (future past : List Agenda) (before after : Agenda) (number : Nat)
    (bucket text : String) : Prop where
  traffic : Traffic (future ++ after :: before :: past)
  step : before.step? = some after
  turn : before.tasks.head? = some (.load number)
  load : ∃ load, before.desk.cache.loads[number]? = some load ∧ load.bucket = bucket ∧
    load.ending = none
  answer : (before.desk.supply.fetch bucket).1 = .ok (some text)

namespace Arrival

variable {future past : List Agenda} {before after later : Agenda} {number : Nat}
  {bucket text : String}

theorem leadsTo_before (a : Arrival future past before after number bucket text) :
    Depot.LeadsTo {} before.depot := a.traffic.depots.2 before (by simp)

theorem leadsTo_after (a : Arrival future past before after number bucket text) :
    Depot.LeadsTo {} after.depot := a.traffic.depots.2 after (by simp)

theorem leadsTo (a : Arrival future past before after number bucket text)
    (hm : later ∈ future ++ [after]) : after.depot.LeadsTo later.depot := by
  rcases List.mem_append.1 hm with hm | hm
  · exact (List.pairwise_append.1 a.traffic.depots.1).2.2 later hm after List.mem_cons_self
  · rw [List.mem_singleton.1 hm]
    exact .refl _

/-- The bucket is in flight when its document arrives. -/
theorem inFlight (a : Arrival future past before after number bucket text) :
    Keyed.get? bucket before.desk.cache.inFlight = some number := by
  obtain ⟨load, hl, rfl, he⟩ := a.load
  obtain ⟨tasks, ht⟩ := List.head?_eq_some_iff.1 a.turn
  refine (a.leadsTo_before.sound.flies load.bucket number).2 ⟨⟨load.bucket, none⟩, ?_, rfl, rfl⟩
  refine Depot.fate_of_open (fun other => ?_) hl he
  rw [Agenda.depot, ht]
  rfl

/-- What comes of the load is told by what the document makes. -/
theorem after_eq (a : Arrival future past before after number bucket text) :
    ∃ tasks, after =
      let arrived := (before.desk.fetch bucket).2.arrive number bucket
        (shardOf before.desk.interpreter bucket (some text))
      { before with desk := arrived.1, tasks := arrived.2 ++ tasks } := by
  obtain ⟨load, hl, rfl, he⟩ := a.load
  obtain ⟨tasks, ht⟩ := List.head?_eq_some_iff.1 a.turn
  have hf : (before.desk.fetch load.bucket).1 =
      shardOf before.desk.interpreter load.bucket (some text) := by
    simp [Desk.fetch, a.answer, Except.bind]
  have hp : before.desk.perform (.load number) =
      (before.desk.fetch load.bucket).2.arrive number load.bucket
        (shardOf before.desk.interpreter load.bucket (some text)) :=
    (Desk.runLoad_eq hl he).trans (by rw [hf])
  have hs := a.step
  rw [Agenda.step?, ht] at hs
  refine ⟨tasks, ?_⟩
  simp only [← hp]
  exact (Option.some.inj hs).symm

/-- From the arrival of a document on, its load has the fate that the document gives it. -/
theorem fate (a : Arrival future past before after number bucket text) {ending : Ending}
    (told : List Task) (hn : ∀ task ∈ told, task.isWork = false)
    (ht : ∃ tasks, after.tasks = told ++ .finish number ending :: tasks)
    (hl : after.desk.cache.loads = before.desk.cache.loads) (hm : later ∈ future ++ [after]) :
    later.depot.fates[number]? = some ⟨bucket, some ending⟩ := by
  obtain ⟨load, hs, rfl, he⟩ := a.load
  obtain ⟨tasks, ht⟩ := ht
  refine (a.leadsTo hm).fate_of_settled a.leadsTo_after (Depot.fate_of_finish ?_ ?_ he)
  · rw [Agenda.depot, ht, List.filter_append, filter_isWork_eq_nil hn]
    rfl
  · rw [Agenda.depot, hl, hs]

/-- A document over which reading does not trip is kept as its shard. -/
theorem retains (a : Arrival future past before after number bucket text) {shard : Shard}
    (hs : shardOf before.desk.interpreter bucket (some text) = .ok shard)
    (hm : later ∈ future ++ [after]) :
    later.Retains number bucket shard (before.desk.fetchesOf bucket + 1) := by
  obtain ⟨tasks, he⟩ := a.after_eq
  rw [hs] at he
  have hf (agenda : Agenda) (hm : agenda ∈ future ++ [after]) :
      agenda.depot.fates[number]? = some ⟨bucket, some (.shard shard)⟩ := by
    refine a.fate (Desk.reports shard) ?_ ⟨tasks, ?_⟩ ?_ hm
    · intro task ht
      obtain ⟨_, rfl⟩ | rfl := Desk.mem_reports ht <;> rfl
    · simp [he, Desk.arrive]
    · rw [he]
      rfl
  have kept (agenda : Agenda) (hm : agenda ∈ future ++ [after]) :
      Keyed.get? bucket agenda.desk.cache.shards = some shard :=
    ((a.leadsTo_after.trans (a.leadsTo hm)).sound.keeps bucket shard).2 ⟨number, hf agenda hm⟩
  refine ⟨kept later hm, ?_, Agenda.endsWith_of_fate (hf later hm)⟩
  have hc := ((a.leadsTo hm).keeps_shard a.leadsTo_after (kept after (by simp))).2
  rw [Agenda.count_fetches, Agenda.count_fetches] at hc
  rw [hc, he]
  simp [Desk.fetchesOf, Desk.arrive, Desk.fetch, Desk.record]

/-- A load that trips over its document fails, and its bucket is neither kept nor in flight. -/
theorem fails (a : Arrival future past before after number bucket text) {fault : Fault}
    (hs : shardOf before.desk.interpreter bucket (some text) = .error fault) (hf : fault.isTrip) :
    after.desk.cache.handed? bucket = none ∧
      ∀ later ∈ future ++ [after], later.EndsWith number (.failed fault.message) := by
  obtain ⟨tasks, he⟩ := a.after_eq
  rw [hs] at he
  simp only [Desk.arrive_of_isTrip hf] at he
  constructor
  · have hn : Keyed.get? bucket after.desk.cache.shards = none := by
      rw [he]
      exact Option.eq_none_iff_forall_ne_some.2 fun _ => a.leadsTo_before.sound.apart a.inFlight
    rw [Cache.handed?_of_inFlight hn, he]
    simp [Cache.forget]
  · intro later hm
    refine Agenda.endsWith_of_fate (a.fate [] (by simp) ⟨tasks, ?_⟩ ?_ hm)
    · rw [he]
      rfl
    · rw [he]
      rfl

end Arrival

/-- **A document is read or known to be malformed, unless reading it trips.** When a load is
answered with a document over which reading does not trip, its bucket is kept from then on with the
shard that stands for the document and not fetched again, and the load does not fail. When reading
trips the load fails, and the bucket is neither kept nor in flight. All this holds whatever the
interpreter makes of the expressions of scripts, and however deep it lets values be nested. -/
theorem Desk.retains_unless_trips (bucket text : String) :
    (∀ interpreter asked,
        Shard.Ordinary bucket (Shard.read bucket text asked interpreter) ↔
          ¬Shard.Trips interpreter bucket text (Format.choose asked text)) ∧
      ∀ {future past : List Agenda} {before after : Agenda} {number : Nat},
        Arrival future past before after number bucket text →
        (¬Shard.Trips before.desk.interpreter bucket text (Format.detect text) →
          ∃ shard, Shard.StandsFor before.desk.interpreter bucket text shard ∧
            ∀ later ∈ future ++ [after],
              later.Retains number bucket shard (before.desk.fetchesOf bucket + 1)) ∧
        (Shard.Trips before.desk.interpreter bucket text (Format.detect text) →
          after.desk.cache.handed? bucket = none ∧
            ∃ reason, ∀ later ∈ future ++ [after], later.EndsWith number (.failed reason)) := by
  refine ⟨fun interpreter => Shard.ordinary_read_iff interpreter bucket text, ?_⟩
  intro future past before after number a
  obtain ⟨⟨shard, hs, hk⟩, hn⟩ | ⟨⟨fault, hs, hf⟩, ht⟩ :=
    shardOf_cases before.desk.interpreter bucket text
  · exact ⟨fun _ => ⟨shard, hk, fun _ hm => a.retains hs hm⟩, fun ht => absurd ht hn⟩
  · obtain ⟨handed, ends⟩ := a.fails hs hf
    exact ⟨fun hn => absurd ht hn, fun _ => ⟨handed, fault.message, ends⟩⟩

/-- The document of the bucket of the sample desk. -/
def sampleText : String := "[[\"alpha\", [\"A\", \"a.html\"]]]"

/-- The document of the sample desk is kept, and its load has ended when all is done. -/
theorem Desk.retains_of_sample :
    ∃ (future past : List Agenda) (before after last : Agenda),
      Arrival future past before after 0 "symbols_0" sampleText ∧
        last ∈ future ++ [after] ∧ last.tasks = [] ∧
        ∃ shard, last.Retains 0 "symbols_0" shard (before.desk.fetchesOf "symbols_0" + 1) := by
  let course := sampleCourse [.ask ["symbols_0"]]
  let begun := course.1.desk.takeUp .drain
  let past := course.1 :: course.2
  have hc : Course (begun :: past) :=
    (Course.sample _).tookUp (List.isEmpty_iff.1 (by decide +kernel)) _
  have steps : (begun.step?.bind Agenda.step?).isSome := by decide +kernel
  have turn : begun.step?.map (·.tasks.head?) = some (some (.load 0)) := by decide +kernel
  have load : begun.step?.map (·.desk.cache.loads[0]?) = some (some { bucket := "symbols_0" }) := by
    decide +kernel
  have answer : begun.step?.map (fun agenda => (agenda.desk.supply.fetch "symbols_0").1) =
      some (.ok (some sampleText)) := by decide +kernel
  have rests : (goOn 7 (begun, past)).1.tasks = [] := by decide +kernel
  have reads : begun.desk.interpreter = {} :=
    (Desk.begins_takeUp course.1.desk .drain).interpreter_eq.trans (interpreter_goThrough _ _ _)
  clear_value past begun
  obtain ⟨after, hs⟩ := Option.isSome_iff_exists.1 steps
  obtain ⟨before, hb, ha⟩ := Option.bind_eq_some_iff.1 hs
  rw [hb, Option.map_some, Option.some_inj] at turn load answer
  obtain ⟨future, he⟩ := goOn_suffix 5 (after, before :: begun :: past)
  have hg : goOn 7 (begun, past) = goOn 5 (after, before :: begun :: past) := by
    simp only [goOn, hb, ha]
  rw [hg] at rests
  have arrival : Arrival future (begun :: past) before after 0 "symbols_0" sampleText :=
    { traffic := by
        rw [← he]
        exact (((hc.worked hb).worked ha).goesOn 5).traffic
      step := ha
      turn
      load := ⟨_, load, rfl, rfl⟩
      answer }
  have last : (goOn 5 (after, before :: begun :: past)).1 ∈ future ++ [after] := by
    cases future with
    | nil => simpa using (List.cons.inj he).1
    | cons first future => simp [(List.cons.inj he).1]
  have read : ∃ shard, Shard.read "symbols_0" sampleText = .ok shard :=
    ⟨.single { name := "alpha", label := "A", anchor := { path := "a.html" }, position := 0 },
      by decide +kernel⟩
  obtain ⟨hr, ht⟩ := Desk.retains_unless_trips "symbols_0" sampleText
  have reads : before.desk.interpreter = {} :=
    (Agenda.step_of_step? hb).interpreter_eq.trans reads
  obtain ⟨shard, -, hk⟩ := (ht arrival).1 ((hr _ none).1 (.inl (reads ▸ read)))
  exact ⟨future, _, before, after, _, arrival, last, rests, shard, hk _ last⟩

/-- A set with a list in it is neither read nor known to be malformed, and a load that is answered
with it fails. -/
theorem Desk.not_retains_of_set :
    let text := "var searchData=[\x7b[]\x7d];"
    let supply : Supply := { source := .memory [("symbols_0", text)] [] }
    let course := sampleCourse [.restock supply, .ask ["symbols_0"], .drain]
    ¬Shard.Ordinary "symbols_0" (Shard.read "symbols_0" text) ∧
      Course (course.1 :: course.2) ∧ course.1.tasks = [] ∧
      (supply.fetch "symbols_0").1 = .ok (some text) ∧
      course.1.desk.cache.loads.map (·.ending) =
        [some (.failed "unhashable type: 'list'")] ∧
      course.1.desk.cache.shards = [] ∧ course.1.desk.cache.inFlight = [] := by
  intro text supply course
  refine ⟨?_, Course.sample _, by decide +kernel, by decide +kernel, by decide +kernel,
    by decide +kernel, by decide +kernel⟩
  have hr : Shard.read "symbols_0" text = .error (.unhashable "list") := by decide +kernel
  rintro (⟨shard, hs⟩ | ⟨message, hm⟩)
  · cases hr.symm.trans hs
  · cases hr.symm.trans hm

end SymbolLookup

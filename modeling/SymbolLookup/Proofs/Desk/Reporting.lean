import Mathlib.Data.List.Chain
import Mathlib.Data.List.Pairwise
import SymbolLookup.Proofs.Desk.Fate
import SymbolLookup.Proofs.Desk.Telling
/-!
# Reports of malformed documents

The host of a desk is told what is wrong with the document of a shard when the shard is kept, all of
it and never again.

## Main definitions

* `Desk.reported`: what the host was told about a bucket.
* `reportsDue`: what it is still to be told.
* `Contained`: whether faults leave all reports alone.
* `Agenda.ReportsAll`: whether both together are just what is wrong with the documents.

## Main results

* `Move.report_cases`: what a move does about reports.
* `Agenda.Step.reportsAll`: every step keeps the account of the reports.
* `Traffic.reports_once`: the host is told all, once and in order, when a load has had its turn.

## Design notes

A shard is kept before its first report, and the host may type queries while it is told. What was
told runs behind the shards that are kept, by just the reports that are still on the stack. Each of
these has a guard below it, and so nothing but a guard, or nothing at all, stands on top of it: a
fault that comes of one report is handled before it meets the next one.
-/

namespace SymbolLookup

/-! ## Diagnostics of a shard -/

/-- Whether all diagnostics of a shard are about its bucket. -/
def Shard.IsOwn (shard : Shard) : Prop := ∀ diagnostic ∈ shard.diagnostics,
  diagnostic.bucket = shard.bucket

theorem Shard.isOwn_addParts {format : Format} {shard after : Shard} {place : Nat}
    {parts : List Part} (h : shard.addParts format place parts = .ok after) (ho : shard.IsOwn) :
    after.IsOwn := by
  fun_induction addParts format shard place parts with
  | case1 => exact Except.ok.inj h ▸ ho
  | case2 shard _ _ _ _ _ ih =>
    refine ih h fun diagnostic hm => ?_
    rcases List.mem_append.1 hm with hm | hm
    · exact ho diagnostic hm
    · rw [List.mem_singleton.1 hm]
      rfl
  | case3 => cases h
  | case4 shard _ _ _ _ _ other ha ih =>
    refine ih h ?_
    unfold addRecord at ha
    split at ha
    · cases ha
    · obtain ⟨entries, -, rfl⟩ := exists_of_map_eq_ok ha
      exact ho

theorem Shard.isOwn_read {bucket text : String} {asked : Option String}
    {interpreter : Interpreter} {shard : Shard}
    (h : Shard.read bucket text asked interpreter = .ok shard) : shard.IsOwn := by
  unfold Shard.read at h
  simp only at h
  split at h
  · cases h
  · exact Shard.isOwn_addParts h nofun

theorem isOwn_shardOf {interpreter : Interpreter} {bucket : String} {document : Option String}
    {shard : Shard} (h : shardOf interpreter bucket document = .ok shard) : shard.IsOwn := by
  unfold shardOf at h
  split at h
  · cases h
    exact nofun
  · split at h
    · cases h
      intro diagnostic hm
      rw [List.mem_singleton.1 hm]
    · exact Shard.isOwn_read h

theorem Desk.isOwn_of_fetch {desk : Desk} {bucket : String} {shard : Shard}
    (h : (desk.fetch bucket).1 = .ok shard) : shard.IsOwn := by
  obtain ⟨_, -, hs⟩ := exists_of_bind_eq_ok h
  exact isOwn_shardOf hs

/-! ## Reports -/

/-- What a call tells of the document of a bucket. -/
def Call.report? (bucket : String) : Call → Option Diagnostic
  | .diagnostic found => if found.bucket = bucket then some found else none
  | _ => none

/-- What the host was told of the document of a bucket when this happened. -/
def Event.report? (bucket : String) : Event → Option Diagnostic
  | .called call => call.report? bucket
  | _ => none

/-- What the host is about to be told of the document of a bucket. -/
def Task.report? (bucket : String) : Task → Option Diagnostic
  | .call made => made.report? bucket
  | _ => none

/-- Whether the host is about to be told of a document. -/
def Task.isReport : Task → Bool
  | .call (.diagnostic _) => true
  | _ => false

/-- What the host of a desk was told of the document of a bucket, the first first. -/
def Desk.reported (desk : Desk) (bucket : String) : List Diagnostic :=
  desk.events.filterMap (·.report? bucket)

/-- What the host is still to be told of the document of a bucket. -/
def reportsDue (bucket : String) (tasks : List Task) : List Diagnostic :=
  tasks.filterMap (·.report? bucket)

/-- What is wrong with the document of a bucket, as far as its shard is kept. -/
def Cache.diagnosticsOf (cache : Cache) (bucket : String) : List Diagnostic :=
  ((Keyed.get? bucket cache.shards).map (·.diagnostics)).getD []

section Stack

variable {bucket : String} {task : Task} {tasks next : List Task}

theorem Task.report?_of_not_isReport (h : task.isReport = false) : task.report? bucket = none := by
  cases task with
  | call made => cases made <;> first | rfl | cases h
  | _ => rfl

theorem reportsDue_of_not_isReport (h : ∀ task ∈ tasks, task.isReport = false) :
    reportsDue bucket tasks = [] :=
  List.filterMap_eq_nil_iff.2 fun task hm => Task.report?_of_not_isReport (h task hm)

theorem reportsDue_append (bucket : String) (next tasks : List Task) :
    reportsDue bucket (next ++ tasks) = reportsDue bucket next ++ reportsDue bucket tasks :=
  List.filterMap_append

theorem reportsDue_cons (h : task.isReport = false) (bucket : String) (tasks : List Task) :
    reportsDue bucket (task :: tasks) = reportsDue bucket tasks :=
  List.filterMap_cons_none (Task.report?_of_not_isReport h)

/-- The reports of a shard are all its diagnostics, for its own bucket. -/
theorem reportsDue_reports {shard : Shard} (h : shard.IsOwn) (bucket : String) :
    reportsDue bucket (Desk.reports shard) =
      if shard.bucket = bucket then shard.diagnostics else [] := by
  unfold Shard.IsOwn at h
  unfold Desk.reports
  generalize shard.diagnostics = diagnostics at h ⊢
  induction diagnostics with
  | nil => simp [reportsDue]
  | cons first rest ih =>
    have alone : reportsDue bucket [.call (.diagnostic first), .guard] =
        if first.bucket = bucket then [first] else [] := by
      by_cases hb : first.bucket = bucket <;>
        simp [reportsDue, Task.report?, Call.report?, hb]
    rw [List.flatMap_cons, reportsDue_append, alone, h first List.mem_cons_self,
      ih fun diagnostic hm => h diagnostic (List.mem_cons_of_mem _ hm)]
    split <;> rfl

/-! ## What faults leave alone -/

/-- Whether faults leave all reports alone: nothing but a guard stands right on top of one. -/
def Contained (tasks : List Task) : Prop :=
  tasks.IsChain fun upper lower => lower.isReport = true → upper = .guard

theorem contained_of_not_isReport (h : ∀ task ∈ tasks, task.isReport = false) :
    Contained tasks := by
  apply (List.pairwise_of_forall_mem_list _).isChain
  intro upper _ lower hm hr
  rw [h lower hm] at hr
  cases hr

theorem contained_reports (shard : Shard) (number : Nat) (ending : Ending) :
    Contained (Desk.reports shard ++ [.finish number ending]) := by
  unfold Desk.reports
  induction shard.diagnostics with
  | nil => exact .singleton _
  | cons first rest ih => exact .cons_cons nofun (.cons ih fun _ _ _ => rfl)

/-- What comes of a task stays contained on top of the others. -/
theorem Contained.append (h : Contained (task :: tasks)) (hn : Contained next)
    (hg : task = .guard → next = []) : Contained (next ++ tasks) := by
  refine List.IsChain.append hn h.tail fun last hl under hu hr => ?_
  rw [hg (h.rel_head? hu hr)] at hl
  cases hl

/-- A fault takes no report away. -/
theorem Contained.unwind {fault : Fault} (h : Contained (task :: tasks)) (ht : task ≠ .guard) :
    Contained (unwind fault tasks).1 ∧
      ∀ bucket, reportsDue bucket (unwind fault tasks).1 = reportsDue bucket tasks := by
  fun_induction SymbolLookup.unwind fault tasks generalizing task with
  | case1 => exact ⟨.nil, fun _ => rfl⟩
  | case2 rest => exact ⟨h.tail.tail, fun bucket => (reportsDue_cons rfl bucket rest).symm⟩
  | case3 number result rest =>
    refine ⟨h.tail.tail.cons fun under hu hr => ?_, fun bucket => ?_⟩
    · cases h.tail.rel_head? hu hr
    · rw [reportsDue_cons rfl, reportsDue_cons rfl]
  | case4 other rest hg hc ih =>
    -- the fault passes this task, which therefore has no guard on top of it
    have loose : other.isReport = false := by
      rw [← Bool.not_eq_true]
      exact fun hr => ht (h.rel hr)
    obtain ⟨contained, due⟩ := ih h.tail fun he => hg he
    exact ⟨contained, fun bucket => (due bucket).trans (reportsDue_cons loose bucket rest).symm⟩

end Stack

/-! ## Moves -/

/-- A task that is no report tells the host of no document. -/
theorem Move.reported_eq {desk after : Desk} {task : Task} {next : List Task}
    (h : Move desk task after next) (hr : task.isReport = false) :
    after.reported = desk.reported := by
  funext bucket
  obtain ⟨call, rfl, he⟩ | ⟨done, he, hn⟩ := h.event_cases
  · have silent : call.report? bucket = none := Task.report?_of_not_isReport hr
    simp [Desk.reported, he, Event.report?, silent]
  · have silent : done.filterMap (·.report? bucket) = [] := by
      rw [List.filterMap_eq_nil_iff]
      intro event hm
      cases event with
      | called call => exact absurd hm (hn call)
      | _ => rfl
    rw [Desk.reported, he, List.filterMap_append, silent, List.append_nil, Desk.reported]

/-- Only loads bring forth reports. -/
theorem Move.not_isReport {desk after : Desk} {task : Task} {next : List Task}
    (h : Move desk task after next) (hl : ∀ number, task ≠ .load number) :
    ∀ first ∈ next, first.isReport = false := by
  intro first hm
  rw [← Bool.not_eq_true]
  intro hr
  cases h.yields hm with
  | report => exact hl _ rfl
  | _ => cases hr

/-- What a move does about reports: it makes one, or keeps a shard whose reports are due, or does
nothing about them. -/
theorem Move.report_cases {desk after : Desk} {task : Task} {next : List Task}
    (h : Move desk task after next) :
    (∃ diagnostic, task = .call (.diagnostic diagnostic) ∧
        after.events = desk.events ++ [.called (.diagnostic diagnostic)] ∧
        after.cache = desk.cache ∧ ∀ first ∈ next, first.isReport = false) ∨
      (∃ number load shard, task = .load number ∧ desk.cache.loads[number]? = some load ∧
        load.ending = none ∧ (desk.fetch load.bucket).1 = .ok shard ∧
        after.reported = desk.reported ∧ after.cache = desk.cache.keep shard ∧
        next = Desk.reports shard ++ [.finish number (.shard shard)]) ∨
      task.isReport = false ∧ after.reported = desk.reported ∧
        after.cache.shards = desk.cache.shards ∧ ∀ first ∈ next, first.isReport = false := by
  have told := h.reported_eq
  have plain := h.not_isReport
  have other (hr : task.isReport = false) (hl : ∀ number, task ≠ .load number)
      (hs : after.cache.shards = desk.cache.shards) : task.isReport = false ∧
        after.reported = desk.reported ∧ after.cache.shards = desk.cache.shards ∧
        ∀ first ∈ next, first.isReport = false :=
    ⟨hr, told hr, hs, plain hl⟩
  have loose {call : Call} (hc : ∀ diagnostic, call ≠ .diagnostic diagnostic) :
      (Task.call call).isReport = false := by
    cases call with
    | diagnostic found => exact absurd rfl (hc found)
    | _ => rfl
  cases h with
  | callDiagnostic => exact .inl ⟨_, rfl, rfl, rfl, plain nofun⟩
  | load hl he hf => exact .inr (.inl ⟨_, _, _, rfl, hl, he, hf, told rfl, rfl, rfl⟩)
  | loadLeft | loadFailed => exact .inr (.inr ⟨rfl, told rfl, rfl, by simp [Task.isReport]⟩)
  | loadSkipped => exact .inr (.inr ⟨rfl, told rfl, rfl, nofun⟩)
  | call hc | callUnheard hc => exact .inr (.inr (other (loose hc) nofun rfl))
  | lookEnded _ hr => exact .inr (.inr (other rfl nofun (Cache.shards_requestAll hr)))
  | lookWaits _ hr =>
    refine .inr (.inr (other rfl nofun ?_))
    exact (Cache.awaitFrame_await _ _).shards.trans (Cache.shards_requestAll hr)
  | _ => exact .inr (.inr (other rfl nofun rfl))

/-- What comes of a move is contained again. -/
theorem Move.contained {desk after : Desk} {task : Task} {next tasks : List Task}
    (h : Move desk task after next) (hc : Contained (task :: tasks)) :
    Contained (next ++ tasks) := by
  apply hc.append
  · obtain ⟨_, -, -, -, hn⟩ | ⟨_, _, _, -, -, -, -, -, -, rfl⟩ | ⟨-, -, -, hn⟩ := h.report_cases
    · exact contained_of_not_isReport hn
    · exact contained_reports _ _ _
    · exact contained_of_not_isReport hn
  · rintro rfl
    cases h
    rfl

/-! ## The account -/

theorem Cache.diagnosticsOf_keep (cache : Cache) (shard : Shard) (bucket : String) :
    (cache.keep shard).diagnosticsOf bucket =
      if shard.bucket = bucket then shard.diagnostics else cache.diagnosticsOf bucket := by
  rw [diagnosticsOf, keep]
  split
  · subst bucket
    rw [Keyed.get?_put_self]
    rfl
  · rw [Keyed.get?_put_of_ne (Ne.symm ‹_›)]
    rfl

theorem Cache.diagnosticsOf_eq_nil {cache : Cache} {bucket : String}
    (h : Keyed.get? bucket cache.shards = none) : cache.diagnosticsOf bucket = [] := by
  rw [diagnosticsOf, h]
  rfl

theorem Cache.diagnosticsOf_congr {cache other : Cache} (h : cache.shards = other.shards) :
    cache.diagnosticsOf = other.diagnosticsOf := by
  funext bucket
  rw [diagnosticsOf, h, diagnosticsOf]

/-- Whether what the host of a desk was told of the documents and what it is still to be told are
just what is wrong with them. -/
structure Agenda.ReportsAll (agenda : Agenda) : Prop where
  contained : Contained agenda.tasks
  balanced : ∀ bucket, agenda.desk.reported bucket ++ reportsDue bucket agenda.tasks =
    agenda.desk.cache.diagnosticsOf bucket

/-- Whether the load whose turn it is, if there is one, is of a bucket that is not kept. -/
def Agenda.LoadsNew (agenda : Agenda) : Prop :=
  ∀ number load, agenda.tasks.head? = some (.load number) →
    agenda.desk.cache.loads[number]? = some load → load.ending = none →
    Keyed.get? load.bucket agenda.desk.cache.shards = none

theorem Move.balanced {desk after : Desk} {task : Task} {next tasks : List Task}
    {escaped : Option Fault} (h : Move desk task after next)
    (hn : Agenda.LoadsNew ⟨desk, task :: tasks, escaped⟩) (bucket : String)
    (hb : desk.reported bucket ++ reportsDue bucket (task :: tasks) =
      desk.cache.diagnosticsOf bucket) :
    after.reported bucket ++ reportsDue bucket (next ++ tasks) =
      after.cache.diagnosticsOf bucket := by
  rw [reportsDue_append]
  obtain ⟨diagnostic, rfl, he, hc, hs⟩ | ⟨number, load, shard, rfl, hl, ho, hf, ht, hc, rfl⟩ |
    ⟨hr, ht, hc, hs⟩ := h.report_cases
  · -- what was due first is told now
    rw [reportsDue_of_not_isReport hs, List.nil_append, hc, ← hb, Desk.reported, he,
      List.filterMap_append, List.append_assoc, Desk.reported]
    refine congrArg _ ?_
    cases hd : Call.report? bucket (.diagnostic diagnostic) <;>
      simp [reportsDue, Event.report?, Task.report?, hd]
  · -- nothing was told of the bucket before, and nothing is due
    have own : shard.bucket = load.bucket := Desk.bucket_of_fetch hf
    have unkept : desk.cache.diagnosticsOf load.bucket = [] :=
      Cache.diagnosticsOf_eq_nil (hn number load rfl hl ho)
    rw [reportsDue_cons rfl] at hb
    rw [reportsDue_append, reportsDue_reports (Desk.isOwn_of_fetch hf), ht, hc,
      Cache.diagnosticsOf_keep, reportsDue_cons rfl, reportsDue, List.filterMap_nil,
      List.append_nil]
    split
    · rw [← own, ‹shard.bucket = bucket›] at unkept
      obtain ⟨told, due⟩ := List.append_eq_nil_iff.1 (hb.trans unkept)
      rw [told, due, List.nil_append, List.append_nil]
    · exact hb
  · rw [reportsDue_of_not_isReport hs, List.nil_append, ht, Cache.diagnosticsOf_congr hc, ← hb,
      reportsDue_cons hr]

/-- Every step keeps the account. -/
theorem Agenda.Step.reportsAll {agenda after : Agenda} (h : agenda.Step after)
    (hn : agenda.LoadsNew) (ha : agenda.ReportsAll) : after.ReportsAll := by
  cases h with
  | move hm =>
    exact ⟨hm.contained ha.contained, fun bucket => hm.balanced hn bucket (ha.balanced bucket)⟩
  | @raise desk fault tasks =>
    obtain ⟨contained, due⟩ : Contained (unwind fault tasks).1 ∧ ∀ bucket,
        reportsDue bucket (unwind fault tasks).1 = reportsDue bucket tasks :=
      ha.contained.unwind nofun
    refine ⟨contained, fun bucket => ?_⟩
    rw [due]
    exact ha.balanced bucket

/-- A deed begins without reports. -/
theorem Begins.reportsAll {agenda after : Agenda} (h : Begins agenda.desk after)
    (rests : agenda.tasks = []) (ha : agenda.ReportsAll) : after.ReportsAll := by
  have plain : ∀ task ∈ after.tasks, task.isReport = false := by
    intro task hm
    obtain ⟨_, _, _, rfl⟩ | ⟨_, rfl⟩ | rfl | ⟨_, rfl⟩ | ⟨_, rfl⟩ := h.mem_tasks hm <;> rfl
  refine ⟨contained_of_not_isReport plain, fun bucket => ?_⟩
  rw [reportsDue_of_not_isReport plain, List.append_nil]
  have balanced := ha.balanced bucket
  rw [rests, reportsDue, List.filterMap_nil, List.append_nil] at balanced
  cases h with
  | ask hr =>
    have shards := Cache.diagnosticsOf_congr (Cache.shards_requestAll hr)
    exact balanced.trans (congrFun shards bucket).symm
  | _ => exact balanced

/-! ## Traffic -/

namespace Traffic

variable {agenda : Agenda} {past : List Agenda}

/-- The load whose turn it is brings a bucket that is not kept. -/
theorem loadsNew (h : Traffic (agenda :: past)) : agenda.LoadsNew := by
  intro number load hh hl he
  obtain ⟨tasks, ht⟩ : ∃ tasks, agenda.tasks = .load number :: tasks := List.head?_eq_some_iff.1 hh
  have sound := h.leadsTo.sound
  have idle (other : Nat) : agenda.depot.work.head?.bind (Task.ending? other) = none := by
    rw [Agenda.depot, ht]
    rfl
  have flies := (sound.flies load.bucket number).2 ⟨_, Depot.fate_of_open idle hl he, rfl, rfl⟩
  exact Option.eq_none_iff_forall_ne_some.2 fun _ => sound.apart flies

theorem reportsAll {course : List Agenda} (h : Traffic course) :
    ∀ agenda ∈ course.head?, agenda.ReportsAll := by
  induction h with
  | opened h =>
    obtain ⟨index, mode, partition, rules, rfl⟩ := Desk.eq_of_ofSupply h
    rintro _ ⟨⟩
    exact ⟨.nil, fun _ => rfl⟩
  | worked h step ih =>
    rintro _ ⟨⟩
    exact (Agenda.step_of_step? step).reportsAll h.loadsNew (ih _ rfl)
  | tookUp _ rests deed ih =>
    rintro _ ⟨⟩
    exact (Desk.begins_takeUp _ deed).reportsAll rests (ih _ rfl)
  | asked _ hr ih =>
    rintro _ ⟨⟩
    obtain ⟨contained, balanced⟩ := ih _ rfl
    have shards := Cache.diagnosticsOf_congr (Cache.shards_requestAll hr)
    exact ⟨contained, fun bucket => (balanced bucket).trans (congrFun shards bucket).symm⟩

end Traffic

/-- Whether nothing is under way but loads whose turns are to come. -/
def Agenda.IsBetweenTurns (agenda : Agenda) : Prop :=
  ∀ task ∈ agenda.tasks, task = .drain ∨ ∃ number, task = .load number

/-- The host of a desk is told nothing of a bucket that is not kept, and nothing of one that is kept
but what is wrong with its document, in order; and between the turns of loads it was told all. -/
theorem Traffic.reports_once {agenda : Agenda} {past : List Agenda} (h : Traffic (agenda :: past))
    (bucket : String) :
    match Keyed.get? bucket agenda.desk.cache.shards with
    | none => agenda.desk.reported bucket = []
    | some shard => agenda.desk.reported bucket <+: shard.diagnostics ∧
        (agenda.IsBetweenTurns → agenda.desk.reported bucket = shard.diagnostics) := by
  have balanced := (h.reportsAll agenda rfl).balanced bucket
  split
  · rename_i unkept
    rw [Cache.diagnosticsOf_eq_nil unkept] at balanced
    exact (List.append_eq_nil_iff.1 balanced).1
  · rename_i shard kept
    rw [Cache.diagnosticsOf, kept] at balanced
    refine ⟨⟨_, balanced⟩, fun between => ?_⟩
    have plain : ∀ task ∈ agenda.tasks, task.isReport = false := by
      intro task hm
      obtain rfl | ⟨_, rfl⟩ := between task hm <;> rfl
    rwa [reportsDue_of_not_isReport plain, List.append_nil] at balanced

/-- A document that could not be fetched at first has three parts that are no records. When the host
is told of them it fails, types a query and types another one and fails, and is told of all. -/
theorem Traffic.reports_once_of_faults :
    let rules : List Rule := [{ on := .diagnostic, raises := some "first" },
      { on := .diagnostic, nth := 2, submits := some "a" },
      { on := .diagnostic, nth := 3, submits := some "b", raises := some "third" }]
    let supply : Supply :=
      { source := .memory [("symbols_0", "[1, [\"alpha\", [\"A\", \"a.html\"]], 2, 3]")] []
        outages := [⟨"symbols_0", .unreachable "no route", some 1⟩] }
    let course := goThrough 60 ({ desk := { Desk.sample with rules }, tasks := [] }, [])
      [.openSession {}, .restock supply, .type 0 (some "al") none, .drain, .ask ["symbols_0"],
        .drain, .ask ["symbols_0"], .type 0 (some "alp") none, .drain]
    course.1.tasks = [] ∧ course.1.desk.rules = [] ∧ ∃ shard,
      Keyed.get? "symbols_0" course.1.desk.cache.shards = some shard ∧
      shard.diagnostics.length = 3 ∧ course.1.desk.reported "symbols_0" = shard.diagnostics := by
  intro rules supply course
  have h : Course (course.1 :: course.2) :=
    (Course.opened (Desk.ofSupply_sample rules)).goesThrough 60 _
  have rests : course.1.tasks = [] := by decide +kernel
  have spent : course.1.desk.rules = [] := by decide +kernel
  have length : (Keyed.get? "symbols_0" course.1.desk.cache.shards).map
      (·.diagnostics.length) = some 3 := by decide +kernel
  clear_value course
  obtain ⟨shard, kept, length⟩ := Option.map_eq_some_iff.1 length
  have told := h.traffic.reports_once "symbols_0"
  rw [kept] at told
  have between : course.1.IsBetweenTurns := by rw [Agenda.IsBetweenTurns, rests]; exact nofun
  exact ⟨rests, spent, shard, kept, length, told.2 between⟩

end SymbolLookup

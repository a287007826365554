import SymbolLookup.Desk.Service
/-!
# Courses of a desk

What can become of a desk, deed by deed and task by task.

## Main definitions

* `Deed`: what hosts may do with a desk at rest.
* `Desk.takeUp`: the agenda with which a desk begins a deed.
* `Course`: the agendas that a desk went through since it was opened.
* `Desk.LeadsTo`: whether one desk at rest can become another.
* `goOn`, `goThrough`: courses that are computed.

## Main results

* `Course.run`: an agenda comes to rest.
* `Desk.search_leadsTo` and its like: whatever a desk does for its hosts is a row of deeds.

## Design notes

A host does one deed at a time and waits for its end. What a host does while it is called is no
deed: the rules of the host tell it, and it is among the tasks. Waiting for shards is a row of
deeds: the held loads get their turns, the buckets are asked for, and their loads get their turns.
-/

namespace SymbolLookup

/-- What hosts may do with a desk at rest. -/
inductive Deed where
  | openSession (opening : SessionOpening)
  /-- Type a query into a session. -/
  | type (session : Nat) (query : Option String) (followUp : Option FollowUp)
  /-- Ask for some buckets without waiting for them. -/
  | ask (buckets : List String)
  /-- Give the held load of a bucket its turn. -/
  | runHeld (bucket : String)
  /-- Give all held loads their turns. -/
  | drain
  /-- Cancel the held load of a bucket. -/
  | cancelLoad (bucket : String)
  /-- Cancel the outcome of a query. -/
  | cancelOutcome (number : Nat)
  /-- Change the source beneath the desk, or what befalls it. -/
  | restock (supply : Supply)
  /-- Take no further loads, and give those that are held their turns. -/
  | close

/-- The agenda with which a desk begins a deed. -/
def Desk.takeUp (desk : Desk) : Deed → Agenda
  | .openSession opening => { desk := (desk.openSession opening).2, tasks := [] }
  | .type session query followUp => { desk, tasks := [.submit session query followUp] }
  | .ask buckets =>
    match desk.cache.requestAll buckets with
    | .error _ => { desk, tasks := [] }
    | .ok (_, cache) => { desk := { desk with cache }, tasks := [] }
  | .runHeld bucket =>
    match desk.cache.heldLoad? bucket with
    | none => { desk, tasks := [] }
    | some number =>
      let held := desk.cache.held.erase number
      { desk := { desk with cache := { desk.cache with held } }, tasks := [.load number] }
  | .drain => { desk, tasks := [.drain] }
  | .cancelLoad bucket =>
    match desk.cache.heldLoad? bucket with
    | none => { desk, tasks := [] }
    | some number =>
      if (desk.cache.ending? (.load number)).isSome then { desk, tasks := [] }
      else { desk, tasks := [.finish number .cancelled] }
  | .cancelOutcome number =>
    { desk, tasks := if desk.isOwed number then [.resolve number .cancelled] else [] }
  | .restock supply => { desk := { desk with supply }, tasks := [] }
  | .close =>
    { desk := { desk with cache := { desk.cache with isOpen := false } }, tasks := [.drain] }

/-- The agendas that a desk went through since it was opened, the latest first. -/
inductive Course : List Agenda → Prop where
  /-- A desk that was just opened has nothing to do. -/
  | opened {supply : Supply} {opening : Opening} {desk : Desk}
      (h : Desk.ofSupply supply opening = .ok desk) : Course [{ desk, tasks := [] }]
  /-- The next task was done. -/
  | worked {agenda after : Agenda} {past : List Agenda} (h : Course (agenda :: past))
      (step : agenda.step? = some after) : Course (after :: agenda :: past)
  /-- A host began a deed when nothing was left to do. -/
  | tookUp {agenda : Agenda} {past : List Agenda} (h : Course (agenda :: past))
      (rests : agenda.tasks = []) (deed : Deed) : Course (agenda.desk.takeUp deed :: agenda :: past)

/-- What was gone through before is a course as well. -/
theorem Course.tail {agenda before : Agenda} {past : List Agenda}
    (h : Course (agenda :: before :: past)) : Course (before :: past) := by
  cases h with
  | worked h _ => exact h
  | tookUp h _ _ => exact h

theorem Course.drop {later past : List Agenda} {agenda : Agenda}
    (h : Course (later ++ agenda :: past)) : Course (agenda :: past) := by
  induction later with
  | nil => exact h
  | cons first later ih =>
    cases later with
    | nil => exact h.tail
    | cons second later => exact ih h.tail

/-- A desk that was just opened has no sessions and owes nothing, and nothing has happened. -/
theorem Desk.eq_of_ofSupply {supply : Supply} {opening : Opening} {desk : Desk}
    (h : Desk.ofSupply supply opening = .ok desk) :
    ∃ index mode partition rules, desk =
      { supply, index, mode, partition, rules, interpreter := opening.interpreter } := by
  unfold Desk.ofSupply at h
  simp only [bind, Except.bind, pure, Except.pure, throw, throwThe, MonadExceptOf.throw] at h
  repeat' split at h
  all_goals first | cases h; exact ⟨_, _, _, _, rfl⟩ | cases h

/-- An agenda comes to rest. -/
theorem Course.run {agenda : Agenda} {past : List Agenda} (h : Course (agenda :: past)) :
    ∃ earlier, Course (agenda.run :: earlier) ∧ agenda :: past <:+ agenda.run :: earlier := by
  fun_induction Agenda.run agenda generalizing past with
  | case1 agenda _ => exact ⟨past, h, List.suffix_rfl⟩
  | case2 agenda after step _ ih =>
    obtain ⟨earlier, hc, hs⟩ := ih (h.worked step)
    exact ⟨earlier, hc, (List.suffix_cons after _).trans hs⟩

/-! ## What a desk does for its hosts -/

/-- Whether a desk at rest can become another: every course of the one goes on to the other. -/
def Desk.LeadsTo (desk after : Desk) : Prop :=
  ∀ (agenda : Agenda) (past : List Agenda), Course (agenda :: past) → agenda.tasks = [] →
    agenda.desk = desk → ∃ last earlier, Course (last :: earlier) ∧ last.tasks = [] ∧
      last.desk = after ∧ agenda :: past <:+ last :: earlier

namespace Desk

theorem LeadsTo.refl (desk : Desk) : desk.LeadsTo desk :=
  fun _ _ h rests eq => ⟨_, _, h, rests, eq, List.suffix_rfl⟩

theorem LeadsTo.trans {desk middle after : Desk} (first : desk.LeadsTo middle)
    (second : middle.LeadsTo after) : desk.LeadsTo after := by
  intro agenda past h rests eq
  obtain ⟨last, earlier, hc, hr, he, hs⟩ := first _ _ h rests eq
  obtain ⟨last', earlier', hc', hr', he', hs'⟩ := second _ _ hc hr he
  exact ⟨last', earlier', hc', hr', he', hs.trans hs'⟩

/-- A desk becomes what is left when it has come to the end of a deed. -/
theorem leadsTo_takeUp (desk : Desk) (deed : Deed) :
    desk.LeadsTo (desk.takeUp deed).run.desk := by
  rintro agenda past h rests rfl
  obtain ⟨earlier, hc, hs⟩ := (h.tookUp rests deed).run
  exact ⟨_, earlier, hc, Agenda.tasks_run _, rfl, (List.suffix_cons _ _).trans hs⟩

/-- An agenda without tasks stays as it is. -/
theorem run_nil (desk : Desk) : Agenda.run { desk, tasks := [] } = { desk, tasks := [] } :=
  Agenda.run_of_none rfl

theorem drained_leadsTo (desk : Desk) : desk.LeadsTo desk.drained :=
  desk.leadsTo_takeUp .drain

theorem type_leadsTo (desk : Desk) (session : Nat) (query : Option String)
    (followUp : Option FollowUp) : desk.LeadsTo (desk.type session query followUp).2 := by
  have h := desk.leadsTo_takeUp (.type session query followUp)
  unfold type run
  cases he : (Agenda.run { desk, tasks := [.submit session query followUp] }).escaped <;>
    simpa [he, takeUp] using h

theorem openSession_leadsTo (desk : Desk) (opening : SessionOpening) :
    desk.LeadsTo (desk.openSession opening).2 := by
  simpa [takeUp, run_nil] using desk.leadsTo_takeUp (.openSession opening)

theorem restock_leadsTo (desk : Desk) (supply : Supply) : desk.LeadsTo { desk with supply } := by
  simpa [takeUp, run_nil] using desk.leadsTo_takeUp (.restock supply)

/-- Asking for buckets is a deed. -/
theorem requestAll_leadsTo {desk : Desk} {buckets : List String}
    {fetched : List (String × Fetched)} {cache : Cache}
    (h : desk.cache.requestAll buckets = .ok (fetched, cache)) :
    desk.LeadsTo { desk with cache } := by
  simpa [takeUp, h, run_nil] using desk.leadsTo_takeUp (.ask buckets)

theorem request_leadsTo (desk : Desk) (buckets : List String) :
    desk.LeadsTo (desk.request buckets).2 := by
  unfold request
  repeat' split
  · exact .refl desk
  · exact .refl desk
  · exact requestAll_leadsTo ‹_›

theorem runHeld_leadsTo (desk : Desk) (bucket : String) :
    desk.LeadsTo (desk.runHeld bucket).2 := by
  have h := desk.leadsTo_takeUp (.runHeld bucket)
  unfold runHeld
  split
  · exact .refl desk
  · rename_i number hn
    simpa [takeUp, hn, run] using h

theorem cancelLoad_leadsTo (desk : Desk) (bucket : String) :
    desk.LeadsTo (desk.cancelLoad bucket).2 := by
  have h := desk.leadsTo_takeUp (.cancelLoad bucket)
  unfold cancelLoad
  split
  · exact .refl desk
  · rename_i number hn
    split
    · exact .refl desk
    · rename_i he
      simpa [takeUp, hn, he, run] using h

theorem cancelOutcome_leadsTo {desk : Desk} {number : Nat} {outcome : Outcome}
    (ho : desk.outcomes[number]? = some outcome) :
    desk.LeadsTo (desk.cancelOutcome number outcome).2 := by
  have h := desk.leadsTo_takeUp (.cancelOutcome number)
  unfold cancelOutcome
  split
  · rename_i ha
    simpa [takeUp, isOwed, ho, ha, run] using h
  · exact .refl desk

theorem obtain_leadsTo (desk : Desk) (buckets : List String) :
    desk.LeadsTo (desk.obtain buckets).2 := by
  unfold Desk.obtain
  split
  · exact .refl desk
  · rename_i fetched cache h
    have hd : desk.LeadsTo ({ desk with cache }).drained :=
      (requestAll_leadsTo h).trans (drained_leadsTo _)
    simp only
    split <;> exact hd

theorem gather_leadsTo (desk : Desk) (buckets : List String) :
    desk.LeadsTo (desk.gather buckets).2 := by
  have h := desk.obtain_leadsTo buckets.eraseDups
  unfold gather
  split
  · exact .refl desk
  · split <;> simp_all

theorem poised_leadsTo (desk : Desk) (turns : Turns) : desk.LeadsTo (desk.poised turns) :=
  match turns with
  | .first => drained_leadsTo desk
  | .joined => .refl desk

theorem shard_leadsTo (desk : Desk) (bucket : String) (turns : Turns) :
    desk.LeadsTo (desk.shard bucket turns).2 := by
  have h := (poised_leadsTo desk turns).trans (obtain_leadsTo _ [bucket])
  unfold shard
  split
  · exact .refl desk
  · split <;> simp_all

theorem gatherFrom_leadsTo (desk : Desk) (choose : List String → List String) (turns : Turns) :
    desk.LeadsTo (desk.gatherFrom choose turns).2 := by
  unfold gatherFrom
  split
  · exact .refl desk
  · simp only
    split
    · exact poised_leadsTo desk turns
    · rename_i buckets _
      have h := (poised_leadsTo desk turns).trans (obtain_leadsTo _ (choose buckets))
      split <;> simp_all

theorem preload_leadsTo (desk : Desk) (turns : Turns) : desk.LeadsTo (desk.preload turns).2 :=
  desk.gatherFrom_leadsTo id turns

theorem search_leadsTo (desk : Desk) (query : Option String) (limit : Option Amount)
    (turns : Turns) : desk.LeadsTo (desk.search query limit turns).2 := by
  unfold search
  exact desk.gatherFrom_leadsTo _ turns

theorem shutDown_leadsTo (desk : Desk) : desk.LeadsTo desk.shutDown := by
  have h := desk.leadsTo_takeUp .close
  unfold shutDown
  split
  · exact h.trans (restock_leadsTo _ _)
  · exact .refl desk

end Desk

/-! ## Courses that are computed -/

/-- An agenda with those before it, at most so many steps later. -/
def goOn : Nat → Agenda × List Agenda → Agenda × List Agenda
  | 0, course => course
  | steps + 1, course =>
    match course.1.step? with
    | none => course
    | some after => goOn steps (after, course.1 :: course.2)

/-- An agenda with those before it, after some deeds of at most so many steps each. -/
def goThrough (steps : Nat) (course : Agenda × List Agenda) : List Deed → Agenda × List Agenda
  | [] => course
  | deed :: deeds =>
    if course.1.tasks.isEmpty then
      let begun := (course.1.desk.takeUp deed, course.1 :: course.2)
      goThrough steps (goOn steps begun) deeds
    else course

/-- Tasks that are all done within so many steps are done so. -/
theorem Agenda.run_eq_goOn (steps : Nat) {agenda : Agenda} {past : List Agenda}
    (h : (goOn steps (agenda, past)).1.tasks = []) :
    agenda.run = (goOn steps (agenda, past)).1 := by
  have rests (agenda : Agenda) (hr : agenda.tasks = []) : agenda.run = agenda :=
    run_of_none (by rw [step?, hr])
  induction steps generalizing agenda past with
  | zero => exact rests agenda h
  | succ steps ih =>
    cases hs : agenda.step? with
    | none =>
      simp only [goOn, hs] at h ⊢
      exact run_of_none hs
    | some after =>
      simp only [goOn, hs] at h ⊢
      rw [run_of_some hs, ih h]

theorem Desk.run_eq_goOn (steps : Nat) {desk : Desk} {tasks : List Task}
    (h : (goOn steps ({ desk, tasks }, [])).1.tasks = []) :
    desk.run tasks = ((goOn steps ({ desk, tasks }, [])).1.desk,
      (goOn steps ({ desk, tasks }, [])).1.escaped) := by
  rw [run, Agenda.run_eq_goOn steps h]

/-- What was gone through before is behind what is gone through later. -/
theorem goOn_suffix (steps : Nat) (course : Agenda × List Agenda) : ∃ future,
    (goOn steps course).1 :: (goOn steps course).2 = future ++ course.1 :: course.2 := by
  fun_induction goOn steps course with
  | case1 course => exact ⟨[], rfl⟩
  | case2 => exact ⟨[], rfl⟩
  | case3 course steps after hs ih =>
    obtain ⟨future, he⟩ := ih
    exact ⟨future ++ [after], by rw [he, List.append_assoc]; rfl⟩

theorem Course.goesOn {course : Agenda × List Agenda} (h : Course (course.1 :: course.2))
    (steps : Nat) : Course ((goOn steps course).1 :: (goOn steps course).2) := by
  fun_induction goOn steps course with
  | case1 => exact h
  | case2 => exact h
  | case3 course steps after hs ih => exact ih (h.worked hs)

theorem Course.goesThrough {course : Agenda × List Agenda} (h : Course (course.1 :: course.2))
    (steps : Nat) (deeds : List Deed) :
    Course ((goThrough steps course deeds).1 :: (goThrough steps course deeds).2) := by
  fun_induction goThrough steps course deeds with
  | case1 => exact h
  | case2 course deed deeds hr begun ih =>
    exact ih (Course.goesOn (h.tookUp (List.isEmpty_iff.1 hr) deed) steps)
  | case3 => exact h

/-- One bucket that holds one symbol. -/
def sampleDocuments : List (String × String) :=
  [("symbols_0", "[[\"alpha\", [\"A\", \"a.html\"]]]")]

/-- A desk over the bucket. -/
def Desk.sample : Desk :=
  { supply := { source := .memory sampleDocuments [] }, index := "symbols", mode := .anywhere
    partition := { index := "symbols" } }

/-- The symbol that the bucket holds. -/
def Group.sample : Group :=
  { name := "alpha", sortKey := "alpha"
    occurrences := [{ name := "alpha", label := "A", anchor := { path := "a.html" }
                      position := 0, inFrame := true }] }

/-- What a sample desk goes through in some deeds. -/
def sampleCourse (deeds : List Deed) : Agenda × List Agenda :=
  goThrough 60 ({ desk := .sample, tasks := [] }, []) deeds

/-- A source of one bucket has one index. -/
theorem Source.indexes_single (document : String) :
    (Source.memory [("symbols_0", document)] []).indexes = .ok ["symbols"] := by
  have named : Keyed.keys [("symbols_0", document)] = ["symbols_0"] := rfl
  have parsed : BucketId.parse "symbols_0" = .ok ⟨"symbols", 0⟩ := by rfl
  simp only [Source.indexes, indexesOf, named, parsed, List.mapM_cons, List.mapM_nil]
  exact congrArg Except.ok (List.mergeSort_singleton "symbols")

theorem Source.bucketIds_single (document : String) :
    (Source.memory [("symbols_0", document)] []).bucketIds "symbols" = .ok ["symbols_0"] := by
  have named : Keyed.keys [("symbols_0", document)] = ["symbols_0"] := rfl
  have parsed : BucketId.parse "symbols_0" = .ok ⟨"symbols", 0⟩ := by rfl
  simp only [Source.bucketIds, bucketsOf, named, parsed, List.mapM_cons, List.mapM_nil]
  exact congrArg Except.ok (List.mergeSort_singleton "symbols_0")

theorem Source.bucketIds_sample :
    (Source.memory sampleDocuments []).bucketIds "symbols" = .ok ["symbols_0"] :=
  bucketIds_single _

/-- A desk over one bucket can be opened, whatever its host will do when it is called. -/
theorem Desk.ofSupply_single (document : String) (rules : List Rule) :
    Desk.ofSupply { source := .memory [("symbols_0", document)] [] } { index := "symbols", rules } =
      .ok { Desk.sample with
            supply := { source := .memory [("symbols_0", document)] [] }, rules } := by
  let supply : Supply := { source := .memory [("symbols_0", document)] [] }
  have indexes : supply.indexes = .ok ["symbols"] := Source.indexes_single document
  have buckets : supply.bucketIds "symbols" = .ok ["symbols_0"] := Source.bucketIds_single document
  have mode : Mode.check (orElse "" ({} : Settings).mode) = .ok .anywhere := by rfl
  have chosen : chooseIndex (orElse "symbols" ({} : Settings).index) ["symbols"] =
      .ok "symbols" := by rfl
  have partition : supply.partition "symbols" = .ok { index := "symbols" } := by rfl
  simp only [supply] at indexes buckets partition
  simp only [ofSupply, bind, Except.bind, mode, indexes, chosen, partition, buckets]
  rfl

theorem Desk.ofSupply_sample (rules : List Rule) :
    Desk.ofSupply Desk.sample.supply { index := "symbols", rules } =
      .ok { Desk.sample with rules } :=
  ofSupply_single _ rules

theorem Course.sample (deeds : List Deed) :
    Course ((sampleCourse deeds).1 :: (sampleCourse deeds).2) :=
  (Course.opened (Desk.ofSupply_sample [])).goesThrough 60 deeds

end SymbolLookup

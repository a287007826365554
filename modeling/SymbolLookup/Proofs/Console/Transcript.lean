import Mathlib.Data.List.DropRight
import Mathlib.Data.List.Infix
import SymbolLookup.Console.Run
import SymbolLookup.Proofs.Bundle.Equivalence
import SymbolLookup.Proofs.Console.Replying
import SymbolLookup.Proofs.Query.Matching
/-!
# Queries that are typed line by line

Whoever types a query line by line is shown what a search for all that is typed finds.

## Main definitions

* `heard`: the lines before the first empty one.
* `typedBy`: what is typed when some lines were.
* `transcript`: what is shown while lines are typed, if it is told how queries are answered.

## Main results

* `typeLines_eq`: what is shown while lines are typed is their transcript.
* `searchAt_agrees`: it is the transcript of the answers that searches give, and all of it is seen
  that the output has a form for.
* `searchAt_differs`: an output without a form for half a character ends the transcript, and buckets
  that are new since the session was opened are not in it.
-/

namespace SymbolLookup

/-! ## Desks that were opened -/

/-- What an opened desk was opened with. -/
theorem Desk.ofSupply_eq_ok {supply : Supply} {opening : Opening} {desk : Desk}
    (h : Desk.ofSupply supply opening = .ok desk) :
    desk.supply = supply ∧ desk.rules = opening.rules ∧
      supply.partition desk.index = .ok desk.partition := by
  unfold Desk.ofSupply at h
  simp only [bind, Except.bind, pure, Except.pure, throw, throwThe, MonadExceptOf.throw] at h
  repeat' split at h
  all_goals cases h
  exact ⟨rfl, rfl, ‹_›⟩

theorem Mode.check_name (mode : Mode) : Mode.check mode.name = .ok mode := by
  cases mode <;> decide +kernel

/-- While a desk works, its source and its sessions stay. -/
theorem Agenda.Step.keepsSource {agenda after : Agenda} (h : agenda.Step after) :
    after.desk.supply.source = agenda.desk.supply.source ∧
      after.desk.sessions.length = agenda.desk.sessions.length := by
  cases h with
  | move hm =>
    refine ⟨?_, hm.length_sessions⟩
    cases hm <;> rfl
  | raise => exact ⟨rfl, rfl⟩

theorem Desk.keeps_search (desk : Desk) (query : Option String) (limit : Option Amount)
    (turns : Turns) :
    (desk.search query limit turns).2.supply.source = desk.supply.source ∧
      (desk.search query limit turns).2.sessions.length = desk.sessions.length := by
  apply Desk.search_induction (p := fun after => after.supply.source = desk.supply.source ∧
    after.sessions.length = desk.sessions.length) ?_ (fun _ _ _ _ _ h => h) ⟨rfl, rfl⟩
  intro other h
  apply Agenda.run_induction (p := fun agenda =>
    agenda.desk.supply.source = desk.supply.source ∧
      agenda.desk.sessions.length = desk.sessions.length) ?_ ⟨other, [.drain], none⟩ h
  intro agenda after hs h
  have kept := (Agenda.step_of_step? hs).keepsSource
  exact ⟨kept.1.trans h.1, kept.2.trans h.2⟩

namespace Console

/-! ## Transcripts -/

/-- The lines that are heard: those before the first empty one. -/
def heard (lines : List String) : List String := lines.takeWhile fun line => line != ""

/-- What is typed when some lines were: the lines behind the last one that asks to forget what was
typed. -/
def typedBy (lines : List String) : String :=
  String.join (lines.rtakeWhile fun line => !isReset line)

/-- What is shown when the last of some lines was typed, if queries are answered like this. -/
def replyTo (echo : Bool) (reply : String → List Group) (lines : List String) : List Piece :=
  if lines.getLast?.any isReset then [.reset]
  else
    (if echo then [.echo (typedBy lines)] else []) ++
      if normalize (typedBy lines) = "" then [] else [.answer (reply (typedBy lines))]

/-- What is shown while lines are typed, if queries are answered like this: each line that is heard
is asked for and replied to, and then an empty line is read, or there are no more. -/
def transcript (echo : Bool) (reply : String → List Group) (lines : List String) : List Piece :=
  ((heard lines).inits.tail.flatMap fun soFar => .prompt :: replyTo echo reply soFar) ++
    .prompt :: if heard lines = lines then [.lineEnd] else []

theorem typedBy_concat (lines : List String) (line : String) :
    typedBy (lines ++ [line]) = if isReset line then "" else typedBy lines ++ line := by
  rw [typedBy, List.rtakeWhile_concat]
  cases isReset line <;> simp [typedBy]

theorem replyTo_concat (echo : Bool) (reply : String → List Group) (lines : List String)
    (line : String) : replyTo echo reply (lines ++ [line]) =
      if isReset line then [.reset]
      else
        (if echo then [.echo (typedBy lines ++ line)] else []) ++
          if normalize (typedBy lines ++ line) = "" then []
          else [.answer (reply (typedBy lines ++ line))] := by
  rw [replyTo, List.getLast?_concat, typedBy_concat, Option.any_some]
  cases isReset line <;> rfl

/-- The beginnings of some lines behind others. -/
theorem flatMap_inits_cons {β : Type} (line : String) (lines : List String)
    (shown : List String → List β) :
    (line :: lines).inits.tail.flatMap shown =
      shown [line] ++ lines.inits.tail.flatMap fun soFar => shown (line :: soFar) := by
  rw [List.inits_cons, List.tail_cons]
  cases lines with
  | nil => simp
  | cons next lines => simp [List.flatMap_map]

section Lines

variable {echo : Bool} {desk : Desk} {typed line : String} {lines : List String}

theorem typeLines_reset (he : line ≠ "") (hr : isReset line = true) :
    typeLines echo desk typed (line :: lines) = .prompt :: (typeQuery desk "").1 ++
      .reset :: typeLines echo (typeQuery desk "").2 "" lines := by
  rw [typeLines, if_neg he, if_pos hr]

theorem typeLines_line (he : line ≠ "") (hr : ¬isReset line = true) :
    typeLines echo desk typed (line :: lines) =
      .prompt :: (if echo then [.echo (typed ++ line)] else []) ++
        (typeQuery desk (typed ++ line)).1 ++
        typeLines echo (typeQuery desk (typed ++ line)).2 (typed ++ line) lines := by
  rw [typeLines, if_neg he, if_neg hr]

end Lines

variable {interpreter : Interpreter} {doc : String → Option String} {terms : Session} {desk : Desk}

/-- **What is shown while lines are typed** behind those that were typed before is what their
transcript tells. -/
theorem typeLines_eq (h : AtPrompt interpreter doc terms desk) (echo : Bool)
    (before lines : List String) :
    typeLines echo desk (typedBy before) lines =
      ((heard lines).inits.tail.flatMap fun soFar => .prompt ::
        replyTo echo (fun query => terms.reply interpreter doc (normalize query))
          (before ++ soFar)) ++
      .prompt :: if heard lines = lines then [.lineEnd] else [] := by
  induction lines generalizing desk before with
  | nil => rfl
  | cons line lines ih =>
    by_cases he : line = ""
    · subst he
      simp [typeLines, heard]
    · have hh : heard (line :: lines) = line :: heard lines := by simp [heard, he]
      have ended : (line :: heard lines = line :: lines) ↔ heard lines = lines := by simp
      rw [hh, flatMap_inits_cons, replyTo_concat, if_congr ended rfl rfl]
      by_cases hr : isReset line = true
      · have hq := typeQuery_eq h ""
        have typed : typedBy (before ++ [line]) = "" := by rw [typedBy_concat, if_pos hr]
        have goesOn := ih hq.2 (before ++ [line])
        rw [typed] at goesOn
        rw [typeLines_reset he hr, goesOn, hq.1, if_pos normalize_empty, if_pos hr]
        simp
      · have hq := typeQuery_eq h (typedBy before ++ line)
        have typed : typedBy (before ++ [line]) = typedBy before ++ line := by
          rw [typedBy_concat, if_neg hr]
        have goesOn := ih hq.2 (before ++ [line])
        rw [typed] at goesOn
        rw [typeLines_line he hr, goesOn, hq.1, if_neg hr]
        simp

/-! ## The desk of a console -/

/-- The session that a console opens at a desk. -/
def sessionOf (desk : Desk) (buckets : List String) (count : Int) : Session :=
  { mode := desk.mode, limit := some (.integer count), partition := desk.partition, buckets }

/-- A desk whose host does nothing and whose loads do not fail is at ease when it was just
opened. -/
theorem atEase_of_ofSupply {supply : Supply} {opening : Opening}
    (ho : Desk.ofSupply supply opening = .ok desk) (hr : opening.rules = []) {buckets : List String}
    (hs : supply.Provides opening.interpreter doc buckets) (count : Int) :
    desk.AtEase opening.interpreter doc (sessionOf desk buckets count) := by
  have hc := Course.opened ho
  obtain ⟨rfl, rules, -⟩ := Desk.ofSupply_eq_ok ho
  have mirrors : Mirrors doc desk [] := hc.mirrors (by simp)
  obtain ⟨index, mode, partition, others, he⟩ := Desk.eq_of_ofSupply ho
  have hn : others = [] := by rw [← hr, ← rules, he]
  refine ⟨⟨_, _, hc, rfl, rfl⟩, ?_⟩
  refine
    { isOpen := by rw [he]; rfl
      intents := by rw [he]; simp [Desk.intents, hn]
      queries := Nat.zero_le _
      sessions := by rw [he]; simp
      limit := ⟨some count, rfl⟩
      answered := by rw [he]; simp [Desk.answer?]
      loads := by rw [he]; simp
      reads := by rw [he]
      supply := hs
      mirrors := mirrors
      smooth := by simp }

/-- Whether a console may be opened at a desk: nothing goes wrong at it, and it has no sessions. -/
structure Ready (interpreter : Interpreter) (doc : String → Option String)
    (buckets : List String) (count : Int) (desk : Desk) : Prop where
  atEase : desk.AtEase interpreter doc (sessionOf desk buckets count)
  listed : desk.bucketIds = .ok buckets
  divided : desk.supply.partition desk.index = .ok desk.partition
  sessions : desk.sessions = []

namespace Ready

variable {buckets : List String} {count : Int}

theorem openSession (h : Ready interpreter doc buckets count desk) :
    desk.openSession { limit := some (.integer count) } =
      (.ok 0, { desk with sessions := [sessionOf desk buckets count] }) := by
  have session : desk.sessionFor { limit := some (.integer count) } =
      .ok (sessionOf desk buckets count) := by
    have hb : desk.supply.bucketIds desk.index = .ok buckets := h.listed
    simp only [Desk.sessionFor, h.atEase.steady.isOpen, Option.getD_none, Mode.check_name,
      h.divided, hb]
    rfl
  simp only [Desk.openSession, session, h.sessions]
  rfl

/-- A desk is at its prompt when its first session was opened. -/
theorem atPrompt (h : Ready interpreter doc buckets count desk) :
    AtPrompt interpreter doc (sessionOf desk buckets count)
    { desk with sessions := [sessionOf desk buckets count] } := by
  have opens := h.openSession
  have steady := h.atEase.steady
  obtain ⟨agenda, past, hc, hr, rfl⟩ := h.atEase.reached
  have began := Desk.begins_takeUp agenda.desk
    (.openSession { limit := some (.integer count) })
  have course := hc.tookUp hr (.openSession { limit := some (.integer count) })
  rw [Desk.takeUp, opens] at began course
  -- without sessions no query can have been typed
  have askers : agenda.desk.askers = [] := by
    rw [List.eq_nil_iff_forall_not_mem]
    intro asker ha
    have hl := hc.ledger.asker_lt asker ha
    rw [h.sessions] at hl
    exact Nat.not_lt_zero _ hl
  refine ⟨⟨⟨_, _, course, rfl, rfl⟩, ?_⟩, Nat.one_pos, fun number => ?_⟩
  · have hi := steady.intents
    refine
      { isOpen := steady.isOpen
        intents := ?_
        queries := Nat.zero_le _
        sessions := ?_
        limit := steady.limit
        answered := steady.answered
        loads := steady.loads
        reads := steady.reads
        supply := steady.supply
        mirrors := began.mirrors steady.mirrors
        smooth := by simp }
    · rw [Desk.intents, h.sessions] at hi
      simpa [Desk.intents, sessionOf] using hi
    · intro number session hs
      rw [List.getElem?_singleton] at hs
      split at hs <;> cases hs
      exact ⟨rfl, rfl, rfl, rfl, rfl⟩
  · have none : Desk.askers
        { agenda.desk with sessions := [sessionOf agenda.desk buckets count] } = [] := askers
    simp [Desk.awaits, Desk.asker?, none]

/-- A desk that searched is as ready as it was. -/
theorem search (h : Ready interpreter doc buckets count desk) (query : Option String)
    (turns : Turns) :
    Ready interpreter doc buckets count (desk.search query (some (.integer count)) turns).2 ∧
      sessionOf (desk.search query (some (.integer count)) turns).2 buckets count =
        sessionOf desk buckets count := by
  have works := desk.worksOn_search query (some (.integer count)) turns
  have index := desk.index_search query (some (.integer count)) turns
  have kept := desk.keeps_search query (some (.integer count)) turns
  have same : sessionOf (desk.search query (some (.integer count)) turns).2 buckets count =
      sessionOf desk buckets count := by
    rw [sessionOf, works.mode, works.partition, sessionOf]
  refine ⟨⟨?_, works.buckets.trans h.listed, ?_, ?_⟩, same⟩
  · rw [same]
    exact (h.atEase.search h.listed rfl rfl query turns).2
  · rw [Supply.partition, kept.1, index, works.partition]
    exact h.divided
  · rw [← List.length_eq_zero_iff, kept.2, h.sessions, List.length_nil]

/-- A query that a console answers first is answered by the documents and leaves the desk
ready. -/
theorem answerQuery {command : Command} (h : Ready interpreter doc buckets command.shown desk) :
    (∃ warnings, (answerQuery command desk).1 = .ok (warnings, if command.query = "" then []
      else [.answer ((sessionOf desk buckets command.shown).reply interpreter doc
        (normalize command.query))])) ∧
      Ready interpreter doc buckets command.shown (Console.answerQuery command desk).2 ∧
      sessionOf (Console.answerQuery command desk).2 buckets command.shown =
        sessionOf desk buckets command.shown := by
  unfold Console.answerQuery
  split
  · exact ⟨⟨[], rfl⟩, h, rfl⟩
  · refine ⟨?_, h.search (some command.query) .joined⟩
    obtain ⟨result, hs, hg⟩ :=
      (h.atEase.search h.listed rfl rfl (some command.query) .joined).1
    have hs : (desk.search (some command.query) (some (.integer command.shown)) .joined).1 =
        .ok result := hs
    refine ⟨result.warnings.map .warning, ?_⟩
    simp only [hs, Except.map, hg]
    rfl

end Ready

/-! ## What is seen -/

namespace Output

variable {output : Output} {texts before : List String}

/-- Texts that can all be written are all seen. -/
theorem ends_of_writes (h : ∀ text ∈ texts, output.writes text = true) (finish : Finish) :
    output.ends texts finish = (finish, String.join texts) := by
  have shown : output.shown texts = (String.join texts, none) := by
    induction texts with
    | nil => rfl
    | cons text texts ih =>
      obtain ⟨ht, hs⟩ := List.forall_mem_cons.1 h
      rw [shown, if_pos ht, ih hs, String.join_cons]
  rw [ends, shown]

/-- Texts are seen up to the first one that is refused. -/
theorem ends_of_refused (h : ∀ text ∈ before, output.writes text = true) {text : String}
    (hr : output.writes text = false) (after : List String) (finish : Finish) :
    output.ends (before ++ text :: after) finish =
      (.failed (.handler (output.complaint text)), String.join before) := by
  have shown : output.shown (before ++ text :: after) =
      (String.join before, some (output.complaint text)) := by
    induction before with
    | nil => rw [List.nil_append, shown, if_neg (by simp [hr])]; rfl
    | cons first before ih =>
      obtain ⟨ht, hs⟩ := List.forall_mem_cons.1 h
      rw [List.cons_append, shown, if_pos ht, ih hs, String.join_cons]
  rw [ends, shown]

end Output

/-- What a console writes whose queries are answered like this: the answer to the query that it was
given, and the transcript of the lines that are typed. -/
def written (command : Command) (screen : Screen) (reply : String → List Group) (input : String) :
    List String :=
  let answered : List Piece :=
    if command.query = "" then [] else [.answer (reply command.query)]
  (answered ++ .welcome :: transcript command.echo reply (inputLines input)).flatMap screen.prints

/-- What a console leaves that takes lines over a source whose loads do not fail. -/
theorem searchAt_eq {supply : Supply} {opening : Opening}
    (ho : Desk.ofSupply supply opening = .ok desk) (hr : opening.rules = []) {buckets : List String}
    (hb : desk.bucketIds = .ok buckets) (hs : supply.Provides opening.interpreter doc buckets)
    (command : Command) :
    ∃ opened, (answerQuery command desk).2.openSession { limit := some (.integer command.shown) } =
        (.ok 0, opened) ∧
      let reply (query : String) : List Group :=
        (sessionOf desk buckets command.shown).reply opening.interpreter doc (normalize query)
      (∀ query turns, ∃ result,
        (desk.search (some query) (some (.integer command.shown)) turns).1 = .ok result ∧
          result.groups = reply query) ∧
      (∀ lines, typeLines command.echo opened "" lines = transcript command.echo reply lines) ∧
      (command.takesLines = true → ∀ (screen : Screen) (surroundings : Surroundings),
        ((searchAt command screen surroundings desk).finish,
          (searchAt command screen surroundings desk).out) =
            surroundings.output.ends (written command screen reply surroundings.input) .done) := by
  obtain ⟨rfl, -, divided⟩ := Desk.ofSupply_eq_ok ho
  have ready : Ready opening.interpreter doc buckets command.shown desk :=
    ⟨atEase_of_ofSupply ho hr hs command.shown, hb, divided, by
      obtain ⟨_, _, _, _, he⟩ := Desk.eq_of_ofSupply ho
      rw [he]⟩
  obtain ⟨⟨warnings, answered⟩, readied, same⟩ := ready.answerQuery
  have opens := readied.openSession
  have prompts := readied.atPrompt
  rw [same] at opens prompts
  have typed (lines : List String) := typeLines_eq prompts command.echo [] lines
  refine ⟨_, opens, fun query turns => (ready.atEase.search hb rfl rfl (some query) turns).1, typed,
    fun takes screen surroundings => ?_⟩
  have answered : answerQuery command desk = (.ok (warnings, _), (answerQuery command desk).2) :=
    Prod.ext answered rfl
  have taken : takeLines command (answerQuery command desk).2 surroundings.input =
      .ok (.welcome :: transcript command.echo (fun query =>
        (sessionOf desk buckets command.shown).reply opening.interpreter doc (normalize query))
          (inputLines surroundings.input)) := by
    rw [takeLines, opens]
    exact congrArg (fun shown => Except.ok (.welcome :: shown))
      (typed (inputLines surroundings.input))
  unfold searchAt
  rw [answered]
  simp only [takes, if_true, taken]
  rfl

/-- **A console agrees with searches.** Over every source whose loads do not fail, and whatever
query it answered before, a console replies to each line that is heard with the groups that a
search at the desk finds for all that was typed since the last reset, once, unless that is empty;
it replies to a reset with no groups. All of that is seen, one text after the other, as far as the
output has a form for its characters; a text that is refused is the end. -/
theorem searchAt_agrees {supply : Supply} {opening : Opening}
    (ho : Desk.ofSupply supply opening = .ok desk) (hr : opening.rules = []) {buckets : List String}
    (hb : desk.bucketIds = .ok buckets) (hs : supply.Provides opening.interpreter doc buckets)
    (command : Command) :
    ∃ reply : String → List Group,
      (∀ query turns, ∃ result,
        (desk.search (some query) (some (.integer command.shown)) turns).1 = .ok result ∧
          result.groups = reply query) ∧
      (∃ opened, (answerQuery command desk).2.openSession
          { limit := some (.integer command.shown) } = (.ok 0, opened) ∧
        ∀ lines, typeLines command.echo opened "" lines = transcript command.echo reply lines) ∧
      (∀ input, takeLines command (answerQuery command desk).2 input =
        .ok (.welcome :: transcript command.echo reply (inputLines input))) ∧
      (command.takesLines = true → ∀ (screen : Screen) (surroundings : Surroundings),
        let output := surroundings.output
        let texts := written command screen reply surroundings.input
        let report := searchAt command screen surroundings desk
        ((∀ text ∈ texts, output.writes text = true) →
          report.finish = .done ∧ report.out = String.join texts) ∧
        ∀ before text after, texts = before ++ text :: after →
          (∀ earlier ∈ before, output.writes earlier = true) → output.writes text = false →
            report.finish = .failed (.handler (output.complaint text)) ∧
              report.out = String.join before) := by
  obtain ⟨opened, opens, searched, typed, ended⟩ := searchAt_eq ho hr hb hs command
  refine ⟨_, searched, ⟨opened, opens, typed⟩, fun input => ?_, fun takes screen surroundings => ?_⟩
  · rw [takeLines, opens]
    exact congrArg (fun shown => Except.ok (.welcome :: shown)) (typed (inputLines input))
  · intro output texts report
    have ended : (report.finish, report.out) = output.ends texts .done :=
      ended takes screen surroundings
    refine ⟨fun all => ?_, fun before text after he hw hn => ?_⟩
    · rw [Output.ends_of_writes all] at ended
      exact Prod.mk.inj ended
    · rw [he, Output.ends_of_refused hw hn] at ended
      exact Prod.mk.inj ended

/-- A console over one bucket replies to two lines, forgets them, and stops at the empty line. -/
theorem searchAt_agrees_of_sample :
    let command : Command := { subject := Subject.ofGiven {} {}, shown := 5, query := "beta"
                               takesLines := true, bundle := "", asJson := false, echo := true }
    ∃ (reply : String → List Group) (opened : Desk),
      (∀ query turns, ∃ result,
        (Desk.sample.search (some query) (some (.integer 5)) turns).1 = .ok result ∧
          result.groups = reply query) ∧
      (answerQuery command Desk.sample).2.openSession { limit := some (.integer 5) } =
        (.ok 0, opened) ∧
      typeLines true opened "" ["al", "p", "#", "", "a"] =
        [.prompt, .echo "al", .answer (reply "al"), .prompt, .echo "alp", .answer (reply "alp"),
          .prompt, .reset, .prompt] ∧
      command.takesLines = true ∧
      let report := searchAt command {} { input := "al\n" } Desk.sample
      report.finish = .done ∧ report.out = String.join (written command {} reply "al\n") := by
  intro command
  have loaded : ∀ bucket ∈ ["symbols_0"], ∃ document shard,
      Source.fetch [] (.memory sampleDocuments []) bucket = .ok document ∧
        shardOf {} bucket document = .ok shard := by
    intro bucket hb
    obtain rfl := List.mem_singleton.1 hb
    have read : (shardOf {} "symbols_0" (Keyed.get? "symbols_0" sampleDocuments)).isOk = true := by
      decide +kernel
    obtain ⟨shard, made⟩ := isOk_iff_exists.1 read
    exact ⟨_, shard, rfl, made⟩
  obtain ⟨reply, searched, ⟨opened, opens, typed⟩, -, seen⟩ := searchAt_agrees
    (Desk.ofSupply_sample []) rfl Source.bucketIds_sample (.of_source loaded) command
  have all : ∀ text ∈ written command {} reply "al\n",
      ({} : Output).writes text = true := by simp [Output.writes]
  refine ⟨reply, opened, searched, opens, (typed _).trans ?_, rfl,
    (seen rfl {} { input := "al\n" }).1 all⟩
  have resets : isReset "al" = false ∧ isReset "p" = false ∧ isReset "#" = true := by
    decide +kernel
  have keys : normalize "al" ≠ "" ∧ normalize "alp" ≠ "" := by decide +kernel
  have joined : "al" ++ "p" = "alp" := by decide +kernel
  simp [transcript, heard, replyTo, typedBy, List.rtakeWhile, resets, keys, joined, command]

/-! ## What searches find and consoles do not show -/

/-- The document of a second bucket with the same symbol. -/
def moreText : String := "[[\"alpha\", [\"B\", \"b.html\"]]]"

/-- The sample desk at which a session was opened before there was a second bucket. -/
def outgrown : Desk :=
  { Desk.sample with
    supply := Desk.sample.supply.put "symbols_1" moreText
    sessions := [sessionOf Desk.sample ["symbols_0"] 5] }

theorem bucketIds_outgrown : outgrown.bucketIds = .ok ["symbols_0", "symbols_1"] := by
  have named : Keyed.keys (sampleDocuments ++ [("symbols_1", moreText)]) =
      ["symbols_0", "symbols_1"] := rfl
  have first : BucketId.parse "symbols_0" = .ok ⟨"symbols", 0⟩ := by rfl
  have second : BucketId.parse "symbols_1" = .ok ⟨"symbols", 1⟩ := by rfl
  have listed : (Source.memory (sampleDocuments ++ [("symbols_1", moreText)]) []).bucketIds
      "symbols" = .ok ["symbols_0", "symbols_1"] := by
    simp only [Source.bucketIds, bucketsOf, named, first, second, List.mapM_cons, List.mapM_nil]
    exact congrArg Except.ok (List.mergeSort_of_pairwise (by decide +kernel))
  exact listed

/-- The session does not look into the second bucket. -/
theorem typeQuery_outgrown : (typeQuery outgrown "al").1 = [.answer [Group.sample]] := by
  have typed : (outgrown.type 0 (some "al")).2 =
      (goOn 20 ({ desk := outgrown, tasks := [.submit 0 (some "al") none] }, [])).1.desk := by
    rw [Desk.type_snd, Desk.run_eq_goOn 20 (by decide +kernel)]
  generalize hf : (goOn 20 ({ desk := outgrown, tasks := [.submit 0 (some "al") none] },
    [])).1.desk = first at typed
  have drained : first.drained = (goOn 30 ({ desk := first, tasks := [.drain] }, [])).1.desk :=
    congrArg Prod.fst (Desk.run_eq_goOn 30 (by rw [← hf]; decide +kernel))
  unfold typeQuery
  simp only [typed, drained]
  rw [← hf]
  decide +kernel

/-- An answer of one group. -/
theorem answer_of_groups {shards : List Shard} {key : String} {mode : Mode} {limit : Option Int}
    {group : Group} (h : groups (hits shards key mode) = [group]) :
    answer shards key mode limit = takeUpTo limit [group] := by
  rw [answer, rank, rankAll, h, List.zipIdx_singleton, List.mergeSort_singleton]
  rfl

/-- A search does. -/
theorem search_outgrown : ∃ result,
    (outgrown.search (some "al") (some (.integer 5)) .joined).1 = .ok result ∧
      result.groups.map (·.occurrences.length) = [2] := by
  have chosen : candidates (queryKey (some "al")) ["symbols_0", "symbols_1"] outgrown.partition
      outgrown.mode = ["symbols_0", "symbols_1"] := by decide +kernel
  have asked : outgrown.cache.requestAll ["symbols_0", "symbols_1"] =
      .ok ([("symbols_0", .load 0), ("symbols_1", .load 1)],
        { inFlight := [("symbols_0", 0), ("symbols_1", 1)]
          loads := [{ bucket := "symbols_0" }, { bucket := "symbols_1" }], held := [0, 1] }) := by
    decide +kernel
  generalize hc : Cache.mk _ _ _ _ _ = cache at asked
  have drained : ({ outgrown with cache } : Desk).drained =
      (goOn 30 ({ desk := { outgrown with cache }, tasks := [.drain] }, [])).1.desk :=
    congrArg Prod.fst (Desk.run_eq_goOn 30 (by rw [← hc]; decide +kernel))
  generalize hd : ({ outgrown with cache } : Desk).drained = after at drained
  have mode : after.mode = .anywhere := by
    rw [drained, ← hc]
    decide +kernel
  have found : ((after.cache.endings? [("symbols_0", .load 0), ("symbols_1", .load 1)]).bind
      fun endings => (collect endings).toOption.map fun all =>
        (groups (hits all.shards (queryKey (some "al")) .anywhere)).map
          (·.occurrences.length)) = some [2] := by
    rw [drained, ← hc]
    decide +kernel
  clear hc drained
  obtain ⟨endings, he, found⟩ := Option.bind_eq_some_iff.1 found
  obtain ⟨all, ha, found⟩ := Option.map_eq_some_iff.1 found
  obtain ⟨group, hg, two⟩ := List.map_eq_singleton_iff.1 found
  have collected : collect endings = .ok all := toOption_eq_some_iff.1 ha
  have gathered : outgrown.gatherFrom (fun buckets => candidates (queryKey (some "al")) buckets
      outgrown.partition outgrown.mode) .joined = (.ok all, after) := by
    have isOpen : outgrown.isOpen = true := rfl
    simp only [Desk.gatherFrom, Desk.poised, isOpen, bucketIds_outgrown, chosen, Desk.obtain,
      asked, hd, he, collected, Bool.not_true, Bool.false_eq_true, if_false]
  have limit : readLimit (some (.integer 5)) = .ok (some 5) := rfl
  refine ⟨{ query := some "al", key := queryKey (some "al"), groups := [group]
            warnings := all.failures.map failureMessage }, ?_, by rw [List.map_singleton, two]⟩
  have answered : answer all.shards (queryKey (some "al")) .anywhere (some 5) = [group] :=
    answer_of_groups hg
  simp only [Desk.search_eq _ _ _ gathered, mode, limit, Except.bind, Except.map, answered]

/-- A document with half a character in a name. -/
def halfText : String := "[[\"a\\ud800\", [\"A\", \"a.html\"]]]"

/-- What a search finds need not be shown by a console. An output that has no form for half a
character refuses the name that holds one, and that is the end; and a bucket that is new since the
session was opened is searched, but not for what is typed. -/
theorem searchAt_differs :
    let supply : Supply := { source := .memory [("symbols_0", halfText)] [] }
    let desk : Desk := { Desk.sample with supply }
    let command : Command := { subject := Subject.ofGiven {} {}, shown := 5, query := ""
                               takesLines := true, bundle := "", asJson := false, echo := false }
    let report := searchAt command {} { input := "a\n", output := .utf8 } desk
    (Desk.ofSupply supply { index := "symbols" } = .ok desk ∧
      (∃ shard, shardOf {} "symbols_0" (some halfText) = .ok shard) ∧
      (∃ result, (desk.search (some "a") (some (.integer 5)) .joined).1 = .ok result ∧
        result.groups.length = 1) ∧
      report.out = welcomeText ++ "> " ∧
      report.finish = .failed (.handler ("'utf-8' codec can't encode character '\\ud800' " ++
        "in position 5: surrogates not allowed"))) ∧
    (∃ opened, Desk.sample.openSession { limit := some (.integer 5) } = (.ok 0, opened) ∧
      { opened with supply := opened.supply.put "symbols_1" moreText } = outgrown) ∧
    (typeQuery outgrown "al").1 = [.answer [Group.sample]] ∧
    ∃ result, (outgrown.search (some "al") (some (.integer 5)) .joined).1 = .ok result ∧
      result.groups.map (·.occurrences.length) = [2] := by
  intro supply desk command report
  have opens : Desk.ofSupply supply { index := "symbols" } = .ok desk :=
    Desk.ofSupply_single halfText []
  have listed : desk.bucketIds = .ok ["symbols_0"] := Source.bucketIds_single halfText
  have read : (shardOf {} "symbols_0" (some halfText)).isOk = true := by decide +kernel
  obtain ⟨shard, made⟩ := isOk_iff_exists.1 read
  have provides : supply.Provides {} _ ["symbols_0"] := .of_source fun bucket hb => by
    obtain rfl := List.mem_singleton.1 hb
    exact ⟨some halfText, shard, rfl, made⟩
  obtain ⟨-, -, searched, -, ended⟩ := searchAt_eq opens rfl listed provides command
  have ended := ended rfl {} { input := "a\n", output := .utf8 }
  have seen : Output.utf8.ends (written command {} (fun query => (sessionOf desk ["symbols_0"]
      5).reply {} (fun bucket => (Source.fetch [] supply.source bucket).toOption.join)
        (normalize query)) "a\n") .done =
      (.failed (.handler ("'utf-8' codec can't encode character '\\ud800' " ++
        "in position 5: surrogates not allowed")), welcomeText ++ "> ") := by
    decide +kernel
  obtain ⟨finish, out⟩ := Prod.mk.inj (ended.trans seen)
  obtain ⟨result, found, groups⟩ := searched "a" .joined
  have one : ((sessionOf desk ["symbols_0"] 5).reply {} (fun bucket =>
      (Source.fetch [] supply.source bucket).toOption.join) (normalize "a")).length = 1 := by
    decide +kernel
  have session : Desk.sample.sessionFor { limit := some (.integer 5) } =
      .ok (sessionOf Desk.sample ["symbols_0"] 5) := by
    have listed : Desk.sample.supply.bucketIds Desk.sample.index = .ok ["symbols_0"] :=
      Source.bucketIds_sample
    simp only [Desk.sessionFor, Option.getD_none, Mode.check_name, listed]
    rfl
  refine ⟨⟨opens, ⟨shard, made⟩, ⟨result, found, ?_⟩, out, finish⟩,
    ⟨{ Desk.sample with sessions := [sessionOf Desk.sample ["symbols_0"] 5] }, ?_, rfl⟩,
    typeQuery_outgrown, search_outgrown⟩
  · rw [groups]
    exact one
  · simp only [Desk.openSession, session]
    rfl

end Console

end SymbolLookup

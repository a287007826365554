import SymbolLookup.Bundle.Build
import SymbolLookup.Proofs.Files
/-!
# Packing step by step

Packing is all or nothing, whatever the source and the file format refuse on the way.

## Main definitions

* `Demand`, `Provider`: what is demanded while a source is packed, and who meets the demands.
* `Bench`: the files and all that is known while a draft is written.
* `build`: packs what a provider gives into a file, one step after the other.

## Main results

* `build_supply`: packing what a supply gives comes to the same as packing it step by step.
* `build_all_or_nothing`: what packing leaves of the target and of the draft.

## Design notes

A supply can fail only where a source of one of the known kinds fails. A provider may refuse any
demand at any time, and also what is inserted into the file. The draft is in the tree from the
moment in which it is connected, and with every insertion it grows there; closing it takes back what
was not committed.
-/

namespace SymbolLookup

/-- What is inserted into a bundle at a time. -/
inductive Insertion where
  /-- The alphabet of an index. -/
  | alphabet (index text : String)
  /-- The document of a bucket. -/
  | document (bucket index : String) (ordinal : Nat) (text : String)
  deriving DecidableEq, Repr

namespace Bundle

/-- The bundle with one more insertion. -/
def insert (bundle : Bundle) : Insertion → Bundle
  | .alphabet index text => bundle.addSection index text
  | .document bucket index _ text =>
    { bundle with rows := Keyed.put bucket ⟨index, text⟩ bundle.rows }

/-- The bundle of some insertions and nothing else. -/
def ofInsertions (insertions : List Insertion) : Bundle := insertions.foldl insert {}

theorem ofInsertions_concat (insertions : List Insertion) (insertion : Insertion) :
    ofInsertions (insertions ++ [insertion]) = (ofInsertions insertions).insert insertion := by
  rw [ofInsertions, List.foldl_append, List.foldl_cons, List.foldl_nil, ofInsertions]

end Bundle

/-- What is demanded while a source is packed, and the kind of the answer. -/
inductive Demand : Type → Type where
  | indexes : Demand (List String)
  | partition (index : String) : Demand Partition
  | bucketIds (index : String) : Demand (List String)
  | fetch (bucket : String) : Demand (Option String)
  /-- Which index and ordinal a bucket has. -/
  | parse (bucket : String) : Demand BucketId
  | insert (insertion : Insertion) : Demand Unit
  | commit : Demand Unit

/-- Who meets demands, or refuses them, and may be another afterwards. -/
abbrev Provider (σ : Type) := (α : Type) → Demand α → σ → Except Fault α × σ

/-- A supply and a bundle file, which holds no ordinal that is too large. -/
def Provider.supply : Provider Supply
  | _, .indexes, supply => (supply.indexes, supply)
  | _, .partition index, supply => (supply.partition index, supply)
  | _, .bucketIds index, supply => (supply.bucketIds index, supply)
  | _, .fetch bucket, supply => supply.fetch bucket
  | _, .parse bucket, supply => (BucketId.parse bucket, supply)
  | _, .insert (.alphabet _ _), supply => (.ok (), supply)
  | _, .insert (.document _ _ ordinal _), supply =>
    (if ordinal < Bundle.ordinalBound then .ok () else .error .ordinalTooLarge, supply)
  | _, .commit, supply => (.ok (), supply)

/-- The files and all that is known while a draft is written. -/
structure Bench (σ : Type) where
  files : Files
  /-- What the provider is. -/
  world : σ
  /-- What the draft holds as long as it is connected. -/
  content : Bundle := {}
  /-- What the draft holds when it is closed. -/
  saved : Bundle := {}
  /-- What was inserted. -/
  inserted : List Insertion := []
  /-- For which faults demands were refused. -/
  raised : List Fault := []

/-- Work at a bench, which may be left for a fault. -/
abbrev Work (σ : Type) := ExceptT Fault (StateM (Bench σ))

namespace Work

variable {σ α : Type}

/-- The bench after the draft was written. -/
def write (draft : Path) (content : Bundle) (bench : Bench σ) : Bench σ :=
  { bench with files := Keyed.put draft.names (.bundle content) bench.files }

/-- The bench after a demand was met. -/
def meet (draft : Path) : Demand α → Bench σ → Bench σ
  | .insert insertion, bench =>
    let content := bench.content.insert insertion
    { write draft content bench with content, inserted := bench.inserted ++ [insertion] }
  | .commit, bench => { bench with saved := bench.content }
  | _, bench => bench

/-- Makes a demand. -/
def ask (provider : Provider σ) (draft : Path) (demand : Demand α) : Work σ α := fun bench =>
  match provider α demand bench.world with
  | (.ok answer, world) => (.ok answer, meet draft demand { bench with world })
  | (.error fault, world) => (.error fault, { bench with world, raised := bench.raised ++ [fault] })

/-- Changes the files, unless the file system refuses. -/
def onFiles (change : Files → Except FileFault Files) : Work σ Unit := fun bench =>
  match change bench.files with
  | .ok files => (.ok (), { bench with files })
  | .error fault => (.error (.file fault), bench)

/-- Removes the draft if there is one. -/
def discard (draft : Path) : Work σ Unit := do
  if ((← get).files.node? draft.names).isSome then onFiles (·.remove draft)

/-- Copies the documents of some buckets of an index. -/
def copyBuckets (provider : Provider σ) (draft : Path) (index : String) :
    (buckets : List String) → Work σ Unit
  | [] => pure ()
  | bucket :: buckets => do
    if let some text ← ask provider draft (.fetch bucket) then
      let id ← ask provider draft (.parse bucket)
      ask provider draft (.insert (.document bucket index id.ordinal text))
    copyBuckets provider draft index buckets

/-- Copies the alphabets and the documents of some indexes. -/
def copyIndexes (provider : Provider σ) (draft : Path) : (indexes : List String) → Work σ Unit
  | [] => pure ()
  | index :: indexes => do
    let partition ← ask provider draft (.partition index)
    ask provider draft (.insert (.alphabet index partition.alphabet))
    let buckets ← ask provider draft (.bucketIds index)
    copyBuckets provider draft index buckets
    copyIndexes provider draft indexes

/-- Copies everything and commits it. -/
def copy (provider : Provider σ) (draft : Path) : Work σ Unit := do
  let indexes ← ask provider draft .indexes
  copyIndexes provider draft indexes
  ask provider draft .commit

/-- Fills a new draft and closes it, whatever happens. -/
def fill (provider : Provider σ) (draft : Path) : Work σ Unit := do
  modify (write draft {})
  try
    copy provider draft
  finally
    modify fun bench => write draft bench.saved bench

/-- Fills a new draft, and removes it if that fails. -/
def attempt (provider : Provider σ) (draft : Path) : Work σ Unit := do
  try
    fill provider draft
  catch fault =>
    if !fault.isExit then discard draft
    throw fault

end Work

/-- Puts a file in the place of another. -/
def Files.rename (files : Files) (path target : Path) : Except FileFault Files :=
  match files.node? path.names with
  | none => .error (.missing path.text)
  | some node =>
    if files.hasDirectory target then .error (.replacesDirectory path.text target.text)
    else .ok (Keyed.put target.names node (Keyed.erase path.names files))

/-- Packs what a provider gives into a file, after its directory was made and an old draft
removed. -/
def Work.buildInto {σ : Type} (provider : Provider σ) (draft target : Path) : Work σ Bundle := do
  attempt provider draft
  onFiles (·.rename draft target)
  return (← get).saved

/-- Packs what a provider gives into a file, one step after the other. -/
def build {σ : Type} (provider : Provider σ) (target : Path) : Work σ Bundle := do
  let draft := target.withEnding draftEnding
  Work.onFiles (·.makeDirectories target.parent)
  Work.discard draft
  Work.buildInto provider draft target

namespace Work

variable {σ α β : Type}

theorem bind_apply (work : Work σ α) (next : α → Work σ β) (bench : Bench σ) :
    (work >>= next) bench =
      match work bench with
      | (.ok answer, bench) => next answer bench
      | (.error fault, bench) => (.error fault, bench) := by
  show ExceptT.bindCont next (work bench).1 (work bench).2 = _
  rcases work bench with ⟨_ | _, _⟩ <;> rfl

theorem discard_apply (draft : Path) (bench : Bench σ) : discard draft bench =
    if (bench.files.node? draft.names).isSome then onFiles (·.remove draft) bench
    else (.ok (), bench) := by
  unfold discard
  rw [bind_apply]
  show (if _ then _ else _ : Work σ Unit) bench = _
  split <;> rfl

/-- Work that is closed by another change to the bench, whatever happens. -/
theorem finally_apply (work : Work σ Unit) (close : Bench σ → Bench σ) (bench : Bench σ) :
    (do try work finally modify close : Work σ Unit) bench =
      ((work bench).1, close (work bench).2) := by
  simp only [tryFinally, MonadFinally.tryFinally', ExceptT.mk, StateT.bind, bind, Functor.map,
    ExceptT.map]
  rcases work bench with ⟨_ | _, _⟩ <;> rfl

/-- Work whose faults are handled. -/
theorem catch_apply (work : Work σ Unit) (handle : Fault → Work σ Unit) (bench : Bench σ) :
    (do try work catch fault => handle fault : Work σ Unit) bench =
      match work bench with
      | (.ok (), bench) => (.ok (), bench)
      | (.error fault, bench) => handle fault bench := by
  simp only [tryCatch, MonadExcept.tryCatch, tryCatchThe, MonadExceptOf.tryCatch,
    ExceptT.tryCatch, ExceptT.mk, bind, StateT.bind]
  rcases work bench with ⟨_ | _, _⟩ <;> rfl

theorem fill_apply (provider : Provider σ) (draft : Path) (bench : Bench σ) :
    fill provider draft bench =
      let filled := copy provider draft (write draft {} bench)
      (filled.1, write draft filled.2.saved filled.2) := by
  unfold fill
  rw [bind_apply]
  exact finally_apply _ _ _

theorem attempt_apply (provider : Provider σ) (draft : Path) (bench : Bench σ) :
    attempt provider draft bench =
      match fill provider draft bench with
      | (.ok (), bench) => (.ok (), bench)
      | (.error fault, bench) =>
        if fault.isExit then (.error fault, bench)
        else
          match discard draft bench with
          | (.ok (), bench) => (.error fault, bench)
          | (.error other, bench) => (.error other, bench) := by
  unfold attempt
  rw [catch_apply]
  rcases fill provider draft bench with ⟨fault | _, after⟩
  · simp only
    cases fault.isExit
    · simp only [Bool.not_false, if_true, Bool.false_eq_true, if_false]
      rw [bind_apply]
      rcases discard draft after with ⟨_ | _, _⟩ <;> rfl
    · rfl
  · rfl

/-! ## What the draft holds -/

/-- The faults that an outcome tells. -/
def refusals : Except Fault α → List Fault
  | .ok _ => []
  | .error fault => [fault]

/-- Whether a draft is being written: it holds what was inserted, nothing of it is committed, and
else the tree is as it was. -/
structure Drafts (draft : Path) (base : Files) (bench : Bench σ) : Prop where
  files : bench.files = Keyed.put draft.names (.bundle bench.content) base
  content : bench.content = Bundle.ofInsertions bench.inserted
  saved : bench.saved = {}

/-- Whether work goes on writing the draft, and is left at the first fault. -/
def Keeps (draft : Path) (base : Files) (work : Work σ α) : Prop :=
  ∀ bench, Drafts draft base bench → bench.raised = [] →
    Drafts draft base (work bench).2 ∧ (work bench).2.raised = refusals (work bench).1

variable {provider : Provider σ} {draft : Path} {base : Files}

theorem keeps_pure (answer : α) : Keeps draft base (pure answer : Work σ α) :=
  fun _ hd hr => ⟨hd, hr⟩

theorem Keeps.bind {work : Work σ α} {next : α → Work σ β} (h : Keeps draft base work)
    (hn : ∀ answer, Keeps draft base (next answer)) : Keeps draft base (work >>= next) := by
  intro bench hd hr
  obtain ⟨hd, hr⟩ := h bench hd hr
  rw [bind_apply]
  rcases hw : work bench with ⟨fault | answer, after⟩
  · rw [hw] at hd hr
    exact ⟨hd, hr⟩
  · rw [hw] at hd hr
    exact hn answer after hd hr

/-- One demand, if it commits nothing. -/
theorem keeps_ask {demand : Demand α}
    (hc : ∀ bench : Bench σ, (meet draft demand bench).saved = bench.saved) :
    Keeps draft base (ask provider draft demand) := by
  intro bench hd hr
  unfold ask
  rcases provider α demand bench.world with ⟨fault | answer, world⟩
  · exact ⟨⟨hd.files, hd.content, hd.saved⟩, by simp only [refusals, hr, List.nil_append]⟩
  · refine ⟨⟨?_, ?_, (hc _).trans hd.saved⟩, ?_⟩
    · cases demand with
      | insert insertion =>
        simp only [meet, write, hd.files, Keyed.put_put_self]
      | _ => exact hd.files
    · cases demand with
      | insert insertion =>
        simp only [meet, write, hd.content, Bundle.ofInsertions_concat]
      | _ => exact hd.content
    · cases demand <;> exact hr

theorem keeps_copyBuckets (index : String) (buckets : List String) :
    Keeps draft base (copyBuckets provider draft index buckets) := by
  induction buckets with
  | nil => exact keeps_pure ()
  | cons bucket buckets ih =>
    refine (keeps_ask fun _ => rfl).bind fun text => ?_
    cases text with
    | none => exact ih
    | some text =>
      refine Keeps.bind (keeps_ask fun _ => rfl) fun id => ?_
      exact (keeps_ask fun _ => rfl).bind fun _ => ih

theorem keeps_copyIndexes (provider : Provider σ) (indexes : List String) :
    Keeps draft base (copyIndexes provider draft indexes) := by
  induction indexes with
  | nil => exact keeps_pure ()
  | cons index indexes ih =>
    refine (keeps_ask fun _ => rfl).bind fun partition => ?_
    refine (keeps_ask fun _ => rfl).bind fun _ => ?_
    refine (keeps_ask fun _ => rfl).bind fun buckets => ?_
    exact (keeps_copyBuckets index buckets).bind fun _ => ih

/-- What is known after copying: everything that was inserted is saved, or nothing. -/
structure Copied (outcome : Except Fault Unit) (after : Bench σ) : Prop where
  content : after.content = Bundle.ofInsertions after.inserted
  saved : after.saved = match outcome with | .ok _ => after.content | .error _ => {}
  raised : after.raised = refusals outcome

theorem copied_copy (provider : Provider σ) {bench : Bench σ} (hd : Drafts draft base bench)
    (hr : bench.raised = []) :
    let copied := copy provider draft bench
    Copied copied.1 copied.2 ∧
      copied.2.files = Keyed.put draft.names (.bundle copied.2.content) base := by
  unfold copy
  rw [bind_apply]
  have asked : Keeps draft base (ask provider draft .indexes) := keeps_ask fun _ => rfl
  obtain ⟨hd, hr⟩ := asked bench hd hr
  rcases hw : ask provider draft .indexes bench with ⟨fault | indexes, bench⟩ <;> rw [hw] at hd hr
  · exact ⟨⟨hd.content, hd.saved, hr⟩, hd.files⟩
  · simp only
    rw [bind_apply]
    obtain ⟨hd, hr⟩ := keeps_copyIndexes provider indexes bench hd hr
    rcases hw : copyIndexes provider draft indexes bench with ⟨fault | _, bench⟩ <;>
      rw [hw] at hd hr
    · exact ⟨⟨hd.content, hd.saved, hr⟩, hd.files⟩
    · simp only
      unfold ask
      rcases provider Unit .commit bench.world with ⟨fault | _, world⟩
      · refine ⟨⟨hd.content, hd.saved, ?_⟩, hd.files⟩
        simpa only [refusals, List.append_left_eq_self] using hr
      · exact ⟨⟨hd.content, rfl, hr⟩, hd.files⟩

theorem copied_fill (provider : Provider σ) (draft : Path) (base : Files) (world : σ) :
    let filled := fill provider draft { files := base, world }
    Copied filled.1 filled.2 ∧
      filled.2.files = Keyed.put draft.names (.bundle filled.2.saved) base := by
  have start : Drafts draft base (write draft {} { files := base, world }) := ⟨rfl, rfl, rfl⟩
  obtain ⟨copied, files⟩ := copied_copy provider start rfl
  rw [fill_apply]
  refine ⟨⟨copied.content, copied.saved, copied.raised⟩, ?_⟩
  generalize copy provider draft (write draft {} { files := base, world }) = filled at files ⊢
  simp only [write]
  rw [files, Keyed.put_put_self]

/-- A draft that was written is removed, and then the tree is as it was. -/
theorem discard_draft (hn : base.node? draft.names = none) {bench : Bench σ} {content : Bundle}
    (hf : bench.files = Keyed.put draft.names (.bundle content) base) :
    discard draft bench = (.ok (), { bench with files := base }) := by
  have there : bench.files.node? draft.names = some (.bundle content) := by
    rw [hf, Files.node?_put_self (Files.ne_nil_of_node?_eq_none hn)]
  rw [discard_apply, there, Option.isSome_some, if_pos rfl]
  simp only [onFiles, Files.remove, there]
  rw [hf, Files.erase_put hn]

/-- The files that are left of a draft. -/
def leftOver (draft : Path) (base : Files) (content : Bundle) : Except Fault Unit → Files
  | .ok _ => Keyed.put draft.names (.bundle content) base
  | .error fault => if fault.isExit then Keyed.put draft.names (.bundle {}) base else base

theorem copied_attempt (provider : Provider σ) (hn : base.node? draft.names = none) (world : σ) :
    let attempted := attempt provider draft { files := base, world }
    Copied attempted.1 attempted.2 ∧
      attempted.2.files = leftOver draft base attempted.2.content attempted.1 := by
  obtain ⟨copied, files⟩ := copied_fill provider draft base world
  rw [attempt_apply]
  rcases hf : fill provider draft { files := base, world } with ⟨fault | _, after⟩ <;>
    rw [hf] at copied files <;> simp only at copied files ⊢
  · split
    · refine ⟨copied, ?_⟩
      rw [files, copied.saved, leftOver, if_pos ‹_›]
    · rw [discard_draft hn files]
      exact ⟨⟨copied.content, copied.saved, copied.raised⟩, by rw [leftOver, if_neg ‹_›]⟩
  · exact ⟨copied, by rw [files, copied.saved, leftOver]⟩

theorem buildInto_apply (provider : Provider σ) (hn : base.node? draft.names = none)
    {target : Path} (ht : target.names ≠ draft.names) (world : σ) :
    buildInto provider draft target { files := base, world } =
      match attempt provider draft { files := base, world } with
      | (.error fault, bench) => (.error fault, bench)
      | (.ok (), bench) =>
        if base.hasDirectory target then
          (.error (.file (.replacesDirectory draft.text target.text)), bench)
        else
          (.ok bench.content,
            { bench with files := Keyed.put target.names (.bundle bench.content) base }) := by
  obtain ⟨copied, files⟩ := copied_attempt provider hn world
  unfold buildInto
  rw [bind_apply]
  rcases ha : attempt provider draft { files := base, world } with ⟨fault | _, after⟩
  · rfl
  · rw [ha] at copied files
    simp only [leftOver] at files
    have there : after.files.node? draft.names = some (.bundle after.content) := by
      rw [files, Files.node?_put_self (Files.ne_nil_of_node?_eq_none hn)]
    have directory : after.files.hasDirectory target = base.hasDirectory target :=
      Files.hasDirectory_congr (by rw [files, Files.node?_put_of_ne ht])
    have renamed : onFiles (·.rename draft target) after =
        if base.hasDirectory target then
          (.error (.file (.replacesDirectory draft.text target.text)), after)
        else
          (.ok (),
            { after with files := Keyed.put target.names (.bundle after.content) base }) := by
      simp only [onFiles, Files.rename, there, directory]
      cases base.hasDirectory target with
      | true => rfl
      | false =>
        rw [files, Files.erase_put hn]
        rfl
    simp only
    rw [bind_apply, renamed]
    cases base.hasDirectory target with
    | true => rfl
    | false => exact Prod.ext (congrArg Except.ok copied.saved) rfl

/-! ## Supplies -/

/-- What is told of copying where no file is written. -/
def told (outcome : Except Fault Unit × Bench Supply) : Copying Bundle :=
  (outcome.1.map fun _ => outcome.2.content, outcome.2.world)

theorem told_bind {work : Work Supply α} {next : α → Work Supply Unit} (bench : Bench Supply) :
    told ((work >>= next) bench) =
      match work bench with
      | (.ok answer, bench) => told (next answer bench)
      | (.error fault, bench) => (.error fault, bench.world) := by
  rw [bind_apply]
  rcases work bench with ⟨_ | _, _⟩ <;> rfl

theorem told_copyBuckets (draft : Path) (index : String) (buckets : List String)
    (bench : Bench Supply) : told (copyBuckets Provider.supply draft index buckets bench) =
      Bundle.copyBuckets index bench.content bench.world buckets := by
  induction buckets generalizing bench with
  | nil => rfl
  | cons bucket buckets ih =>
    rw [copyBuckets, told_bind, Bundle.copyBuckets]
    simp only [ask, Provider.supply]
    rcases bench.world.fetch bucket with ⟨fault | _ | text, world⟩
    · rfl
    · exact ih _
    · simp only [told_bind, ask, Provider.supply]
      cases BucketId.parse bucket with
      | error fault => rfl
      | ok id =>
        simp only [Bundle.addRow]
        by_cases ho : id.ordinal < Bundle.ordinalBound
        · simp only [if_pos ho]
          exact ih _
        · simp only [if_neg ho]
          rfl

theorem told_copyIndexes (draft : Path) (indexes : List String) (bench : Bench Supply) :
    told (copyIndexes Provider.supply draft indexes bench) =
      Bundle.copyIndexes bench.content bench.world indexes := by
  induction indexes generalizing bench with
  | nil => rfl
  | cons index indexes ih =>
    rw [copyIndexes, Bundle.copyIndexes]
    simp only [told_bind, ask, Provider.supply]
    cases bench.world.partition index with
    | error fault => rfl
    | ok partition =>
      simp only [meet, write]
      cases bench.world.bucketIds index with
      | error fault => rfl
      | ok buckets =>
        simp only
        -- what was copied before the next index is seen in both
        generalize hs : { bench with content := _, files := _, inserted := _ } = started
        have copied := told_copyBuckets draft index buckets started
        have content : started.content = bench.content.addSection index partition.alphabet := by
          rw [← hs]
          rfl
        have world : started.world = bench.world := by rw [← hs]
        rw [content, world] at copied
        rw [← copied]
        rcases copyBuckets Provider.supply draft index buckets started with ⟨fault | _, after⟩
        · rfl
        · exact ih after

theorem told_copy (draft : Path) (bench : Bench Supply) (hc : bench.content = {}) :
    told (copy Provider.supply draft bench) = Bundle.ofSupply bench.world := by
  rw [copy, Bundle.ofSupply]
  simp only [told_bind, ask, Provider.supply]
  cases bench.world.indexes with
  | error fault => rfl
  | ok indexes =>
    simp only [meet]
    rw [← hc]
    refine Eq.trans ?_ (told_copyIndexes draft indexes bench)
    rcases copyIndexes Provider.supply draft indexes bench with ⟨fault | _, after⟩ <;> rfl

theorem told_fill (draft : Path) (base : Files) (supply : Supply) :
    told (fill Provider.supply draft { files := base, world := supply }) =
      Bundle.ofSupply supply := by
  rw [fill_apply]
  exact told_copy draft (write draft {} { files := base, world := supply }) rfl

theorem told_attempt (hn : base.node? draft.names = none) (supply : Supply) :
    told (attempt Provider.supply draft { files := base, world := supply }) =
      Bundle.ofSupply supply := by
  rw [← told_fill draft base supply, attempt_apply]
  have files := (copied_fill Provider.supply draft base supply).2
  rcases hf : fill Provider.supply draft { files := base, world := supply } with
    ⟨fault | _, after⟩
  · rw [hf] at files
    simp only
    split
    · rfl
    · rw [discard_draft hn files]
      rfl
  · rfl

end Work

/-- What is left when a source was packed step by step. -/
def Packing.ofWork (outcome : Except Fault Bundle × Bench Supply) : Packing where
  result := outcome.1
  files := outcome.2.files
  supply := outcome.2.world

theorem packInto_eq {files : Files} {draft target : Path} (hn : files.node? draft.names = none)
    (hd : files.Reaches draft.names.dropLast) (ht : files.Reaches target.names.dropLast)
    (hne : target.names ≠ draft.names) (supply : Supply) :
    packInto files supply draft target =
      .ofWork (Work.buildInto Provider.supply draft target { files, world := supply }) := by
  have told := Work.told_attempt hn supply
  obtain ⟨-, left⟩ := Work.copied_attempt Provider.supply hn supply
  rw [Work.buildInto_apply _ hn hne, packInto, ← told]
  rcases ha : Work.attempt Provider.supply draft { files, world := supply } with
    ⟨fault | _, after⟩ <;> rw [ha] at left
  · simp only [Work.told, Except.map, Packing.ofWork, Work.leftOver] at left ⊢
    rw [left, hd.put]
  · simp only [Work.told, Except.map, publish, Work.leftOver] at left ⊢
    rw [hd.put]
    cases files.hasDirectory target with
    | true => simp only [if_true, Packing.ofWork, left]
    | false => simp only [Bool.false_eq_true, if_false, Packing.ofWork, Files.erase_put hn, ht.put]

/-! ## Packing -/

section Draft

variable (target : Path)

theorem ne_draft : target.names ≠ (target.withEnding draftEnding).names := by
  intro h
  have last := congrArg (fun names : List String => (names.getLastD "").length) h
  simp [Path.withEnding, draftEnding] at last

theorem dropLast_draft :
    (target.withEnding draftEnding).names.dropLast = target.names.dropLast := by
  simp [Path.withEnding]

theorem draft_ne_nil : (target.withEnding draftEnding).names ≠ [] := by
  simp [Path.withEnding]

end Draft

/-- Packing what a supply gives comes to the same as packing it step by step. -/
theorem build_supply (files : Files) (supply : Supply) (target : Path) :
    pack files supply target =
      .ofWork (build Provider.supply target { files, world := supply }) := by
  have hne := ne_draft target
  have hdrop := dropLast_draft target
  have hnil := draft_ne_nil target
  unfold pack build
  generalize target.withEnding draftEnding = draft at hne hdrop hnil ⊢
  simp only
  rw [Work.bind_apply]
  cases hm : files.makeDirectories target.parent with
  | error fault =>
    simp only [Work.onFiles, hm]
    rfl
  | ok made =>
    have reaches : made.Reaches target.names.dropLast := by
      rw [Files.makeDirectories_eq_ok hm]
      exact Files.reaches_addDirectories files _
    simp only [Work.onFiles, hm]
    rw [Work.bind_apply, Work.discard_apply]
    simp only
    by_cases hd : made.node? draft.names = none
    · rw [hd]
      exact packInto_eq hd (hdrop ▸ reaches) reaches hne supply
    · rw [if_neg (by simpa using hd), if_pos (by simpa [Option.isSome_iff_ne_none] using hd)]
      simp only [Work.onFiles]
      cases hr : made.remove draft with
      | error fault => rfl
      | ok cleared =>
        obtain rfl : cleared = Keyed.erase draft.names made := by
          unfold Files.remove at hr
          split at hr
          · cases hr
          · cases hr
            rfl
          · split at hr <;> cases hr
        have kept : Files.Reaches (Keyed.erase draft.names made) target.names.dropLast := by
          intro before hb
          rw [Files.node?_erase_of_ne]
          · exact reaches before hb
          · rintro rfl
            exact Files.not_mem_stations_dropLast hnil (hdrop ▸ hb)
        exact packInto_eq (Files.node?_erase_self hnil) (hdrop ▸ kept) kept hne supply

namespace Work

variable {σ : Type} {draft target : Path} {base : Files}

/-- An old draft is removed, unless it is a directory, and nothing else. -/
theorem discard_old (bench : Bench σ) (hn : draft.names ≠ [])
    (hd : bench.files.hasDirectory draft = false) :
    ∃ base, discard draft bench = (.ok (), { bench with files := base }) ∧
      base.node? draft.names = none ∧
      ∀ names, names ≠ draft.names → base.node? names = bench.files.node? names := by
  rw [discard_apply]
  cases hs : bench.files.node? draft.names with
  | none => exact ⟨bench.files, rfl, hs, fun _ _ => rfl⟩
  | some node =>
    refine ⟨Keyed.erase draft.names bench.files, ?_, Files.node?_erase_self hn,
      fun names => Files.node?_erase_of_ne⟩
    rw [Option.isSome_some, if_pos rfl]
    cases node with
    | directory =>
      rw [Files.hasDirectory, hs] at hd
      cases hd
    | _ => simp only [onFiles, Files.remove, hs]

/-- What is left when something was packed into a tree without a draft. -/
theorem buildInto_spec (provider : Provider σ) (hn : base.node? draft.names = none)
    (hne : target.names ≠ draft.names) (ht : base.hasDirectory target = false) (world : σ) :
    let built := buildInto provider draft target { files := base, world }
    let bundle := Bundle.ofInsertions built.2.inserted
    built.1 = .ok bundle ∧ built.2.raised = [] ∧
        built.2.files = Keyed.put target.names (.bundle bundle) base ∨
      ∃ fault, built.1 = .error fault ∧ built.2.raised = [fault] ∧
        built.2.files =
          if fault.isExit then Keyed.put draft.names (.bundle {}) base else base := by
  obtain ⟨copied, files⟩ := copied_attempt provider hn world
  rw [buildInto_apply provider hn hne]
  rcases ha : attempt provider draft { files := base, world } with ⟨fault | _, after⟩ <;>
    rw [ha] at copied files
  · exact .inr ⟨fault, rfl, copied.raised, files⟩
  · simp only [ht, Bool.false_eq_true, if_false]
    left
    refine ⟨congrArg Except.ok copied.content, copied.raised, ?_⟩
    rw [← copied.content]

end Work

/-- Before a draft is written, the missing directories are made and an old draft is removed. -/
theorem build_eq_buildInto {σ : Type} (provider : Provider σ) (world : σ) {files made : Files}
    {target : Path} (hm : files.makeDirectories target.parent = .ok made)
    (hd : files.hasDirectory (target.withEnding draftEnding) = false) :
    let draft := target.withEnding draftEnding
    ∃ base, build provider target { files, world } =
        Work.buildInto provider draft target { files := base, world } ∧
      base.node? draft.names = none ∧
      (target.names ≠ [] → base.node? target.names = files.node? target.names) ∧
      ∀ names, names ≠ draft.names → base.node? names = files.node? names ∨
        files.node? names = none ∧ base.node? names = some .directory := by
  intro draft
  have hnil : draft.names ≠ [] := draft_ne_nil target
  have hdrop : draft.names.dropLast = target.names.dropLast := dropLast_draft target
  obtain rfl := Files.makeDirectories_eq_ok hm
  -- neither the target nor the draft is a directory that was made
  have same {names : List String} (h : names ∉ Path.stations target.names.dropLast) :
      (files.addDirectories target.names.dropLast).node? names = files.node? names := by
    rw [Files.node?_addDirectories, if_neg h, Option.or_none]
  have ofDraft := same (hdrop ▸ Files.not_mem_stations_dropLast hnil)
  obtain ⟨base, discarded, absent, kept⟩ :=
    Work.discard_old { files := files.addDirectories target.parent.names, world } hnil
      ((Files.hasDirectory_congr ofDraft).trans hd)
  refine ⟨base, ?_, absent, fun root => ?_, fun names h => ?_⟩
  · rw [build, Work.bind_apply]
    simp only [Work.onFiles, hm]
    rw [Work.bind_apply, discarded]
  · exact (kept _ (ne_draft target)).trans (same (Files.not_mem_stations_dropLast root))
  · rw [kept names h, Files.node?_addDirectories]
    cases files.node? names with
    | some node => exact .inl rfl
    | none => split <;> simp

/-- **Packing is all or nothing.** Let neither the target nor the draft be a directory. Whatever a
provider refuses is the only fault, and it is what packing fails for; unless it asks to end the
program, the target is then what it was and there is no draft. If nothing is refused and the
directory can be made, the target is a bundle of just what was inserted, and there is no draft.
Everything else stays as it was, but for directories that were missing. What a supply gives is
packed no differently. -/
theorem build_all_or_nothing {σ : Type} (provider : Provider σ) (world : σ) (files : Files)
    (target : Path) (hd : files.hasDirectory (target.withEnding draftEnding) = false)
    (ht : files.hasDirectory target = false) :
    let draft := target.withEnding draftEnding
    let built := build provider target { files, world }
    let after := built.2.files
    let bundle := Bundle.ofInsertions built.2.inserted
    (∀ fault ∈ built.2.raised, built.1 = .error fault ∧ built.2.raised = [fault] ∧
      (fault.isExit = false →
        after.node? target.names = files.node? target.names ∧ after.node? draft.names = none)) ∧
    (built.2.raised = [] →
      (∃ fault, files.makeDirectories target.parent = .error fault ∧
        built.1 = .error (.file fault) ∧ after = files) ∨
      built.1 = .ok bundle ∧ after.node? target.names = some (.bundle bundle) ∧
        after.node? draft.names = none) ∧
    (∀ names, names ≠ target.names → names ≠ draft.names →
      after.node? names = files.node? names ∨
        files.node? names = none ∧ after.node? names = some .directory) ∧
    ∀ supply, pack files supply target =
      .ofWork (build Provider.supply target { files, world := supply }) := by
  have hne := ne_draft target
  have root : target.names ≠ [] := by
    intro he
    simp [Files.hasDirectory, he] at ht
  intro draft
  have packed := fun supply => build_supply files supply target
  cases hm : files.makeDirectories target.parent with
  | error fault =>
    have refused : build provider target { files, world } =
        (.error (.file fault), { files, world }) := by
      rw [build, Work.bind_apply]
      simp only [Work.onFiles, hm]
    rw [refused]
    exact ⟨List.forall_mem_nil _, fun _ => .inl ⟨fault, rfl, rfl, rfl⟩, fun _ _ _ => .inl rfl,
      packed⟩
  | ok made =>
    obtain ⟨base, prepared, absent, before, others⟩ := build_eq_buildInto provider world hm hd
    rw [prepared]
    have whole : base.hasDirectory target = false :=
      (Files.hasDirectory_congr (before root)).trans ht
    obtain ⟨ho, hr, hf⟩ | ⟨fault, ho, hr, hf⟩ :=
      Work.buildInto_spec provider absent hne whole world
    · simp only [ho, hr, hf]
      refine ⟨List.forall_mem_nil _, fun _ => .inr ⟨trivial, Files.node?_put_self root, ?_⟩,
        fun names hn hd => ?_, packed⟩
      · rw [Files.node?_put_of_ne hne.symm, absent]
      · rw [Files.node?_put_of_ne hn]
        exact others names hd
    · simp only [ho, hr]
      refine ⟨fun other hm => ?_, fun none => absurd none (List.cons_ne_nil _ _),
        fun names hn hd => ?_, packed⟩
      · obtain rfl := List.mem_singleton.1 hm
        refine ⟨rfl, rfl, fun hx => ?_⟩
        rw [hf, hx]
        exact ⟨before root, absent⟩
      · rw [hf]
        split
        · rw [Files.node?_put_of_ne hd]
          exact others names hd
        · exact others names hd

/-- Two buckets of one index, the second of which may be out of reach. -/
def Provider.sample (reached : Bool) : Provider Unit
  | _, .indexes, _ => (.ok ["all"], ())
  | _, .partition index, _ => (.ok { index }, ())
  | _, .bucketIds _, _ => (.ok ["all_0", "all_1"], ())
  | _, .fetch bucket, _ =>
    (if reached || bucket != "all_1" then .ok (some "[]") else .error (.unreachable bucket), ())
  | _, .parse bucket, _ => (BucketId.parse bucket, ())
  | _, .insert _, _ => (.ok (), ())
  | _, .commit, _ => (.ok (), ())

/-- An old bundle and the draft of a packing that was ended lie in the directory. If the second
bucket is out of reach, the bundle stays; else it is replaced. The draft is removed in any case. -/
theorem build_all_or_nothing_of_old :
    let target : Path := { names := ["all.bundle"] }
    let draft := target.withEnding draftEnding
    let old : Bundle := { sections := [("old", "abc")] }
    let files : Files := [(["all.bundle"], .bundle old), (["all.bundle.tmp"], .bundle {})]
    let built (reached : Bool) := build (Provider.sample reached) target { files, world := () }
    let bundle : Bundle :=
      { sections := [("all", defaultAlphabet)]
        rows := [("all_0", ⟨"all", "[]"⟩), ("all_1", ⟨"all", "[]"⟩)] }
    files.node? target.names = some (.bundle old) ∧ files.node? draft.names = some (.bundle {}) ∧
      (built false).1 = .error (.unreachable "all_1") ∧
      (built false).2.files.node? target.names = files.node? target.names ∧
      (built false).2.files.node? draft.names = none ∧
      (built true).1 = .ok bundle ∧
      (built true).2.files.node? target.names = some (.bundle bundle) ∧
      (built true).2.files.node? draft.names = none := by
  intro target draft old files built bundle
  have drafted : files.hasDirectory draft = false := by decide
  have whole : files.hasDirectory target = false := by decide
  have made : files.makeDirectories target.parent = .ok files := rfl
  have held : Bundle.ofInsertions
      (build (Provider.sample true) target { files, world := () }).2.inserted = bundle := by
    decide +kernel
  obtain ⟨refused, -, -, -⟩ :=
    build_all_or_nothing (Provider.sample false) () files target drafted whole
  obtain ⟨-, done, -, -⟩ :=
    build_all_or_nothing (Provider.sample true) () files target drafted whole
  obtain ⟨left, -, kept⟩ := refused (.unreachable "all_1") (by decide +kernel)
  obtain ⟨same, removed⟩ := kept rfl
  rcases done (by decide +kernel) with ⟨fault, hm, -⟩ | ⟨packed, there, gone⟩
  · rw [made] at hm
    cases hm
  · rw [held] at packed there
    simp only [built]
    exact ⟨by decide, by decide, left, same, removed, packed, there, gone⟩

end SymbolLookup

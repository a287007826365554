import SymbolLookup.Proofs.Desk.Draining
import SymbolLookup.Proofs.Text.Surrounding
import SymbolLookup.Web.Service
import SymbolLookup.Web.Start
/-!
# Blank queries

Nobody who asks the web for a blank query can tell that no desk is asked.

## Main definitions

* `Result.empty`: the answer that nothing was found.
* `Desk.CanList`: whether a desk is open and can list its buckets.
* `Web.Serves`: whether a desk is one at which the web may be served.

## Main results

* `Desk.search_of_blank`: what a search for a blank query gives.
* `Web.blanks_never_matter`: blanks around a query do not matter to anyone, and queries of nothing
  but blanks are answered as a search would answer them.

## Design notes

A search lists the buckets even if none of them can hold an answer, so a desk that is closed, or
whose source cannot list them, refuses a blank query as any other. The web never serves such desks.
-/

namespace SymbolLookup

open Text

/-- The answer to a query for which nothing was found, or was to be found. -/
def Result.empty (query : String) : Result := { query := some query, key := "", groups := [] }

namespace Desk

variable {desk : Desk} {query : String}

theorem answer_nil (key : String) (mode : Mode) (limit : Option Int) :
    answer [] key mode limit = [] := by
  have none : rankAll [] key = [] := by simp [rankAll, groups]
  simp only [answer, hits, List.flatMap_nil, ite_self, rank, none]
  cases limit with
  | none => rfl
  | some k => exact List.take_nil

/-- For a blank query an open desk that can list its buckets finds nothing, and nothing goes
wrong. -/
theorem search_of_blank (h : normalize query = "") (desk : Desk) (shown : Int) (turns : Turns) :
    (desk.search (some query) (some (.integer shown)) turns).1 =
      if desk.isOpen then desk.bucketIds.map fun _ => .empty query else .error .closed := by
  have key : queryKey (some query) = "" := h
  have none (buckets : List String) :
      candidates (queryKey (some query)) buckets desk.partition desk.mode = [] := if_pos key
  have listed : (desk.poised turns).bucketIds = desk.bucketIds :=
    (desk.worksOn_poised turns).buckets
  simp only [search, gatherFrom, none, listed]
  cases desk.isOpen with
  | false => rfl
  | true =>
    cases desk.bucketIds with
    | error fault => rfl
    | ok buckets =>
      -- nothing is waited for, so nothing is gathered
      have nothing : ((desk.poised turns).obtain []).1 = .ok [] := rfl
      generalize (desk.poised turns).obtain [] = obtained at nothing
      obtain ⟨found, after⟩ := obtained
      cases (nothing : found = .ok [])
      have empty : ({ query := some query, key := queryKey (some query)
                      groups := answer [] (queryKey (some query)) after.mode (some shown) } :
          Result) = .empty query := by
        rw [answer_nil, key, Result.empty]
      exact congrArg Except.ok empty

/-- Whether a desk is open and can list its buckets. -/
def CanList (desk : Desk) : Prop :=
  desk.isOpen = true ∧ ∃ buckets, desk.bucketIds = .ok buckets

theorem CanList.drained (h : desk.CanList) : desk.drained.CanList := by
  obtain ⟨ho, buckets, hb⟩ := h
  exact ⟨desk.isOpen_drained.trans ho, buckets, desk.worksOn_drained.buckets.trans hb⟩

theorem CanList.requestAll (h : desk.CanList) {buckets : List String}
    {fetched : List (String × Fetched)} {cache : Cache}
    (hq : desk.cache.requestAll buckets = .ok (fetched, cache)) :
    CanList { desk with cache } :=
  ⟨(Cache.isOpen_requestAll hq).trans h.1, h.2⟩

/-- A desk that was opened can list its buckets. -/
theorem canList_of_ofSupply {supply : Supply} {opening : Opening}
    (h : ofSupply supply opening = .ok desk) : desk.CanList := by
  unfold ofSupply at h
  simp only [bind, Except.bind, pure, Except.pure, throw, throwThe, MonadExceptOf.throw] at h
  repeat' split at h
  all_goals cases h
  exact ⟨rfl, _, ‹_›⟩

end Desk

namespace Web

/-! ## Desks at which the web is served -/

/-- Whether a desk is one at which the web may be served: it was opened, its shards may have been
loaded, and it may have answered requests. -/
inductive Serves : Desk → Prop where
  | opened {supply : Supply} {opening : Opening} {desk : Desk}
      (h : Desk.ofSupply supply opening = .ok desk) : Serves desk
  | preloaded {desk : Desk} (h : Serves desk) : Serves (desk.preload .joined).2
  | answered {desk after : Desk} (h : Serves desk) {target : Target}
      (ha : (answer (some desk) target).2 = some after) : Serves after

/-- What is kept when loads have their turns and when buckets are asked for is kept by every
answer. -/
theorem answer_induction {p : Desk → Prop} (drain : ∀ desk, p desk → p desk.drained)
    (ask : ∀ (desk : Desk) (buckets : List String) (fetched : List (String × Fetched))
      (cache : Cache), desk.cache.requestAll buckets = .ok (fetched, cache) → p desk →
        p { desk with cache }) {desk after : Desk} (h : p desk) {target : Target}
    (ha : (answer (some desk) target).2 = some after) : p after := by
  have searched := Desk.search_induction drain ask h (some target.query)
    (some (.integer target.shown)) .joined
  unfold answer at ha
  split at ha
  · unfold search at ha
    split at ha
    · cases ha
      exact h
    · simp only [searchAt] at ha
      generalize desk.search (some target.query) (some (.integer target.shown)) .joined = found
        at ha searched
      obtain ⟨result, other⟩ := found
      cases result <;> cases ha <;> exact searched
  · cases ha
    exact h
  · cases ha
    exact h
  · cases ha
    exact h

/-- The web is served at desks that can list their buckets. -/
theorem Serves.canList {desk : Desk} (h : Serves desk) : desk.CanList := by
  have drain (desk : Desk) (h : desk.CanList) : desk.drained.CanList := h.drained
  have ask (desk : Desk) (buckets : List String) (fetched : List (String × Fetched))
      (cache : Cache) (hq : desk.cache.requestAll buckets = .ok (fetched, cache))
      (h : desk.CanList) : Desk.CanList { desk with cache } := h.requestAll hq
  induction h with
  | opened h => exact Desk.canList_of_ofSupply h
  | preloaded _ ih => exact Desk.gatherFrom_induction drain ask ih id .joined
  | answered _ ha ih => exact answer_induction drain ask ih ha

/-- The desk at which the service starts is one of them. -/
theorem serves_of_start {settings : Settings} {words : List String} {files : Files} {here : Path}
    {interpreter : Interpreter} {command : Command} {desk : Desk}
    (h : start settings words files here interpreter = .serving command desk) : Serves desk := by
  unfold start at h
  split at h
  · cases h
  · rename_i given _
    simp only at h
    split at h
    · cases h
    · rename_i opened ho
      have served : Serves opened := by
        unfold Subject.desk Desk.ofAddress at ho
        obtain ⟨source, -, ho⟩ := exists_of_bind_eq_ok ho
        exact .opened ho
      unfold startAt at h
      split at h
      · have preloaded := served.preloaded
        generalize opened.preload .joined = loaded at h preloaded
        obtain ⟨result, after⟩ := loaded
        cases result <;> cases h
        exact preloaded
      · cases h
        exact served

/-! ## Blanks -/

theorem normalize_eq_empty_iff {text : String} : normalize text = "" ↔ trim text.toList = [] := by
  rw [← normalizeChars_eq_nil_iff, normalize, String.ofList_eq_empty_iff]

theorem isBlankQuery_iff {query : String} : isBlankQuery query = true ↔ normalize query = "" := by
  rw [normalize_eq_empty_iff, isBlankQuery, List.isEmpty_iff]

theorem search_of_blank {target : Target} (h : normalize target.query = "") (desk : Option Desk) :
    search desk target = (.found target.query [] 0 [], desk) :=
  if_pos (isBlankQuery_iff.2 h)

/-- Who asks a desk that serves for a blank query is told what the web tells without asking. -/
theorem Serves.search_of_blank {desk : Desk} (hd : Serves desk) {query : String}
    (h : normalize query = "") (shown : Int) :
    (∀ turns, (desk.search (some query) (some (.integer shown)) turns).1 = .ok (.empty query)) ∧
      (searchAt desk query shown).1 = .found query [] 0 [] := by
  obtain ⟨ho, buckets, hb⟩ := hd.canList
  have found (turns : Turns) : (desk.search (some query) (some (.integer shown)) turns).1 =
      .ok (.empty query) := by
    rw [Desk.search_of_blank h, if_pos ho, hb, Except.map]
  refine ⟨found, ?_⟩
  have found := found .joined
  unfold searchAt
  generalize desk.search (some query) (some (.integer shown)) .joined = answered at found
  obtain ⟨result, after⟩ := answered
  cases (found : result = .ok (.empty query))
  rfl

/-- **Blanks around a text never matter.** The search key of a text does not depend on the blanks
around the text, has no blanks around it, and is empty just if the text is nothing but blanks. The
queries with the empty key are just those which the web answers without a desk, with no groups, no
total and no warnings. A search for such a query finds the same at every desk that is open and can
list its buckets, and so does every desk at which the web is served. -/
theorem blanks_never_matter :
    (∀ w₁ text w₂ : String, IsBlankText w₁.toList → IsBlankText w₂.toList →
      normalize (w₁ ++ text ++ w₂) = normalize text) ∧
    (∀ (text : String) (c : Char), ((normalize text).toList.head? = some c ∨
      (normalize text).toList.getLast? = some c) → isBlank c = false) ∧
    (∀ text, normalize text = "" ↔ trim text.toList = []) ∧
    (∀ query, isBlankQuery query = true ↔ normalize query = "") ∧
    (∀ (target : Target) (desk : Desk), normalize target.query ≠ "" →
      search (some desk) target = ((searchAt desk target.query target.shown).1,
        some (searchAt desk target.query target.shown).2)) ∧
    (∀ target : Target, normalize target.query = "" →
      (∀ desk, search desk target = (.found target.query [] 0 [], desk)) ∧
      (∀ (desk : Desk) (turns : Turns),
        (desk.search (some target.query) (some (.integer target.shown)) turns).1 =
          if desk.isOpen then desk.bucketIds.map fun _ => .empty target.query
          else .error .closed) ∧
      ∀ desk, Serves desk →
        (∀ turns, (desk.search (some target.query) (some (.integer target.shown)) turns).1 =
          .ok (.empty target.query)) ∧
        (searchAt desk target.query target.shown).1 = .found target.query [] 0 []) ∧
    ∀ (settings : Settings) (words : List String) (files : Files) (here : Path)
      (interpreter : Interpreter) (command : Command) (desk : Desk),
      start settings words files here interpreter = .serving command desk → Serves desk := by
  refine ⟨fun w₁ text w₂ h₁ h₂ => ?_, fun text c h => ?_, fun _ => normalize_eq_empty_iff,
    fun _ => isBlankQuery_iff, fun target desk h => ?_, fun target h => ⟨search_of_blank h,
    fun desk => Desk.search_of_blank h desk _, fun desk hd => hd.search_of_blank h _⟩,
    fun _ _ _ _ _ _ _ h => serves_of_start h⟩
  · rw [normalize, String.toList_append, String.toList_append, normalizeChars_surrounded h₁ h₂,
      normalize]
  · rw [normalize, String.toList_ofList] at h
    exact isBlank_of_normalizeChars h
  · have asked : ¬isBlankQuery target.query = true := mt isBlankQuery_iff.1 h
    rw [search, if_neg asked]

/-- A text that begins with a mark keeps its key when blanks are put around it, and the web is
served at a desk over one bucket that finds nothing for a query of two blanks. -/
theorem blanks_never_matter_of_sample :
    let target : Target := { path := [], parameters := [("q", " \u3000")] }
    normalize "\u2000\u0301A\t" = normalize "\u0301A" ∧ normalize target.query = "" ∧
      Serves Desk.sample ∧ ∀ turns,
        (Desk.sample.search (some " \u3000") (some (.integer 20)) turns).1 =
          .ok (.empty " \u3000") := by
  intro target
  obtain ⟨around, -, -, -, -, blank, -⟩ := blanks_never_matter
  have served : Serves Desk.sample := .opened (Desk.ofSupply_sample [])
  have key : normalize target.query = "" := by decide +kernel
  have between : "\u2000" ++ "\u0301A" ++ "\t" = "\u2000\u0301A\t" := by decide +kernel
  refine ⟨?_, key, served, ((blank target key).2.2 Desk.sample served).1⟩
  rw [← between]
  exact around "\u2000" "\u0301A" "\t" (by decide +kernel) (by decide +kernel)

end Web

end SymbolLookup

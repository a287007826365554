import SymbolLookup.Proofs.Desk.Draining
/-!
# Desks over other supplies

A desk does the same over any two supplies that answer all fetches alike.

## Main definitions

* `Supply.Alike`: whether two supplies answer all fetches alike.
* `Desk.restocked`: a desk over another supply.
* `Desk.Exchangeable`: whether a desk may be put over another supply.

## Main results

* `Desk.exchanges_perform`: every task is done alike.
* `Agenda.run_restocked`: so are all tasks together.
* `Desk.search_restocked`: a query is answered alike, and the desks are alike afterwards.
* `Desk.answers_restocked`: all queries are answered alike.

## Design notes

The partition of a desk is looked at only by those who wait for an answer, so it may be exchanged
together with the supply.
-/

namespace SymbolLookup

/-- Whether two supplies without outages answer all fetches alike. -/
structure Supply.Alike (supply other : Supply) : Prop where
  steady : supply.outages = []
  others : other.outages = []
  fetch : ∀ bucket, supply.source.fetch supply.files bucket = other.source.fetch other.files bucket

/-- A fetch changes neither of the supplies. -/
theorem Supply.Alike.fetch_eq {supply other : Supply} (h : supply.Alike other) (bucket : String) :
    ∃ answer, supply.fetch bucket = (answer, supply) ∧ other.fetch bucket = (answer, other) := by
  obtain ⟨source, files, outages, unlisted⟩ := supply
  obtain ⟨source', files', outages', unlisted'⟩ := other
  obtain ⟨rfl, rfl, hf⟩ := h
  exact ⟨_, rfl, by rw [hf]; rfl⟩

/-- A desk over another supply and with another partition. -/
def Desk.restocked (desk : Desk) (supply : Supply) (partition : Partition) : Desk :=
  { desk with supply, partition }

namespace Desk

variable {desk : Desk} {other : Supply} {partition : Partition}

@[simp] theorem restocked_cache :
    (desk.restocked other partition).cache = desk.cache := rfl

@[simp] theorem restocked_sessions :
    (desk.restocked other partition).sessions = desk.sessions := rfl

@[simp] theorem restocked_outcomes :
    (desk.restocked other partition).outcomes = desk.outcomes := rfl

@[simp] theorem restocked_rules :
    (desk.restocked other partition).rules = desk.rules := rfl

@[simp] theorem restocked_interpreter :
    (desk.restocked other partition).interpreter = desk.interpreter := rfl

/-- Whether what is done by a desk is done by it over another supply too, and leaves its supply as
it is. -/
def Exchanges (other : Supply) (partition : Partition) (act : Desk → Desk × List Task)
    (desk : Desk) : Prop :=
  act (desk.restocked other partition) = ((act desk).1.restocked other partition, (act desk).2) ∧
    (act desk).1.supply = desk.supply

theorem exchanges_submit (number : Nat) (query : Option String) (followUp : Option FollowUp) :
    Exchanges other partition (·.submit number query followUp) desk := by
  simp only [Exchanges, submit, restocked_sessions]
  split <;> exact ⟨rfl, rfl⟩

theorem exchanges_look (ticket : Ticket) :
    Exchanges other partition (·.look ticket) desk := by
  simp only [Exchanges, look, restocked_sessions, restocked_cache]
  split
  · exact ⟨rfl, rfl⟩
  · split
    · exact ⟨rfl, rfl⟩
    · simp only [join]
      split
      · exact ⟨rfl, rfl⟩
      · split <;> exact ⟨rfl, rfl⟩

theorem exchanges_tellDone (desk : Desk) (number : Nat) (outcome : Outcome) (answered : Answered) :
    Exchanges other partition (·.tellDone number outcome answered) desk := by
  simp only [Exchanges, tellDone]
  split <;> exact ⟨rfl, rfl⟩

theorem exchanges_handOut (number : Nat) :
    Exchanges other partition (·.handOut number) desk := by
  simp only [Exchanges, handOut, restocked_outcomes]
  split
  · exact ⟨rfl, rfl⟩
  · split
    · exact ⟨rfl, rfl⟩
    · exact exchanges_tellDone (desk.setOutcome number _) _ _ _

theorem exchanges_resolve (number : Nat) (answered : Answered) :
    Exchanges other partition (·.resolve number answered) desk := by
  simp only [Exchanges, resolve, restocked_outcomes]
  split
  · exact ⟨rfl, rfl⟩
  · split
    · exact ⟨rfl, rfl⟩
    · split
      · exact exchanges_tellDone (desk.setOutcome number _) _ _ _
      · exact ⟨rfl, rfl⟩

theorem exchanges_call (call : Call) : Exchanges other partition (·.call call) desk := by
  simp only [Exchanges, Desk.call, restocked_sessions, restocked_rules]
  split
  · exact ⟨rfl, rfl⟩
  · split
    · exact ⟨rfl, rfl⟩
    · split <;> exact ⟨rfl, rfl⟩

theorem exchanges_settle (ticket : Ticket) :
    Exchanges other partition (·.settle ticket) desk := by
  simp only [Exchanges, settle, restocked_sessions, restocked_cache]
  split
  · exact ⟨rfl, rfl⟩
  · split
    · exact ⟨rfl, rfl⟩
    · split
      · split <;> exact ⟨rfl, rfl⟩
      · exact ⟨rfl, rfl⟩

theorem exchanges_runLoad (h : desk.supply.Alike other) (number : Nat) :
    Exchanges other partition (·.runLoad number) desk := by
  simp only [Exchanges, runLoad, restocked_cache]
  split
  · exact ⟨rfl, rfl⟩
  · rename_i load _
    split
    · exact ⟨rfl, rfl⟩
    · obtain ⟨answer, hf, ho⟩ := h.fetch_eq load.bucket
      have hs : (desk.restocked other partition).supply = other := rfl
      simp only [fetch, hs, hf, ho, restocked_interpreter]
      simp only [arrive]
      split <;> exact ⟨rfl, rfl⟩

theorem exchanges_drain : Exchanges other partition (·.drain) desk := by
  simp only [Exchanges, drain, restocked_cache]
  split <;> exact ⟨rfl, rfl⟩

/-- Every task is done alike over supplies that are alike. -/
theorem exchanges_perform (h : desk.supply.Alike other) (partition : Partition) (task : Task) :
    Exchanges other partition (·.perform task) desk := by
  cases task with
  | submit => exact exchanges_submit _ _ _
  | look => exact exchanges_look _
  | handOut => exact exchanges_handOut _
  | call => exact exchanges_call _
  | resolve => exact exchanges_resolve _ _
  | settle => exact exchanges_settle _
  | load => exact exchanges_runLoad h _
  | drain => exact exchanges_drain
  | deliver | conclude | finish | raise | guard => exact ⟨rfl, rfl⟩

end Desk

/-! ## Running -/

namespace Agenda

/-- An agenda over another supply. -/
def restocked (agenda : Agenda) (other : Supply) (partition : Partition) : Agenda :=
  { agenda with desk := agenda.desk.restocked other partition }

/-- A task that is no fault is done by the desk. -/
theorem step?_cons {task : Task} (h : ∀ fault, task ≠ .raise fault) (desk : Desk)
    (tasks : List Task) (escaped : Option Fault) :
    step? ⟨desk, task :: tasks, escaped⟩ =
      some ⟨(desk.perform task).1, (desk.perform task).2 ++ tasks, escaped⟩ := by
  cases task with
  | raise fault => exact absurd rfl (h fault)
  | _ => rfl

variable {agenda : Agenda} {other : Supply}

theorem step?_restocked (h : agenda.desk.supply.Alike other) (partition : Partition) :
    (agenda.restocked other partition).step? = agenda.step?.map (·.restocked other partition) ∧
      ∀ after, agenda.step? = some after → after.desk.supply = agenda.desk.supply := by
  obtain ⟨desk, tasks, escaped⟩ := agenda
  cases tasks with
  | nil =>
    refine ⟨rfl, ?_⟩
    intro after hn
    cases hn
  | cons task tasks =>
    -- a fault takes its way without the desk, and all else is done by the desk alone
    by_cases hr : ∃ fault, task = .raise fault
    · obtain ⟨fault, rfl⟩ := hr
      refine ⟨rfl, ?_⟩
      rintro after ⟨⟩
      rfl
    · have ht : ∀ fault, task ≠ .raise fault := fun fault he => hr ⟨fault, he⟩
      obtain ⟨he, hs⟩ := Desk.exchanges_perform h partition task
      have he : (desk.restocked other partition).perform task =
        ((desk.perform task).1.restocked other partition, (desk.perform task).2) := he
      constructor
      · rw [restocked, step?_cons ht, step?_cons ht, he]
        rfl
      · intro after hn
        rw [step?_cons ht] at hn
        cases hn
        exact hs

/-- All tasks are done alike over supplies that are alike. -/
theorem run_restocked (h : agenda.desk.supply.Alike other) (partition : Partition) :
    (agenda.restocked other partition).run = agenda.run.restocked other partition ∧
      agenda.run.desk.supply = agenda.desk.supply := by
  fun_induction run agenda with
  | case1 agenda hn =>
    refine ⟨run_of_none ?_, rfl⟩
    rw [(step?_restocked h partition).1, hn, Option.map_none]
  | case2 agenda after step _ ih =>
    obtain ⟨he, hs⟩ := step?_restocked h partition
    have hs := hs after step
    rw [← hs] at h
    obtain ⟨hr, hd⟩ := ih h
    rw [step, Option.map_some] at he
    exact ⟨(run_of_some he).trans hr, hd.trans hs⟩

end Agenda

namespace Desk

variable {desk : Desk} {other : Supply} {partition : Partition}

theorem drained_restocked (h : desk.supply.Alike other) (partition : Partition) :
    (desk.restocked other partition).drained = desk.drained.restocked other partition ∧
      desk.drained.supply = desk.supply := by
  have hd : (Agenda.mk desk [.drain] none).desk.supply.Alike other := h
  obtain ⟨he, hs⟩ := Agenda.run_restocked hd partition
  exact ⟨congrArg Agenda.desk he, hs⟩

theorem poised_restocked (h : desk.supply.Alike other) (partition : Partition) (turns : Turns) :
    (desk.restocked other partition).poised turns =
        (desk.poised turns).restocked other partition ∧
      (desk.poised turns).supply = desk.supply :=
  match turns with
  | .first => drained_restocked h partition
  | .joined => ⟨rfl, rfl⟩

theorem obtain_restocked (h : desk.supply.Alike other) (partition : Partition)
    (buckets : List String) :
    (desk.restocked other partition).obtain buckets =
        ((desk.obtain buckets).1, (desk.obtain buckets).2.restocked other partition) ∧
      (desk.obtain buckets).2.supply = desk.supply := by
  unfold Desk.obtain
  rw [restocked_cache]
  split
  · exact ⟨rfl, rfl⟩
  · rename_i fetched cache _
    have hc : ({ desk with cache } : Desk).supply.Alike other := h
    obtain ⟨hd, hs⟩ := drained_restocked hc partition
    have hd : ({ desk.restocked other partition with cache } : Desk).drained =
      ({ desk with cache } : Desk).drained.restocked other partition := hd
    simp only [hd, restocked_cache]
    split <;> exact ⟨rfl, hs⟩

/-- Whether a desk may be put over another supply and get another partition: the supplies answer
all fetches alike and list the same buckets, among which both partitions find the same. -/
structure Exchangeable (desk : Desk) (other : Supply) (partition : Partition)
    (buckets : List String) : Prop where
  alike : desk.supply.Alike other
  listed : desk.supply.bucketIds desk.index = .ok buckets
  others : other.bucketIds desk.index = .ok buckets
  found : ∀ key, candidates key buckets partition desk.mode =
    candidates key buckets desk.partition desk.mode

variable {buckets : List String}

/-- What is chosen among the buckets is gathered alike. -/
theorem gatherFrom_restocked (h : desk.Exchangeable other partition buckets)
    (choose select : List String → List String) (hc : select buckets = choose buckets)
    (turns : Turns) :
    (desk.restocked other partition).gatherFrom select turns =
        ((desk.gatherFrom choose turns).1,
          (desk.gatherFrom choose turns).2.restocked other partition) ∧
      (desk.gatherFrom choose turns).2.supply = desk.supply := by
  obtain ⟨hd, hs⟩ := poised_restocked h.alike partition turns
  have hb : (desk.poised turns).bucketIds = .ok buckets := by
    rw [bucketIds, hs, index_poised, h.listed]
  have ho : ((desk.poised turns).restocked other partition).bucketIds = .ok buckets :=
    (congrArg other.bucketIds (desk.index_poised turns)).trans h.others
  have hi : (desk.restocked other partition).isOpen = desk.isOpen := rfl
  have hn : (desk.poised turns).supply.Alike other := hs ▸ h.alike
  obtain ⟨he, hf⟩ := obtain_restocked hn partition (choose buckets)
  unfold gatherFrom
  rw [hi, hd]
  split
  · exact ⟨rfl, rfl⟩
  · simp only [hb, ho, hc, he]
    have hf := hf.trans hs
    generalize (desk.poised turns).obtain (choose buckets) = obtained at hf
    obtain ⟨found, after⟩ := obtained
    cases found <;> exact ⟨rfl, hf⟩

/-- The answer to a query, from what is gathered for it. -/
theorem search_eq (desk : Desk) (query : Option String) (limit : Option Amount) {turns : Turns}
    {found : Except Fault Collected} {after : Desk}
    (h : desk.gatherFrom (fun buckets =>
      candidates (queryKey query) buckets desk.partition desk.mode) turns = (found, after)) :
    desk.search query limit turns = (found.bind fun all => (readLimit limit).map fun count =>
      { query, key := queryKey query, groups := answer all.shards (queryKey query) after.mode count
        warnings := all.failures.map failureMessage }, after) := by
  simp only [search, h]
  cases found with
  | error => rfl
  | ok all => cases readLimit limit <;> rfl

/-- A query is answered alike, and the desks may be exchanged afterwards too. -/
theorem search_restocked (h : desk.Exchangeable other partition buckets) (query : Option String)
    (limit : Option Amount) (turns : Turns) :
    (desk.restocked other partition).search query limit turns =
        ((desk.search query limit turns).1,
          (desk.search query limit turns).2.restocked other partition) ∧
      (desk.search query limit turns).2.Exchangeable other partition buckets := by
  obtain ⟨hg, hs⟩ := gatherFrom_restocked h
    (fun buckets => candidates (queryKey query) buckets desk.partition desk.mode)
    (fun buckets => candidates (queryKey query) buckets partition desk.mode)
    (h.found (queryKey query)) turns
  have hw := desk.worksOn_search query limit turns
  have hi := desk.index_search query limit turns
  rw [search_eq _ query limit hg]
  rw [search_eq desk query limit rfl] at hw hi ⊢
  refine ⟨rfl, ?_, ?_, ?_, ?_⟩
  · exact hs ▸ h.alike
  · exact hw.buckets.trans h.listed
  · exact hi ▸ h.others
  · intro key
    rw [hw.mode, hw.partition, h.found]

theorem answers_restocked (h : desk.Exchangeable other partition buckets) (turns : Turns)
    (asked : List (Option String × Option Amount)) :
    (desk.restocked other partition).answers turns asked = desk.answers turns asked := by
  induction asked generalizing desk with
  | nil => rfl
  | cons first asked ih =>
    obtain ⟨query, limit⟩ := first
    obtain ⟨hs, hn⟩ := search_restocked h query limit turns
    simp only [answers, hs, ih hn]

end Desk

end SymbolLookup

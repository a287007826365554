import SymbolLookup.Proofs.Cache.Growth
import SymbolLookup.Proofs.Desk.Ledger
/-!
# Tickets

What the tickets of queries tell, and what was handed out for them.

## Main definitions

* `Seeks`: the tickets for which buckets were asked for.
* `Desk.Serves`: whether a ticket names what was handed out for the buckets of its query.

## Main results

* `Course.linked`: the loads in flight are those of their buckets.
* `Course.serves`: what was handed out for a ticket belongs to the buckets of its query.
-/

namespace SymbolLookup

/-! ## The cache of a desk -/

theorem Move.grows {desk after : Desk} {task : Task} {next : List Task}
    (h : Move desk task after next) : desk.cache.Grows after.cache := by
  cases h with
  | lookEnded _ hr => exact Cache.grows_requestAll hr
  | lookWaits _ hr => exact (Cache.grows_requestAll hr).trans (Cache.grows_await _ _)
  | finish => exact Cache.grows_finish _ _ _
  | _ => exact .of_loads rfl

theorem Move.linked {desk after : Desk} {task : Task} {next : List Task}
    (h : Move desk task after next) (hl : desk.cache.Linked) : after.cache.Linked := by
  cases h with
  | lookEnded _ hr => exact hl.requestAll hr
  | lookWaits _ hr => exact (hl.requestAll hr).await _
  | finish => exact hl.finish _ _
  | load => exact hl.keep _
  | loadFailed => exact hl.forget _
  | _ => exact hl

theorem Begins.grows {desk : Desk} {after : Agenda} (h : Begins desk after) :
    desk.cache.Grows after.desk.cache := by
  cases h with
  | ask hr => exact Cache.grows_requestAll hr
  | _ => exact .of_loads rfl

theorem Begins.linked {desk : Desk} {after : Agenda} (h : Begins desk after)
    (hl : desk.cache.Linked) : after.desk.cache.Linked := by
  cases h with
  | ask hr => exact hl.requestAll hr
  | _ => exact hl

theorem Agenda.Step.grows {agenda after : Agenda} (h : agenda.Step after) :
    agenda.desk.cache.Grows after.desk.cache := by
  cases h with
  | move hm => exact hm.grows
  | raise => exact .refl _

/-- Throughout every course the loads in flight are those of their buckets. -/
theorem Course.linked {agenda : Agenda} {past : List Agenda} (h : Course (agenda :: past)) :
    agenda.desk.cache.Linked := by
  induction h using Course.induct with
  | opened => exact nofun
  | worked _ hs ih =>
    cases hs with
    | move hm => exact hm.linked ih
    | raise => exact ih
  | began _ _ hb ih => exact hb.linked ih

/-! ## What was handed out -/

/-- Whether buckets were asked for a ticket, when a desk still has to do with it. -/
def Seeks (cache : Cache) (tasks : List Task) (ticket : Ticket) : Prop :=
  .settle ticket ∈ tasks ∨ (∃ failures result, .deliver ticket failures result ∈ tasks) ∨
    cache.Waits ticket

theorem Seeks.inHand {cache : Cache} {tasks : List Task} {ticket : Ticket}
    (h : Seeks cache tasks ticket) : InHand cache tasks ticket := by
  obtain hm | ⟨_, _, hm⟩ | hw := h
  · exact .inl ⟨_, hm, rfl⟩
  · exact .inl ⟨_, hm, rfl⟩
  · exact .inr hw

/-- A fault that takes its way leaves no ticket that there was not before. -/
theorem Seeks.of_unwind {cache : Cache} {fault : Fault} {tasks : List Task} {ticket : Ticket}
    (h : Seeks cache (unwind fault tasks).1 ticket) :
    Seeks cache (.raise fault :: tasks) ticket := by
  obtain hm | ⟨failures, result, hm⟩ | hw := h
  · exact .inl (mem_of_mem_unwind hm (by simp))
  · exact .inr (.inl ⟨failures, result, mem_of_mem_unwind hm (by simp)⟩)
  · exact .inr (.inr hw)

/-- Whether a ticket names something that was handed out for each bucket of its query. -/
def Desk.Serves (desk : Desk) (ticket : Ticket) : Prop :=
  ∃ session, desk.sessions[ticket.session]? = some session ∧
    ∃ handed : String → Fetched,
      ticket.fetched = (candidates ticket.key session.buckets session.partition session.mode).map
        (fun bucket => (bucket, handed bucket)) ∧
      ∀ pair ∈ ticket.fetched, desk.cache.Backs pair.1 pair.2

/-- Buckets are newly asked for only when a query is looked for. -/
theorem Move.seeks_cases {desk after : Desk} {task : Task} {tasks next : List Task}
    (h : Move desk task after next) {ticket : Ticket}
    (hs : Seeks after.cache (next ++ tasks) ticket) : Seeks desk.cache (task :: tasks) ticket ∨
      ∃ earlier session fetched cache, task = .look earlier ∧
        desk.sessions[earlier.session]? = some session ∧
        desk.cache.requestAll (candidates earlier.key session.buckets session.partition
          session.mode) = .ok (fetched, cache) ∧
        ticket = { earlier with fetched } ∧ cache.Grows after.cache ∧
        after.sessions = desk.sessions := by
  obtain hm | ⟨failures, result, hm⟩ | hw := hs
  · rcases List.mem_append.1 hm with hm | hm
    · cases h.yields hm with
      | settle hs hr =>
        cases h with
        | lookEnded hs' hr' =>
          cases hs.symm.trans hs'
          cases hr.symm.trans hr'
          exact .inr ⟨_, _, _, _, rfl, hs, hr, rfl, .refl _, rfl⟩
        | lookRefused => simp at hm
        | lookNowhere => cases hm
        | lookWaits => cases hm
      | wake hw => exact .inl (.inr (.inr (Cache.waits_of_mem_waitingFor hw)))
    · exact .inl (.inl (List.mem_cons_of_mem _ hm))
  · rcases List.mem_append.1 hm with hm | hm
    · cases h.yields hm
      exact .inl (.inl List.mem_cons_self)
    · exact .inl (.inr (.inl ⟨_, _, List.mem_cons_of_mem _ hm⟩))
  · cases h with
    | lookEnded _ hr => exact .inl (.inr (.inr (Cache.waits_of_requestAll hr hw)))
    | lookWaits hs hr =>
      obtain hw | rfl := Cache.waits_of_await hw
      · exact .inl (.inr (.inr (Cache.waits_of_requestAll hr hw)))
      · exact .inr ⟨_, _, _, _, rfl, hs, hr, rfl, Cache.grows_await _ _, rfl⟩
    | finish => exact .inl (.inr (.inr (Cache.waits_of_finish hw)))
    | _ => exact .inl (.inr (.inr hw))

theorem Desk.Serves.frame {desk after : Desk} {ticket : Ticket} (h : desk.Serves ticket)
    (hs : ∀ session, desk.sessions[ticket.session]? = some session →
      ∃ other, after.sessions[ticket.session]? = some other ∧ session.SameTerms other)
    (hg : desk.cache.Grows after.cache) : after.Serves ticket := by
  obtain ⟨session, hn, handed, hf, hb⟩ := h
  obtain ⟨other, ho, ht⟩ := hs session hn
  refine ⟨other, ho, handed, ?_, fun pair hp => (hb pair hp).of_grows hg⟩
  rw [ht.buckets, ht.partition, ht.mode, hf]

/-- Throughout every course, what was handed out for a ticket belongs to the buckets of its
query. -/
theorem Course.serves {agenda : Agenda} {past : List Agenda} (h : Course (agenda :: past))
    {ticket : Ticket} (ht : Seeks agenda.desk.cache agenda.tasks ticket) :
    agenda.desk.Serves ticket := by
  induction h using Course.induct generalizing ticket with
  | opened =>
    obtain hm | ⟨_, _, hm⟩ | ⟨_, _, hl, _⟩ := ht
    · cases hm
    · cases hm
    · simp at hl
  | worked hc hs ih =>
    cases hs with
    | move hm =>
      obtain ht | ⟨earlier, session, fetched, cache, rfl, hn, hr, rfl, hg, he⟩ := hm.seeks_cases ht
      · exact (ih ht).frame (fun _ hs => hm.sameTerms hs) hm.grows
      · obtain ⟨handed, hf, hh⟩ := Cache.requestAll_eq_map hr
        refine ⟨session, by rw [he]; exact hn, handed, hf, ?_⟩
        intro pair hp
        obtain ⟨bucket, hb, rfl⟩ := List.mem_map.1 (hf ▸ hp)
        exact ((hc.linked.requestAll hr).backs_of_handed? (hh bucket hb)).of_grows hg
    | raise => exact ih ht.of_unwind
  | began _ _ hb ih =>
    have hw := hb.frame.waits ticket ht.inHand
    exact (ih (.inr (.inr hw))).frame
      (fun session hs => ⟨session, hb.session_of_session hs, rfl, rfl, rfl, rfl, rfl⟩) hb.grows

end SymbolLookup

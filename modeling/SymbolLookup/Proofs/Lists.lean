import Mathlib.Data.List.Forall2
import SymbolLookup.Fault
/-!
# Lists

What comes of the items of a list one by one, and what is left of a list without repetitions.

## Main results

* `nodup_eraseDups`: nothing is left twice.
* `mapM_eq_ok_iff`: what comes of all items is what comes of each.
-/

namespace SymbolLookup

theorem nodup_eraseDups {α : Type} [BEq α] [LawfulBEq α] (items : List α) :
    items.eraseDups.Nodup := by
  -- what is left behind the first item is shorter, but no part of the list
  induction hn : items.length using Nat.strongRecOn generalizing items with
  | ind length ih =>
    cases items with
    | nil => simp
    | cons item items =>
      rw [List.eraseDups_cons, List.nodup_cons]
      constructor
      · simp
      · refine ih _ ?_ _ rfl
        rw [← hn, List.length_cons]
        exact Nat.lt_succ_of_le (List.length_filter_le _ _)

/-- In a list without repetitions the next item is none of those before it. -/
theorem not_mem_of_nodup_append {α : Type} {before after : List α} {item : α}
    (h : (before ++ item :: after).Nodup) : item ∉ before :=
  fun hm => (List.nodup_append.1 h).2.2 _ hm _ List.mem_cons_self rfl

variable {α β ε : Type} {f : α → Except ε β} {items : List α} {values : List β}

theorem mapM_cons_eq_ok_iff {item : α} {value : β} :
    (item :: items).mapM f = .ok (value :: values) ↔
      f item = .ok value ∧ items.mapM f = .ok values := by
  rw [List.mapM_cons]
  generalize items.mapM f = others
  cases f item <;> cases others <;> simp [bind, Except.bind, pure, Except.pure]

/-- What comes of all items is what comes of each. -/
theorem mapM_eq_ok_iff :
    items.mapM f = .ok values ↔
      List.Forall₂ (fun item value => f item = .ok value) items values := by
  induction items generalizing values with
  | nil =>
    rw [List.mapM_nil, List.forall₂_nil_left_iff]
    exact ⟨fun h => (Except.ok.inj h).symm, fun h => h ▸ rfl⟩
  | cons item items ih =>
    cases values with
    | nil =>
      refine ⟨fun h => ?_, nofun⟩
      rw [List.mapM_cons] at h
      obtain ⟨_, -, h⟩ := exists_of_bind_eq_ok h
      obtain ⟨_, -, h⟩ := exists_of_bind_eq_ok h
      cases h
    | cons value values => rw [mapM_cons_eq_ok_iff, List.forall₂_cons, ih]

theorem mem_iff_of_mapM_eq_ok (h : items.mapM f = .ok values) :
    (∀ item ∈ items, ∃ value, f item = .ok value) ∧
      ∀ value, value ∈ values ↔ ∃ item ∈ items, f item = .ok value := by
  induction mapM_eq_ok_iff.1 h with
  | nil => simp
  | @cons item first items values hf hs ih =>
    obtain ⟨ha, hv⟩ := ih (mapM_eq_ok_iff.2 hs)
    refine ⟨List.forall_mem_cons.2 ⟨⟨first, hf⟩, ha⟩, fun value => ?_⟩
    rw [List.mem_cons, hv]
    simp [hf, eq_comm]

theorem exists_mapM_eq_ok (h : ∀ item ∈ items, ∃ value, f item = .ok value) :
    ∃ values, items.mapM f = .ok values := by
  induction items with
  | nil => exact ⟨[], rfl⟩
  | cons item items ih =>
    obtain ⟨⟨value, hv⟩, hs⟩ := List.forall_mem_cons.1 h
    obtain ⟨values, hm⟩ := ih hs
    exact ⟨value :: values, mapM_cons_eq_ok_iff.2 ⟨hv, hm⟩⟩

/-- What takes back every item takes back all of them. -/
theorem mapM_map_eq_ok {back : β → Except ε α} {f : α → β}
    (h : ∀ item ∈ items, back (f item) = .ok item) : (items.map f).mapM back = .ok items := by
  rw [mapM_eq_ok_iff, List.forall₂_map_left_iff, List.forall₂_same]
  exact h

end SymbolLookup

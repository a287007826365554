/-!
# Keyed lists

Values under keys, in the order in which the keys were first written.

## Main definitions

* `Keyed.get?`: the value under a key.
* `Keyed.put`: writes a value under a key, where an earlier one stood or else at the end.
* `Keyed.erase`: takes a key out.
-/

namespace SymbolLookup.Keyed

variable {κ α : Type} [DecidableEq κ]

/-- The value under a key. -/
def get? (key : κ) : List (κ × α) → Option α
  | [] => none
  | pair :: pairs => if pair.1 = key then some pair.2 else get? key pairs

/-- Whether something stands under a key. -/
def has (key : κ) (pairs : List (κ × α)) : Bool := (get? key pairs).isSome

/-- Writes a value under a key: an earlier value is replaced where it stands. -/
def put (key : κ) (value : α) : List (κ × α) → List (κ × α)
  | [] => [(key, value)]
  | pair :: pairs => if pair.1 = key then (key, value) :: pairs else pair :: put key value pairs

/-- Takes a key and its value out. -/
def erase (key : κ) (pairs : List (κ × α)) : List (κ × α) := pairs.filter (·.1 ≠ key)

/-- The keys in their order. -/
def keys (pairs : List (κ × α)) : List κ := pairs.map (·.1)

@[simp] theorem get?_put_self (key : κ) (value : α) (pairs : List (κ × α)) :
    get? key (put key value pairs) = some value := by
  induction pairs with
  | nil => simp [put, get?]
  | cons pair pairs ih => by_cases h : pair.1 = key <;> simp [put, get?, h, ih]

theorem get?_put_of_ne {key other : κ} (h : other ≠ key) (value : α) (pairs : List (κ × α)) :
    get? other (put key value pairs) = get? other pairs := by
  induction pairs with
  | nil => simp [put, get?, h.symm]
  | cons pair pairs ih =>
    by_cases hp : pair.1 = key
    · simp [put, get?, hp, h.symm]
    · simp [put, get?, hp, ih]

@[simp] theorem put_put_self (key : κ) (value earlier : α) (pairs : List (κ × α)) :
    put key value (put key earlier pairs) = put key value pairs := by
  induction pairs with
  | nil => simp [put]
  | cons pair pairs ih => by_cases h : pair.1 = key <;> simp [put, h, ih]

@[simp] theorem erase_put_self (key : κ) (value : α) (pairs : List (κ × α)) :
    erase key (put key value pairs) = erase key pairs := by
  induction pairs with
  | nil => simp [put, erase]
  | cons pair pairs ih =>
    by_cases h : pair.1 = key
    · simp [put, erase, h]
    · simpa [put, erase, h] using ih

@[simp] theorem get?_erase_self (key : κ) (pairs : List (κ × α)) :
    get? key (erase key pairs) = none := by
  induction pairs with
  | nil => rfl
  | cons pair pairs ih => by_cases h : pair.1 = key <;> simp_all [erase, get?]

theorem get?_erase_of_ne {key other : κ} (h : other ≠ key) (pairs : List (κ × α)) :
    get? other (erase key pairs) = get? other pairs := by
  induction pairs with
  | nil => rfl
  | cons pair pairs ih =>
    by_cases hp : pair.1 = key
    · have : pair.1 ≠ other := fun ho => h (ho.symm.trans hp)
      simp_all [erase, get?]
    · by_cases ho : pair.1 = other <;> simp_all [erase, get?]

theorem mem_of_get? {key : κ} {value : α} {pairs : List (κ × α)}
    (h : get? key pairs = some value) : (key, value) ∈ pairs := by
  induction pairs with
  | nil => cases h
  | cons pair pairs ih =>
    rw [get?] at h
    split at h
    · rename_i hp
      cases h
      cases hp
      exact List.mem_cons_self
    · exact List.mem_cons_of_mem _ (ih h)

theorem get?_eq_none {key : κ} {pairs : List (κ × α)} :
    get? key pairs = none ↔ key ∉ keys pairs := by
  induction pairs with
  | nil => simp [get?, keys]
  | cons pair pairs ih =>
    by_cases hp : pair.1 = key
    · simp [get?, keys, hp]
    · rw [get?, if_neg hp, ih]
      simp [keys, Ne.symm hp]

theorem erase_of_not_mem {key : κ} {pairs : List (κ × α)} (h : key ∉ keys pairs) :
    erase key pairs = pairs := by
  rw [erase, List.filter_eq_self]
  rintro pair hm
  exact decide_eq_true fun he => h (he ▸ List.mem_map_of_mem hm)

/-- A new key is written at the end. -/
theorem put_of_not_mem {key : κ} (value : α) {pairs : List (κ × α)} (h : key ∉ keys pairs) :
    put key value pairs = pairs ++ [(key, value)] := by
  induction pairs with
  | nil => rfl
  | cons pair pairs ih =>
    rw [keys, List.map_cons, List.mem_cons, not_or] at h
    rw [put, if_neg (Ne.symm h.1), ih h.2, List.cons_append]

/-- A key that is written again stays where it stood. -/
theorem keys_put_of_mem {key : κ} (value : α) {pairs : List (κ × α)} (h : key ∈ keys pairs) :
    keys (put key value pairs) = keys pairs := by
  induction pairs with
  | nil => cases h
  | cons pair pairs ih =>
    by_cases hp : pair.1 = key
    · simp [put, keys, hp]
    · have h : key ∈ keys pairs := (List.mem_cons.1 h).resolve_left (Ne.symm hp)
      rw [put, if_neg hp, keys, List.map_cons]
      exact congrArg (pair.1 :: ·) (ih h)

/-- Keys are written once each. -/
theorem nodup_keys_put (key : κ) (value : α) {pairs : List (κ × α)} (h : (keys pairs).Nodup) :
    (keys (put key value pairs)).Nodup := by
  by_cases hk : key ∈ keys pairs
  · rwa [keys_put_of_mem value hk]
  · rw [put_of_not_mem value hk, keys, List.map_append, List.nodup_append]
    refine ⟨h, by simp, ?_⟩
    rintro other ho last hl rfl
    obtain rfl : other = key := by simpa using hl
    exact hk ho

end SymbolLookup.Keyed

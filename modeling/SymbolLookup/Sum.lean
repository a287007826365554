/-!
# Sums

## Main definitions

* `sumOver`: the sum of the weights of some items.
-/

namespace SymbolLookup

/-- The sum of the weights of some items. -/
def sumOver (weight : α → Nat) : List α → Nat
  | [] => 0
  | item :: items => weight item + sumOver weight items

@[simp] theorem sumOver_nil (weight : α → Nat) : sumOver weight [] = 0 := rfl

@[simp] theorem sumOver_cons (weight : α → Nat) (item : α) (items : List α) :
    sumOver weight (item :: items) = weight item + sumOver weight items := rfl

@[simp] theorem sumOver_append (weight : α → Nat) (items others : List α) :
    sumOver weight (items ++ others) = sumOver weight items + sumOver weight others := by
  induction items with
  | nil => simp
  | cons item items ih => simp [ih, Nat.add_assoc]

theorem sumOver_set (weight : α → Nat) {items : List α} {place : Nat} {item : α}
    (h : items[place]? = some item) (other : α) :
    sumOver weight (items.set place other) + weight item = sumOver weight items + weight other := by
  induction items generalizing place with
  | nil => simp at h
  | cons first items ih =>
    cases place with
    | zero => simp_all; omega
    | succ place => simp at h; have := ih h; simp; omega

theorem sumOver_le_sumOver (weight : α → Nat) {items others : List α} (h : items.Sublist others) :
    sumOver weight items ≤ sumOver weight others := by
  induction h with
  | slnil => simp
  | cons item _ ih => simp; omega
  | cons_cons item _ ih => simp; omega

theorem sumOver_eq_zero {weight : α → Nat} {items : List α} (h : ∀ item ∈ items, weight item = 0) :
    sumOver weight items = 0 := by
  induction items with
  | nil => rfl
  | cons item items ih => simp_all

end SymbolLookup

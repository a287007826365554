import SymbolLookup.Fault
/-!
# Which expressions are literals

An expression has a value if it is a literal. Of those that have none most are refused, but some
trip the evaluation: over a part that must not change and can, or over a sum that no number is large
enough for.

## Main definitions

* `Expression.parts`: the parts of a container in the order in which they are evaluated.
* `Expression.IsLiteral`: the literals.
* `Expression.Trips`: the expressions that trip their evaluation.

## Main results

* `Expression.verdict_eq_literal_iff`: literals are the expressions that have a value.
* `Expression.verdict_eq_trips_iff`: evaluation is tripped just by those that trip it.

## Design notes

Members of sets and keys of dictionaries have to be fixed. A member is looked at as soon as it has
its value, a key when its entry has one as well. So each part is listed with the one that is looked
at behind it. What decides is the first part that has no value or is followed by one that can
change.
-/

namespace SymbolLookup.Literal

/-! ## How evaluation ends -/

/-- How the evaluation of an expression ends. -/
inductive Verdict where
  /-- With a value. -/
  | literal
  /-- The expression is refused because it is no literal. -/
  | refused
  /-- The evaluation trips. -/
  | trips
  deriving DecidableEq, Repr

/-- The verdict that a fault is. -/
def Fault.verdict : Fault → Verdict
  | .unreadable => .refused
  | _ => .trips

/-- The verdict that an outcome is. -/
def verdictOf {α : Type} : Except Fault α → Verdict
  | .ok _ => .literal
  | .error fault => fault.verdict

section Outcomes

variable {α β : Type} {outcome : Except Fault α}

@[simp] theorem verdictOf_ok (value : α) : verdictOf (.ok value) = .literal := rfl

@[simp] theorem verdictOf_error (fault : Fault) :
    verdictOf (.error fault : Except Fault α) = fault.verdict := rfl

@[simp] theorem verdictOf_map (f : α → β) : verdictOf (outcome.map f) = verdictOf outcome := by
  cases outcome <;> rfl

@[simp] theorem Fault.verdict_ne_literal (fault : Fault) : fault.verdict ≠ .literal := by
  cases fault <;> simp [verdict]

theorem Fault.verdict_eq_trips_iff {fault : Fault} : fault.verdict = .trips ↔
    fault ≠ .unreadable := by
  cases fault <;> simp [verdict]

theorem verdictOf_eq_literal_iff : verdictOf outcome = .literal ↔ ∃ value, outcome = .ok value := by
  cases outcome <;> simp [verdictOf]

theorem verdictOf_eq_trips_iff : verdictOf outcome = .trips ↔
    ∃ fault, outcome = .error fault ∧ fault ≠ .unreadable := by
  cases outcome with
  | ok => simp [verdictOf]
  | error fault => simp [verdictOf, Fault.verdict_eq_trips_iff]

end Outcomes

/-! ## Literals -/

mutual

/-- Whether the value of an expression can change: that of a list, a set or a dictionary can, and
that of a tuple with such an item. -/
def Expression.isMutable : Expression → Bool
  | .constant value => value.unhashable?.isSome
  | .list _ | .set _ | .dictionary _ | .emptySet => true
  | .tuple items => Expression.anyMutable items
  | _ => false

/-- Whether the value of one of some expressions can change. -/
def Expression.anyMutable : List Expression → Bool
  | [] => false
  | item :: items => item.isMutable || Expression.anyMutable items

end

/-- Whether a whole number is larger than all numbers with a point, or smaller than all of them. -/
def IsBeyond (n : Int) : Prop :=
  Decimal.rounded { negative := n < 0, digits := n.natAbs } = .infinite

namespace Expression

/-- Whether an expression holds others as its parts. -/
def isContainer : Expression → Bool
  | .list _ | .tuple _ | .set _ | .dictionary _ => true
  | _ => false

/-- The parts of a container in the order in which they are evaluated, each with the one that has to
be fixed then. -/
def parts : Expression → List (Expression × Option Expression)
  | .list items | .tuple items => items.map fun item => (item, none)
  | .set members => members.map fun member => (member, some member)
  | .dictionary entries => entries.flatMap fun entry => [(entry.1, none), (entry.2, some entry.1)]
  | _ => []

/-- Whether an expression writes a number, with a sign or without. -/
inductive Writes : Expression → Number → Prop where
  | plain (n : Number) : Writes (.number n) n
  | signed (negative : Bool) (n : Number) :
    Writes (.signed negative (.number n)) (if negative then n.negate else n)

/-- The literals: constants, numbers with signs and with imaginary parts, and containers of
literals, of which those that have to be fixed cannot change. -/
inductive IsLiteral : Expression → Prop where
  | constant (value : Value) : IsLiteral (.constant value)
  | emptySet : IsLiteral .emptySet
  | number {e : Expression} {n : Number} (h : e.Writes n) : IsLiteral e
  | wholeSum {left : Expression} {n : Int} (h : left.Writes (.whole n)) (hb : ¬IsBeyond n)
    (negative : Bool) (a b : Decimal) : IsLiteral (.sum negative left (.number (.complex a b)))
  | realSum {left : Expression} {d : Decimal} (h : left.Writes (.real d))
    (negative : Bool) (a b : Decimal) : IsLiteral (.sum negative left (.number (.complex a b)))
  | container {e : Expression} (hc : e.isContainer)
    (h : ∀ part ∈ e.parts, IsLiteral part.1)
    (hf : ∀ part ∈ e.parts, ∀ fixed ∈ part.2, fixed.isMutable = false) : IsLiteral e

/-- Whether a part is a literal and the one that has to be fixed then cannot change. -/
def IsSound (part : Expression × Option Expression) : Prop :=
  part.1.IsLiteral ∧ ∀ fixed ∈ part.2, fixed.isMutable = false

/-- The expressions that trip their evaluation: sums of a number that is too large, and containers
with a part that does so or is followed by one that can change, behind sound parts only. -/
inductive Trips : Expression → Prop where
  | wholeSum {left : Expression} {n : Int} (h : left.Writes (.whole n)) (hb : IsBeyond n)
    (negative : Bool) (a b : Decimal) : Trips (.sum negative left (.number (.complex a b)))
  | part {e : Expression} {before after : List (Expression × Option Expression)}
    {part : Expression × Option Expression} (he : e.parts = before ++ part :: after)
    (hb : ∀ earlier ∈ before, IsSound earlier) (h : Trips part.1) : Trips e
  | changes {e : Expression} {before after : List (Expression × Option Expression)}
    {part : Expression × Option Expression} (he : e.parts = before ++ part :: after)
    (hb : ∀ earlier ∈ before, IsSound earlier) (h : part.1.IsLiteral) {fixed : Expression}
    (hf : fixed ∈ part.2) (hm : fixed.isMutable = true) : Trips e

/-! ## Numbers -/

section Numbers

variable {e left right : Expression} {n : Number} {negative : Bool}

theorem number?_eq_ok_iff : e.number? = .ok n ↔ e = .number n := by
  cases e <;> simp [number?]

theorem number?_eq_error {fault : Fault} (h : e.number? = .error fault) : fault = .unreadable := by
  cases e <;> simp_all [number?]

theorem signedNumber?_eq_ok_iff : e.signedNumber? = .ok n ↔ e.Writes n := by
  constructor
  · intro h
    unfold signedNumber? at h
    split at h
    · rename_i negative operand
      cases ho : operand.number? with
      | error => simp [ho, Except.map] at h
      | ok m =>
        obtain rfl := number?_eq_ok_iff.1 ho
        rw [ho] at h
        obtain rfl : (if negative then m.negate else m) = n := Except.ok.inj h
        exact .signed negative m
    · obtain rfl := number?_eq_ok_iff.1 h
      exact .plain n
  · rintro (_ | ⟨negative, m⟩) <;> rfl

theorem signedNumber?_eq_error {fault : Fault} (h : e.signedNumber? = .error fault) :
    fault = .unreadable := by
  unfold signedNumber? at h
  split at h
  · rename_i negative operand
    cases ho : operand.number? with
    | error =>
      obtain rfl : _ = fault := by simpa [ho, Except.map] using h
      exact number?_eq_error ho
    | ok => simp [ho, Except.map] at h
  · exact number?_eq_error h

theorem Writes.evaluate (h : e.Writes n) : e.evaluate = .ok (.number n) := by
  have hs := signedNumber?_eq_ok_iff.2 h
  cases h with
  | plain => rfl
  | signed =>
    rw [Expression.evaluate, hs]
    rfl

theorem evaluate_sum (h : left.Writes n) (negative : Bool) (m : Number) :
    evaluate (.sum negative left (.number m)) = (n.addImaginary negative m).map .number := by
  rw [evaluate, signedNumber?_eq_ok_iff.2 h]
  rfl

theorem Number.addImaginary_whole {n : Int} (hb : ¬IsBeyond n) (negative : Bool) (a b : Decimal) :
    verdictOf ((Number.whole n).addImaginary negative (.complex a b)) = .literal := by
  unfold Number.addImaginary
  dsimp only
  split
  · exact absurd ‹_› hb
  · rfl

theorem Number.addImaginary_beyond {n : Int} (hb : IsBeyond n) (negative : Bool) (a b : Decimal) :
    (Number.whole n).addImaginary negative (.complex a b) = .error .wholeTooLarge := by
  have hb : Decimal.rounded { negative := n < 0, digits := n.natAbs } = .infinite := hb
  simp only [Number.addImaginary, hb]

/-- A sum is refused unless a number with an imaginary part is added to one without. -/
theorem sum_cases (negative : Bool) (left right : Expression) :
    (∃ n a b, left.Writes (.whole n) ∧ right = .number (.complex a b)) ∨
      (∃ d a b, left.Writes (.real d) ∧ right = .number (.complex a b)) ∨
      evaluate (.sum negative left right) = .error .unreadable := by
  cases hl : left.signedNumber? with
  | error fault =>
    obtain rfl := signedNumber?_eq_error hl
    exact .inr (.inr (by rw [evaluate, hl]))
  | ok first =>
    cases hr : right.number? with
    | error fault =>
      obtain rfl := number?_eq_error hr
      exact .inr (.inr (by rw [evaluate, hl]; dsimp only; rw [hr]))
    | ok second =>
      obtain rfl := number?_eq_ok_iff.1 hr
      have hl := signedNumber?_eq_ok_iff.1 hl
      have sum := evaluate_sum hl negative second
      cases first <;> cases second
      case whole.complex => exact .inl ⟨_, _, _, hl, rfl⟩
      case real.complex => exact .inr (.inl ⟨_, _, _, hl, rfl⟩)
      all_goals exact .inr (.inr sum)

end Numbers

/-! ## Values that can change -/

mutual

/-- The value of an expression can change just where the expression tells so. -/
theorem isSome_unhashable? : ∀ {e : Expression} {value : Value}, e.evaluate = .ok value →
    value.unhashable?.isSome = e.isMutable
  | .constant _, _, h | .number _, _, h | .emptySet, _, h => by
    cases h
    rfl
  | .signed _ _, _, h => by
    obtain ⟨n, -, rfl⟩ := exists_of_map_eq_ok h
    rfl
  | .sum negative left right, _, h => by
    obtain ⟨n, a, b, hl, rfl⟩ | ⟨d, a, b, hl, rfl⟩ | hs := sum_cases negative left right
    · obtain ⟨_, -, rfl⟩ := exists_of_map_eq_ok ((evaluate_sum hl _ _).symm.trans h)
      rfl
    · obtain ⟨_, -, rfl⟩ := exists_of_map_eq_ok ((evaluate_sum hl _ _).symm.trans h)
      rfl
    · cases hs.symm.trans h
  | .list _, _, h | .set _, _, h | .dictionary _, _, h => by
    rw [evaluate] at h
    obtain ⟨_, -, rfl⟩ := exists_of_map_eq_ok h
    rfl
  | .tuple items, _, h => by
    rw [evaluate] at h
    obtain ⟨values, hv, rfl⟩ := exists_of_map_eq_ok h
    exact isSome_unhashableItem? hv
  | .name _, _, h | .place, _, h | .spread _, _, h | .foreign, _, h => by cases h

theorem isSome_unhashableItem? : ∀ {items : List Expression} {values : List Value},
    evaluateItems items = .ok values → (Value.unhashableItem? values).isSome = anyMutable items
  | [], _, h => by
    cases h
    rfl
  | item :: items, _, h => by
    rw [evaluateItems] at h
    split at h
    · cases h
    · rename_i value hv
      obtain ⟨values, ho, rfl⟩ := exists_of_map_eq_ok h
      rw [anyMutable, ← isSome_unhashable? hv, ← isSome_unhashableItem? ho, Value.unhashableItem?]
      cases value.unhashable? <;> simp

end

/-! ## Containers -/

/-- The verdict on some parts. -/
def judge : List (Expression × Option Expression) → Verdict
  | [] => .literal
  | (part, fixed) :: rest =>
    if verdictOf part.evaluate = .literal then
      if fixed.any isMutable then .trips else judge rest
    else verdictOf part.evaluate

theorem verdict_evaluateItems (items : List Expression) :
    verdictOf (evaluateItems items) = judge (items.map fun item => (item, none)) := by
  induction items with
  | nil => rfl
  | cons item items ih =>
    rw [evaluateItems, List.map_cons, judge, ← ih]
    cases item.evaluate <;> simp

theorem verdict_evaluateMembers (members : List Expression) :
    verdictOf (evaluateMembers members) =
      judge (members.map fun member => (member, some member)) := by
  induction members with
  | nil => rfl
  | cons member members ih =>
    rw [evaluateMembers, List.map_cons, judge, ← ih]
    cases hv : member.evaluate with
    | error => simp
    | ok value =>
      have changes := isSome_unhashable? hv
      cases hu : value.unhashable? <;> simp [hu, ← changes, Fault.verdict]

theorem verdict_evaluateEntries (entries : List (Expression × Expression)) :
    verdictOf (evaluateEntries entries) =
      judge (entries.flatMap fun entry => [(entry.1, none), (entry.2, some entry.1)]) := by
  induction entries with
  | nil => rfl
  | cons entry entries ih =>
    obtain ⟨key, entry⟩ := entry
    rw [evaluateEntries, List.flatMap_cons, List.cons_append, List.cons_append, List.nil_append,
      judge, judge, ← ih]
    cases hk : key.evaluate with
    | error => simp
    | ok keyValue =>
      cases entry.evaluate with
      | error => simp
      | ok value =>
        have changes := isSome_unhashable? hk
        cases hu : keyValue.unhashable? <;> simp [hu, ← changes, Fault.verdict]

/-- The verdict on a container is the one on its parts. -/
theorem verdict_eq_judge {e : Expression} (hc : e.isContainer) :
    verdictOf e.evaluate = judge e.parts := by
  cases e with
  | list items | tuple items => rw [evaluate, verdictOf_map, verdict_evaluateItems, parts]
  | set members => rw [evaluate, verdictOf_map, verdict_evaluateMembers, parts]
  | dictionary entries => rw [evaluate, verdictOf_map, verdict_evaluateEntries, parts]
  | _ => cases hc

theorem judge_eq_literal_iff {parts : List (Expression × Option Expression)} :
    judge parts = .literal ↔ ∀ part ∈ parts, verdictOf part.1.evaluate = .literal ∧
      ∀ fixed ∈ part.2, fixed.isMutable = false := by
  induction parts with
  | nil => simp [judge]
  | cons part parts ih =>
    obtain ⟨part, fixed⟩ := part
    rw [List.forall_mem_cons, ← ih, judge]
    cases fixed with
    | none => by_cases hv : verdictOf part.evaluate = .literal <;> simp [hv]
    | some fixed =>
      by_cases hv : verdictOf part.evaluate = .literal <;> cases hm : fixed.isMutable <;>
        simp [hv, hm]

/-- Parts trip the evaluation if one of them does so, or is followed by one that can change, and all
before it pass. -/
theorem judge_eq_trips_iff {parts : List (Expression × Option Expression)} :
    judge parts = .trips ↔ ∃ before part after, parts = before ++ part :: after ∧
      (∀ earlier ∈ before, verdictOf earlier.1.evaluate = .literal ∧
        ∀ fixed ∈ earlier.2, fixed.isMutable = false) ∧
      (verdictOf part.1.evaluate = .trips ∨
        verdictOf part.1.evaluate = .literal ∧ ∃ fixed ∈ part.2, fixed.isMutable = true) := by
  constructor
  · intro h
    induction parts with
    | nil => cases h
    | cons part parts ih =>
      obtain ⟨part, fixed⟩ := part
      rw [judge] at h
      split at h
      · rename_i hv
        split at h
        · rename_i hf
          obtain ⟨found, rfl, hm⟩ := (Option.any_eq_true _ _).1 hf
          exact ⟨[], _, parts, rfl, by simp, .inr ⟨hv, found, rfl, hm⟩⟩
        · rename_i hf
          obtain ⟨before, other, after, rfl, hb, ho⟩ := ih h
          refine ⟨(part, fixed) :: before, other, after, rfl, ?_, ho⟩
          refine List.forall_mem_cons.2 ⟨⟨hv, ?_⟩, hb⟩
          rintro found rfl
          simpa using hf
      · exact ⟨[], _, parts, rfl, by simp, .inl h⟩
  · rintro ⟨before, part, after, rfl, hb, hp⟩
    induction before with
    | nil =>
      obtain ⟨part, fixed⟩ := part
      rw [List.nil_append, judge]
      obtain hv | ⟨hv, found, rfl, hm⟩ := hp
      · simp [show verdictOf part.evaluate = .trips from hv]
      · have hv : verdictOf part.evaluate = .literal := hv
        simp [hv, hm]
    | cons earlier before ih =>
      obtain ⟨earlier, fixed⟩ := earlier
      obtain ⟨⟨hv, hf⟩, hb⟩ := List.forall_mem_cons.1 hb
      have hv : verdictOf earlier.evaluate = .literal := hv
      rw [List.cons_append, judge, if_pos hv, ih hb]
      cases fixed with
      | none => rfl
      | some found => simp [hf found rfl]

/-! ## Literals and expressions that trip -/

theorem isContainer_of_parts {e : Expression} {before after : List (Expression × Option Expression)}
    {part : Expression × Option Expression} (h : e.parts = before ++ part :: after) :
    e.isContainer := by
  cases e with
  | list | tuple | set | dictionary => rfl
  | _ => simp [parts] at h

theorem sizeOf_lt_of_mem_parts {e : Expression} {part : Expression × Option Expression}
    (h : part ∈ e.parts) : sizeOf part.1 < sizeOf e := by
  cases e with
  | list items | tuple items =>
    obtain ⟨item, hi, rfl⟩ := List.mem_map.1 h
    have := List.sizeOf_lt_of_mem hi
    simp
    omega
  | set members =>
    obtain ⟨member, hm, rfl⟩ := List.mem_map.1 h
    have := List.sizeOf_lt_of_mem hm
    simp
    omega
  | dictionary entries =>
    obtain ⟨⟨key, entry⟩, he, hp⟩ := List.mem_flatMap.1 h
    have := List.sizeOf_lt_of_mem he
    simp at hp this
    obtain rfl | rfl := hp <;> simp <;> omega
  | _ => cases h

theorem IsLiteral.verdict {e : Expression} (h : e.IsLiteral) : verdictOf e.evaluate = .literal := by
  induction h with
  | constant | emptySet => rfl
  | number h =>
    rw [h.evaluate]
    rfl
  | wholeSum h hb =>
    rw [evaluate_sum h, verdictOf_map]
    exact Number.addImaginary_whole hb _ _ _
  | realSum h =>
    rw [evaluate_sum h]
    rfl
  | container hc _ hf ih =>
    rw [verdict_eq_judge hc, judge_eq_literal_iff]
    exact fun part hp => ⟨ih part hp, hf part hp⟩

theorem Trips.verdict {e : Expression} (h : e.Trips) : verdictOf e.evaluate = .trips := by
  induction h with
  | wholeSum h hb =>
    rw [evaluate_sum h, Number.addImaginary_beyond hb]
    rfl
  | part he hb _ ih =>
    rw [verdict_eq_judge (isContainer_of_parts he), judge_eq_trips_iff]
    exact ⟨_, _, _, he, fun part hp => ⟨(hb part hp).1.verdict, (hb part hp).2⟩, .inl ih⟩
  | changes he hb h hf hm =>
    rw [verdict_eq_judge (isContainer_of_parts he), judge_eq_trips_iff]
    exact ⟨_, _, _, he, fun part hp => ⟨(hb part hp).1.verdict, (hb part hp).2⟩,
      .inr ⟨h.verdict, _, hf, hm⟩⟩

/-- An expression with a value is a literal, and one that trips the evaluation is known as such. -/
theorem isLiteral_and_trips (e : Expression) : (verdictOf e.evaluate = .literal → e.IsLiteral) ∧
    (verdictOf e.evaluate = .trips → e.Trips) := by
  by_cases hc : e.isContainer
  · have ih (part : Expression × Option Expression) (hp : part ∈ e.parts) :=
      have := sizeOf_lt_of_mem_parts hp
      isLiteral_and_trips part.1
    rw [verdict_eq_judge hc]
    constructor
    · intro h
      have h := judge_eq_literal_iff.1 h
      exact .container hc (fun part hp => (ih part hp).1 (h part hp).1) fun part hp => (h part hp).2
    · intro h
      obtain ⟨before, part, after, he, hb, hp⟩ := judge_eq_trips_iff.1 h
      have sound : ∀ earlier ∈ before, IsSound earlier := fun earlier hm =>
        ⟨(ih earlier (by simp [he, hm])).1 (hb earlier hm).1, (hb earlier hm).2⟩
      have hi := ih part (by simp [he])
      obtain hp | ⟨hp, fixed, hf, hm⟩ := hp
      · exact .part he sound (hi.2 hp)
      · exact .changes he sound (hi.1 hp) hf hm
  · cases e with
    | constant value => exact ⟨fun _ => .constant value, nofun⟩
    | number n => exact ⟨fun _ => .number (.plain n), nofun⟩
    | emptySet => exact ⟨fun _ => .emptySet, nofun⟩
    | signed negative operand =>
      rw [evaluate, verdictOf_map]
      cases hs : signedNumber? (.signed negative operand) with
      | error fault =>
        obtain rfl := signedNumber?_eq_error hs
        exact ⟨nofun, nofun⟩
      | ok n => exact ⟨fun _ => .number (signedNumber?_eq_ok_iff.1 hs), nofun⟩
    | sum negative left right =>
      obtain ⟨n, a, b, hl, rfl⟩ | ⟨d, a, b, hl, rfl⟩ | hs := sum_cases negative left right
      · by_cases hb : IsBeyond n
        · have trips := Trips.wholeSum hl hb negative a b
          exact ⟨fun h => (by cases trips.verdict.symm.trans h), fun _ => trips⟩
        · have literal := IsLiteral.wholeSum hl hb negative a b
          exact ⟨fun _ => literal, fun h => by cases literal.verdict.symm.trans h⟩
      · have literal := IsLiteral.realSum hl negative a b
        exact ⟨fun _ => literal, fun h => by cases literal.verdict.symm.trans h⟩
      · rw [hs]
        exact ⟨nofun, nofun⟩
    | name | place | spread | foreign => exact ⟨nofun, nofun⟩
    | _ => exact absurd rfl hc
termination_by e

variable {e : Expression}

/-- **The literals are the expressions that have a value.** -/
theorem verdict_eq_literal_iff : verdictOf e.evaluate = .literal ↔ e.IsLiteral :=
  ⟨(isLiteral_and_trips e).1, IsLiteral.verdict⟩

/-- **The evaluation trips just over the expressions that trip it.** -/
theorem verdict_eq_trips_iff : verdictOf e.evaluate = .trips ↔ e.Trips :=
  ⟨(isLiteral_and_trips e).2, Trips.verdict⟩

end Expression

end SymbolLookup.Literal

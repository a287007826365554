import SymbolLookup.Proofs.Literal.Evaluation
import SymbolLookup.Proofs.Shard.Accounting
import SymbolLookup.Proofs.Text.Unescaping
/-!
# Documents that are not read

Reading a document ends with a shard or with the news that the document as a whole is malformed,
unless it trips over an expression, over a parser that breaks or over a reference of too many
digits.

## Main definitions

* `FailsIf`: whether an outcome is a fault of a numeral just in some case.
* `Shard.Ordinary`: whether reading a document ends as it should.
* `Shard.Trips`: whether reading a document trips.

## Main results

* `Shard.read_cases`: reading a document ends as it should, or trips and then fails otherwise.

## Design notes

A script is read as an expression before any of its records is looked at. Which expressions trip
their evaluation is told by `Literal.Expression.Trips`; nothing of that kind is in what the
generators of documentation write. The references of names and labels are resolved when a record is
added.
-/

namespace SymbolLookup

open Text

/-! ## References -/

/-- Whether an outcome is a fault of a numeral in some case, and no fault otherwise. -/
def FailsIf {α : Type} (outcome : Except Fault α) (p : Prop) : Prop :=
  (∃ value, outcome = .ok value) ∧ ¬p ∨ (∃ fault, outcome = .error (.numeral fault)) ∧ p

namespace FailsIf

variable {α β : Type} {outcome : Except Fault α} {p q : Prop}

theorem map (h : FailsIf outcome p) (f : α → β) : FailsIf (outcome.map f) p := by
  obtain ⟨⟨value, rfl⟩, hp⟩ | ⟨⟨fault, rfl⟩, hp⟩ := h
  · exact .inl ⟨⟨_, rfl⟩, hp⟩
  · exact .inr ⟨⟨_, rfl⟩, hp⟩

theorem bind (h : FailsIf outcome p) {next : α → Except Fault β}
    (hn : ∀ value, FailsIf (next value) q) : FailsIf (outcome.bind next) (p ∨ q) := by
  obtain ⟨⟨value, rfl⟩, hp⟩ | ⟨⟨fault, rfl⟩, hp⟩ := h
  · have hv : FailsIf (Except.bind (.ok value) next) q := hn value
    simpa [FailsIf, hp] using hv
  · exact .inr ⟨⟨_, rfl⟩, .inl hp⟩

end FailsIf

theorem failsIf_resolve (text : String) : FailsIf (resolve text) (HoldsOverlong text.toList) := by
  rw [resolve, unescape, ← unescapeFrom_eq_error_iff]
  cases unescapeFrom 0 text.toList with
  | error fault => exact .inr ⟨⟨fault, rfl⟩, fault, rfl⟩
  | ok value => exact .inl ⟨⟨_, rfl⟩, by simp⟩

theorem failsIf_entriesOf (name : String) (position : Nat) (occurrences : List Occurrence) :
    FailsIf (entriesOf name position occurrences)
      (∃ occurrence ∈ occurrences, HoldsOverlong occurrence.label.toList) := by
  induction occurrences generalizing position with
  | nil => exact .inl ⟨⟨_, rfl⟩, by simp⟩
  | cons occurrence occurrences ih =>
    rw [entriesOf_cons, List.exists_mem_cons_iff]
    exact (failsIf_resolve occurrence.label).bind fun _ => (ih (position + 1)).map _

/-- Whether the name of a record or the label of an occurrence holds an overlong reference. -/
def Record.Overruns (record : Record) : Prop :=
  HoldsOverlong record.name.toList ∨
    ∃ occurrence ∈ record.occurrences, HoldsOverlong occurrence.label.toList

/-- Whether a part of a document is a record that does so. -/
def Part.Overruns (format : Format) (part : Part) : Prop :=
  ∃ record, Record.Written format part record ∧ record.Overruns

namespace Shard

theorem failsIf_addRecord (shard : Shard) (record : Record) :
    FailsIf (shard.addRecord record) record.Overruns := by
  rw [addRecord_eq]
  exact (failsIf_resolve record.name).bind fun _ => (failsIf_entriesOf _ _ _).map _

theorem failsIf_addParts (format : Format) (shard : Shard) (place : Nat) (parts : List Part) :
    FailsIf (shard.addParts format place parts) (∃ part ∈ parts, part.Overruns format) := by
  fun_induction addParts format shard place parts with
  | case1 => exact .inl ⟨⟨_, rfl⟩, by simp⟩
  | case2 shard place part parts fault hp ih =>
    have hn : ¬part.Overruns format := by
      rintro ⟨record, hw, -⟩
      rw [Record.ofPart_eq_ok_iff.2 hw] at hp
      cases hp
    rwa [List.exists_mem_cons_iff, or_iff_right hn]
  | case3 shard place part parts record hp fault ha =>
    obtain ⟨⟨_, ho⟩, -⟩ | ⟨⟨other, ho⟩, ho'⟩ := shard.failsIf_addRecord record
    · cases ha.symm.trans ho
    · cases ha.symm.trans ho
      refine .inr ⟨⟨other, rfl⟩, part, List.mem_cons_self, record, ?_, ho'⟩
      exact Record.ofPart_eq_ok_iff.1 hp
  | case4 shard place part parts record hp next ha ih =>
    have hn : ¬part.Overruns format := by
      rintro ⟨other, hw, ho⟩
      cases hp.symm.trans (Record.ofPart_eq_ok_iff.2 hw)
      obtain ⟨-, hn⟩ | ⟨⟨_, hf⟩, -⟩ := shard.failsIf_addRecord record
      · exact hn ho
      · cases ha.symm.trans hf
    rwa [List.exists_mem_cons_iff, or_iff_right hn]

/-! ## Documents -/

/-- The text of the expression that a script is read as. -/
def expressionText (text : String) : List Char := Utf8.joinLines (payload text.toList)

/-- Whether reading a document trips over its expression, over a parser that breaks at it, or over a
reference of a name or a label. -/
inductive Trips (interpreter : Interpreter) (bucket text : String) : Format → Prop where
  | expression {e : Literal.Expression}
      (h : interpreter.parse (expressionText text) = .expression e) (ht : e.Trips) :
      Trips interpreter bucket text .script
  | parser {reason : String} (h : interpreter.parse (expressionText text) = .broken reason) :
      Trips interpreter bucket text .script
  | reference {format : Format} {parts : List Part}
      (h : decode bucket text format interpreter = .ok parts)
      (ho : ∃ part ∈ parts, part.Overruns format) : Trips interpreter bucket text format

/-- Whether reading a document ends as it should: with a shard, or with the news that the document
as a whole is malformed. -/
def Ordinary (bucket : String) (outcome : Except Fault Shard) : Prop :=
  (∃ shard, outcome = .ok shard) ∨ ∃ message, outcome = .error (.malformed bucket message none)

end Shard

/-- Whether a fault is one of those with which reading trips. -/
def Fault.isTrip : Fault → Bool
  | .numeral _ | .unhashable _ | .wholeTooLarge | .system _ => true
  | _ => false

theorem isTrip_scriptFault {fault : Literal.Fault} (h : fault ≠ .unreadable) (bucket : String) :
    (scriptFault bucket fault).isTrip = true := by
  cases fault with
  | unreadable => exact absurd rfl h
  | _ => rfl

section Documents

variable {bucket text : String} {interpreter : Interpreter}

theorem decode_of_read_eq_error {fault : Literal.Fault}
    (h : Literal.read interpreter.parse (Shard.expressionText text) = .error fault) :
    decode bucket text .script interpreter = .error (scriptFault bucket fault) := by
  rw [Shard.expressionText] at h
  simp [decode, h]

/-- The literals of a script fail in a way of their own if the parser breaks or the expression trips
its evaluation. -/
theorem exists_read_eq_error_iff : (∃ fault, fault ≠ .unreadable ∧
      Literal.read interpreter.parse (Shard.expressionText text) = .error fault) ↔
    (∃ e, interpreter.parse (Shard.expressionText text) = .expression e ∧ e.Trips) ∨
      ∃ reason, interpreter.parse (Shard.expressionText text) = .broken reason := by
  unfold Literal.read
  cases interpreter.parse (Shard.expressionText text) with
  | expression e =>
    simp [← Literal.Expression.verdict_eq_trips_iff, Literal.verdictOf_eq_trips_iff, and_comm]
  | refused => simp
  | broken reason => simp

/-- A document that has no parts is malformed as a whole, or its literals failed. -/
theorem decode_error_cases {format : Format} {fault : Fault}
    (h : decode bucket text format interpreter = .error fault) :
    (∃ message, fault = .malformed bucket message none) ∨
      ∃ other, format = .script ∧ other ≠ .unreadable ∧
        Literal.read interpreter.parse (Shard.expressionText text) = .error other ∧
        fault = scriptFault bucket other := by
  cases format with
  | script =>
    cases hr : Literal.read interpreter.parse (Shard.expressionText text) with
    | ok value =>
      left
      rw [Shard.expressionText] at hr
      simp only [decode, hr] at h
      generalize Part.ofLiteral value = whole at h
      cases whole with
      | list => cases h
      | text | other =>
        cases h
        exact ⟨_, rfl⟩
    | error other =>
      obtain rfl := Except.error.inj ((decode_of_read_eq_error hr).symm.trans h)
      by_cases hu : other = .unreadable
      · exact .inl ⟨_, by rw [hu, scriptFault]⟩
      · exact .inr ⟨other, rfl, hu, rfl, rfl⟩
  | data name =>
    left
    cases hr : Json.read text interpreter.nesting with
    | ok value =>
      simp only [decode, hr] at h
      generalize Part.ofJson value = whole at h
      cases whole with
      | list => cases h
      | text | other =>
        cases h
        exact ⟨_, rfl⟩
    | error other =>
      simp only [decode, hr] at h
      cases h
      exact ⟨_, rfl⟩

end Documents

namespace Shard

/-- A document over which reading trips before its records are looked at has no parts. -/
theorem trips_of_decode_eq_ok {interpreter : Interpreter} {bucket text : String} {format : Format}
    {parts : List Part} (hd : decode bucket text format interpreter = .ok parts) :
    Trips interpreter bucket text format ↔ ∃ part ∈ parts, part.Overruns format := by
  have failed {fault : Literal.Fault} (hf : format = .script)
      (hr : Literal.read interpreter.parse (expressionText text) = .error fault) : False := by
    subst hf
    cases hd.symm.trans (decode_of_read_eq_error hr)
  constructor
  · rintro (⟨hp, ht⟩ | ⟨hp⟩ | ⟨hp, ho⟩)
    · obtain ⟨_, -, hr⟩ := exists_read_eq_error_iff.2 (.inl ⟨_, hp, ht⟩)
      exact (failed rfl hr).elim
    · obtain ⟨_, -, hr⟩ := exists_read_eq_error_iff.2 (.inr ⟨_, hp⟩)
      exact (failed rfl hr).elim
    · cases hd.symm.trans hp
      exact ho
  · exact .reference hd

/-- A document that has no parts trips if its literals failed, and not if it is malformed. -/
theorem trips_of_decode_eq_error {interpreter : Interpreter} {bucket text : String}
    {format : Format} {fault : Fault} (hd : decode bucket text format interpreter = .error fault) :
    Trips interpreter bucket text format ↔ fault.isTrip := by
  constructor
  · have tripped {other : Literal.Fault} (hf : format = .script) (hu : other ≠ .unreadable)
        (hr : Literal.read interpreter.parse (expressionText text) = .error other) :
        fault.isTrip := by
      subst hf
      rw [Except.error.inj (hd.symm.trans (decode_of_read_eq_error hr))]
      exact isTrip_scriptFault hu bucket
    rintro (⟨hp, ht⟩ | ⟨hp⟩ | ⟨hp, -⟩)
    · obtain ⟨_, hu, hr⟩ := exists_read_eq_error_iff.2 (.inl ⟨_, hp, ht⟩)
      exact tripped rfl hu hr
    · obtain ⟨_, hu, hr⟩ := exists_read_eq_error_iff.2 (.inr ⟨_, hp⟩)
      exact tripped rfl hu hr
    · cases hd.symm.trans hp
  · intro hf
    obtain ⟨message, rfl⟩ | ⟨other, rfl, hu, hr, -⟩ := decode_error_cases hd
    · cases hf
    · obtain ⟨e, hp, ht⟩ | ⟨reason, hp⟩ := exists_read_eq_error_iff.1 ⟨other, hu, hr⟩
      · exact .expression hp ht
      · exact .parser hp

variable (interpreter : Interpreter) (bucket text : String) (asked : Option String)

/-- Reading a document ends as it should, or trips and then fails otherwise. -/
theorem read_cases :
    Ordinary bucket (Shard.read bucket text asked interpreter) ∧
        ¬Trips interpreter bucket text (Format.choose asked text) ∨
      (∃ fault, Shard.read bucket text asked interpreter = .error fault ∧ fault.isTrip) ∧
        Trips interpreter bucket text (Format.choose asked text) := by
  unfold Shard.read
  simp only
  generalize Format.choose asked text = format
  split
  · rename_i fault hd
    rw [trips_of_decode_eq_error hd]
    obtain ⟨message, rfl⟩ | ⟨other, rfl, hu, hr, rfl⟩ := decode_error_cases hd
    · exact .inl ⟨.inr ⟨message, rfl⟩, Bool.false_ne_true⟩
    · have ht := isTrip_scriptFault hu bucket
      exact .inr ⟨⟨_, rfl, ht⟩, ht⟩
  · rename_i parts hd
    rw [trips_of_decode_eq_ok hd]
    obtain ⟨ha, hn⟩ | ⟨⟨fault, ha⟩, ho⟩ := failsIf_addParts format { bucket } 0 parts
    · exact .inl ⟨.inl ha, hn⟩
    · exact .inr ⟨⟨_, ha, rfl⟩, ho⟩

theorem ordinary_read_iff : Ordinary bucket (Shard.read bucket text asked interpreter) ↔
    ¬Trips interpreter bucket text (Format.choose asked text) := by
  obtain ⟨ho, hn⟩ | ⟨⟨fault, hr, hf⟩, ht⟩ := read_cases interpreter bucket text asked
  · exact iff_of_true ho hn
  · refine iff_of_false ?_ (not_not_intro ht)
    rintro (⟨shard, hs⟩ | ⟨message, hm⟩)
    · cases hr.symm.trans hs
    · rw [Except.error.inj (hr.symm.trans hm)] at hf
      cases hf

end Shard

end SymbolLookup

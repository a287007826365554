import SymbolLookup.Fault
/-!
# Amounts

Whole numbers as callers hand them in: as numbers of any kind, as texts or as truth values.

## Main definitions

* `Amount.toInt`: the whole number that is meant.
-/

namespace SymbolLookup

open Text

/-- A whole number, ordinal or limit, in any of the forms in which it may be given. -/
abbrev Amount := Json

/-- The whole number that is meant: fractions lose what stands behind their point, truth values
count as one and zero, and texts are read as numerals. -/
def Amount.toInt : Amount → Except Fault Int
  | .integer n => .ok n
  | .bool b => .ok (if b then 1 else 0)
  | .decimal d =>
    match d.truncate? with
    | some n => .ok n
    | none => .error .infiniteNumber
  | .infinity _ => .error .infiniteNumber
  | .notANumber => .error .undefinedNumber
  | .text s => (readInt s).mapError .numeral
  | value => .error (.notNumber value.kind)

end SymbolLookup

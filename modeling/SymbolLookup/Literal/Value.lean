import SymbolLookup.Literal.Token
/-!
# Literal values

The values that expressions of literals have.

## Main definitions

* `Value`: a value.
* `Value.kind`, `Value.isTrue`: the word for its kind, and whether it counts as true.
* `Value.unhashable?`: the part of a value that bars it from being a member of a set.
-/

namespace SymbolLookup.Literal

/-- A value of the literal notation. -/
inductive Value where
  /-- The absent value. -/
  | none
  | ellipsis
  /-- A truth value. -/
  | bool (value : Bool)
  | number (value : Number)
  | text (value : String)
  /-- A string of bytes. -/
  | bytes (value : List Nat)
  | list (items : List Value)
  | tuple (items : List Value)
  /-- A set, by the members it was written with. -/
  | set (members : List Value)
  /-- A dictionary, by the entries it was written with. -/
  | dictionary (entries : List (Value × Value))
  deriving Repr, Inhabited

/-- The word for the kind of a number. -/
def Number.kind : Number → String
  | .whole _ => "int"
  | .real _ => "float"
  | .complex _ _ => "complex"

/-- Whether a number is held as zero. -/
def Number.isZero : Number → Bool
  | .whole n => n == 0
  | .real d => d.isZero
  | .complex a b => a.isZero && b.isZero

namespace Value

/-- The word for the kind of a value in messages. -/
def kind : Value → String
  | .none => "NoneType"
  | .ellipsis => "ellipsis"
  | .bool _ => "bool"
  | .number n => n.kind
  | .text _ => "str"
  | .bytes _ => "bytes"
  | .list _ => "list"
  | .tuple _ => "tuple"
  | .set _ => "set"
  | .dictionary _ => "dict"

/-- Whether a value counts as true: all but the absent value, false, zero and what is empty. -/
def isTrue : Value → Bool
  | .none => false
  | .ellipsis => true
  | .bool b => b
  | .number n => !n.isZero
  | .text s => s ≠ ""
  | .bytes bs => !bs.isEmpty
  | .list xs | .tuple xs | .set xs => !xs.isEmpty
  | .dictionary xs => !xs.isEmpty

mutual

/-- The kind of the first part of a value that can change, which bars the value from sets and from
the keys of dictionaries. -/
def unhashable? : Value → Option String
  | .list _ => some "list"
  | .set _ => some "set"
  | .dictionary _ => some "dict"
  | .tuple items => unhashableItem? items
  | _ => Option.none

/-- The same for the items of a tuple. -/
def unhashableItem? : List Value → Option String
  | [] => Option.none
  | item :: items =>
    match unhashable? item with
    | some kind => some kind
    | Option.none => unhashableItem? items

end

end Value

end SymbolLookup.Literal

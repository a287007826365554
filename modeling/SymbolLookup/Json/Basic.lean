import SymbolLookup.Decimal
import SymbolLookup.Keyed
/-!
# JSON values

The values of the JSON data format, with whole numbers and fractions told apart.

## Main definitions

* `Json`: a value.
* `Json.field?`: the value of a field of an object.
* `Json.kind`: the word for the kind of a value in messages.
-/

namespace SymbolLookup

/-- A JSON value. The three numbers that are not finite have a word of their own each. -/
inductive Json where
  /-- The absent value. -/
  | null
  /-- A truth value. -/
  | bool (value : Bool)
  /-- A number without point and exponent. -/
  | integer (value : Int)
  /-- A number with a point or an exponent. -/
  | decimal (value : Decimal)
  /-- The number beyond all others, or below them if `negative`. -/
  | infinity (negative : Bool)
  /-- The number that is none. -/
  | notANumber
  | text (value : String)
  /-- A list of values. -/
  | list (items : List Json)
  /-- An object, its fields in the order of their first writing. -/
  | object (fields : List (String × Json))
  deriving Repr, Inhabited

namespace Json

/-- The value of a field of an object; nothing for other values. -/
def field? (name : String) : Json → Option Json
  | .object fields => Keyed.get? name fields
  | _ => none

/-- The word for the kind of a value in messages. -/
def kind : Json → String
  | .null => "NoneType"
  | .bool _ => "bool"
  | .integer _ => "int"
  | .decimal _ | .infinity _ | .notANumber => "float"
  | .text _ => "str"
  | .list _ => "list"
  | .object _ => "dict"

end Json

end SymbolLookup

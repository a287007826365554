import SymbolLookup.Json.Basic
import SymbolLookup.Text.Quoted
/-!
# Writing JSON

The written form of JSON values: on one line, or with every item on a line of its own.

## Main definitions

* `Json.renderChars`, `Json.render`: a value on one line.
* `Json.renderLines`: a value over several lines.

## Design notes

Only the quote, the backslash and control characters are escaped; all other characters are written
as they are. A fraction is written by its digits and a power of ten, the form from which reading
recovers it.
-/

namespace SymbolLookup.Json

open Text

/-- One character of a text between quotes. -/
def escapeChar (c : Char) : List Char :=
  match c with
  | '"' => ['\\', '"']
  | '\\' => ['\\', '\\']
  | '\n' => ['\\', 'n']
  | '\r' => ['\\', 'r']
  | '\t' => ['\\', 't']
  | '\x08' => ['\\', 'b']
  | '\x0c' => ['\\', 'f']
  | c => if c.toNat < 0x20 then '\\' :: 'u' :: hexDigits 4 c.toNat else [c]

/-- A text between quotes. -/
def textChars (s : List Char) : List Char := '"' :: s.flatMap escapeChar ++ ['"']

/-- The written form of a value that is neither a list nor an object. -/
def leafChars : Json → List Char
  | .null => "null".toList
  | .bool true => "true".toList
  | .bool false => "false".toList
  | .integer n => (toString n).toList
  | .decimal d =>
    (if d.negative then ['-'] else []) ++ (toString d.digits).toList ++
      'e' :: (toString d.exponent).toList
  | .infinity false => "Infinity".toList
  | .infinity true => "-Infinity".toList
  | .notANumber => "NaN".toList
  | .text s => textChars s.toList
  | .list _ => "[]".toList
  | .object _ => "\x7b\x7d".toList

mutual

/-- A value on one line. -/
def renderChars : Json → List Char
  | .list items => '[' :: renderItems items
  | .object fields => '{' :: renderFields fields
  | leaf => leafChars leaf

/-- The items of a list and the closing bracket. -/
def renderItems : List Json → List Char
  | [] => [']']
  | [item] => renderChars item ++ [']']
  | item :: items => renderChars item ++ ',' :: ' ' :: renderItems items

/-- The fields of an object and the closing brace. -/
def renderFields : List (String × Json) → List Char
  | [] => ['}']
  | [(name, value)] => textChars name.toList ++ ':' :: ' ' :: renderChars value ++ ['}']
  | (name, value) :: fields =>
    textChars name.toList ++ ':' :: ' ' :: renderChars value ++ ',' :: ' ' :: renderFields fields

end

@[inherit_doc renderChars]
def render (value : Json) : String := String.ofList (renderChars value)

/-- A line end and the margin of a nesting depth, two blanks for each level. -/
def margin (level : Nat) : List Char := '\n' :: List.replicate (2 * level) ' '

mutual

/-- A value over several lines at a nesting depth. -/
def renderLinesAt : (level : Nat) → Json → List Char
  | _, .list [] => ['[', ']']
  | level, .list items => '[' :: renderItemsAt (level + 1) items ++ margin level ++ [']']
  | _, .object [] => ['{', '}']
  | level, .object fields => '{' :: renderFieldsAt (level + 1) fields ++ margin level ++ ['}']
  | _, leaf => leafChars leaf

/-- The items of a list, each on lines of its own. -/
def renderItemsAt : (level : Nat) → List Json → List Char
  | _, [] => []
  | level, [item] => margin level ++ renderLinesAt level item
  | level, item :: items =>
    margin level ++ renderLinesAt level item ++ ',' :: renderItemsAt level items

/-- The fields of an object, each on lines of its own. -/
def renderFieldsAt : (level : Nat) → List (String × Json) → List Char
  | _, [] => []
  | level, [(name, value)] =>
    margin level ++ textChars name.toList ++ ':' :: ' ' :: renderLinesAt level value
  | level, (name, value) :: fields =>
    margin level ++ textChars name.toList ++ ':' :: ' ' :: renderLinesAt level value ++
      ',' :: renderFieldsAt level fields

end

/-- A value over several lines. -/
def renderLines (value : Json) : String := String.ofList (renderLinesAt 0 value)

end SymbolLookup.Json

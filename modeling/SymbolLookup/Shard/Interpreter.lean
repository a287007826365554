import SymbolLookup.Json.Reader
import SymbolLookup.Literal.Expression
/-!
# Interpreters

What the reading of documents leaves to the interpreter that a program runs in.

## Main definitions

* `Interpreter`: its parser of literals, and how deep the values of a text may be nested.

## Design notes

Scripts hold expressions of the program's own language, so they are parsed by its interpreter, which
knows the names of characters, has room for so many brackets, and may even break at some text. How
deep a value may be nested depends on the calls that the program is in when it is read. Neither is a
matter of the shards, so all that is read is read by a given interpreter; the one that is taken
where none is given knows no names of characters.
-/

namespace SymbolLookup

/-- What the reading of documents leaves to an interpreter. -/
structure Interpreter where
  /-- What it makes of the literals of a script. -/
  parse : List Char → Literal.Parsed := Literal.parse fun _ => none
  /-- How deep the values of a text may be nested. -/
  nesting : Nat := Json.defaultNesting
  /-- What the program writes itself is nested less deep. -/
  four_le_nesting : 4 ≤ nesting := by exact Json.four_le_defaultNesting

end SymbolLookup

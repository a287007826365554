import SymbolLookup.Console.Layout
import SymbolLookup.Desk.Service
/-!
# Queries that are typed line by line

Lines are typed one behind the other, so every line makes the query longer until it is forgotten.

## Main definitions

* `typeQuery`: what is shown for one query.
* `typeLines`: what is shown while lines are typed.
* `inputLines`: the lines of what is typed.
-/

namespace SymbolLookup.Console

/-- What is shown when the host of the lines is called. -/
def pieceOf? : Event → Option Piece
  | .called (.results _ _ groups) => some (.answer groups)
  | .called (.warning _ _ bucket reason) => some (.warning (failureMessage (bucket, reason)))
  | _ => none

/-- What is shown from when a query is typed into the first session until it is answered, and the
desk after that. -/
def typeQuery (desk : Desk) (query : String) : List Piece × Desk :=
  let after := (desk.type 0 (some query)).2.drained
  ((after.events.drop desk.events.length).filterMap pieceOf?, after)

/-- Whether a line asks to forget what was typed. -/
def isReset (line : String) : Bool := Text.trim line.toList == ['#']

/-- What is shown while lines are typed behind what was typed before. An empty line is the last. -/
def typeLines (echo : Bool) (desk : Desk) (typed : String) : List String → List Piece
  | [] => [.prompt, .lineEnd]
  | line :: lines =>
    if line = "" then [.prompt]
    else if isReset line then
      let (shown, desk) := typeQuery desk ""
      .prompt :: shown ++ .reset :: typeLines echo desk "" lines
    else
      let typed := typed ++ line
      let (shown, desk) := typeQuery desk typed
      .prompt :: (if echo then [.echo typed] else []) ++ shown ++ typeLines echo desk typed lines

/-- The lines of what is typed; what follows the last line end is a line unless it is empty. -/
def inputLines (input : String) : List String :=
  let lines := (cutAt '\n' input.toList).map String.ofList
  if lines.getLast? = some "" then lines.dropLast else lines

end SymbolLookup.Console

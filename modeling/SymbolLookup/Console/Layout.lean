import SymbolLookup.Json.Printer
import SymbolLookup.Query.Result
/-!
# What the console shows

## Main definitions

* `Piece`: something that is written to the console.
* `Screen`: how the console shows things.
* `Screen.prints`: the texts that are written for a piece.
* `Output`: what the console is written to.
* `Output.shown`: what is seen of some texts.

## Design notes

A text is written as a whole or not at all: an output that has no form for one of its characters
refuses the text, and the one who writes it is told so. What is written about what went wrong is
never refused; escapes stand for such characters there.
-/

namespace SymbolLookup.Console

/-- Something that is written to the console. -/
inductive Piece where
  /-- How queries are typed line by line. -/
  | welcome
  /-- That the next line may be typed. -/
  | prompt
  /-- That no more lines are typed. -/
  | lineEnd
  /-- The search key of what is typed. -/
  | echo (query : String)
  | answer (groups : List Group)
  /-- What could not be searched. -/
  | warning (message : String)
  /-- That what was typed is forgotten. -/
  | reset
  deriving DecidableEq, Repr

/-- How the console shows things. -/
structure Screen where
  /-- Whether colours are shown. -/
  colours : Bool := false
  /-- Whether answers are shown as JSON. -/
  asJson : Bool := false
  deriving DecidableEq, Repr

/-- A control sequence of a terminal that sets a style. -/
def styleSequence (style : String) : String := "\x1b[" ++ style ++ "m"

/-- A text with blanks behind it to make it as wide as `width`. -/
def padRight (width : Nat) (text : String) : String :=
  text ++ String.ofList (List.replicate (width - text.length) ' ')

/-- The width of the labels of entries. -/
def labelWidth : Nat := 60

/-- A label, cut if it is too wide. -/
def shownLabel (label : String) : String :=
  if labelWidth < label.length then String.ofList (label.toList.take (labelWidth - 2)) ++ ".."
  else label

/-- The line of an entry. -/
def entryLine (entry : Entry) : String :=
  "      " ++ padRight labelWidth (shownLabel entry.label) ++ " " ++ entry.anchor.link ++ "\n"

/-- What is written before the first line is typed. -/
def welcomeText : String :=
  "Type part of a symbol name and press Enter (empty line to quit).  '#' resets the buffer.\n"

namespace Screen

/-- A text in a style. -/
def paint (screen : Screen) (style text : String) : String :=
  if screen.colours then styleSequence style ++ text ++ styleSequence "0" else text

/-- The lines of a group: its name behind its number, and its entries. -/
def groupLines (screen : Screen) (number : Nat) (group : Group) : List String :=
  (screen.paint "1;37" (padRight 3 (toString number) ++ " " ++ group.name) ++ "\n") ::
    group.occurrences.map entryLine

/-- The texts that are written for an answer. -/
def answerPrints (screen : Screen) (groups : List Group) : List String :=
  if screen.asJson then [(rows groups).renderLines ++ "\n"]
  else if groups.isEmpty then [screen.paint "2;37" "(no matches)" ++ "\n"]
  else groups.zipIdx.flatMap fun (group, place) => screen.groupLines (place + 1) group

/-- The texts that are written for a piece, one after the other. -/
def prints (screen : Screen) : Piece → List String
  | .welcome => [welcomeText]
  | .prompt => ["> "]
  | .lineEnd => ["\n"]
  | .echo query => ["[query] " ++ Text.quote (normalize query) ++ "\n"]
  | .answer groups => screen.answerPrints groups
  | .warning message => [screen.paint "2;33" ("(warning) " ++ message) ++ "\n"]
  | .reset => [screen.paint "2;36" "(reset)" ++ "\n"]

end Screen

/-- What the console is written to. -/
structure Output where
  /-- The characters that it has a form for. -/
  takes : Char → Bool := fun _ => true
  /-- What it says about a text that it refuses. -/
  complaint : String → String := fun _ => ""

/-- What is said about a text that holds halves without the other: where the first of them stand. -/
def halvesComplaint (text : String) : String :=
  let isWhole (c : Char) : Bool := !Text.isLoneHalf c
  let first := (text.toList.takeWhile isWhole).length
  let subject : String :=
    match (text.toList.dropWhile isWhole).takeWhile Text.isLoneHalf with
    | [half] => "character '" ++ String.ofList (Text.hexEscape (Text.codePoint half)) ++
        "' in position " ++ toString first
    | halves => "characters in position " ++ toString first ++ "-" ++
        toString (first + halves.length - 1)
  "'utf-8' codec can't encode " ++ subject ++ ": surrogates not allowed"

namespace Output

/-- An output that has a form for all characters, but not for halves without the other. -/
def utf8 : Output := { takes := fun c => !Text.isLoneHalf c, complaint := halvesComplaint }

/-- Whether a text can be written. -/
def writes (output : Output) (text : String) : Bool := text.toList.all output.takes

/-- What is seen of some texts that are written one after the other: all of them, or those before
the first one that is refused, and what is said about that one. -/
def shown (output : Output) : List String → String × Option String
  | [] => ("", none)
  | text :: texts =>
    if output.writes text then (text ++ (output.shown texts).1, (output.shown texts).2)
    else ("", some (output.complaint text))

/-- A text with escapes for all characters that there is no form for. -/
def escaped (output : Output) (text : String) : String :=
  String.ofList (text.toList.flatMap fun c =>
    if output.takes c then [c] else Text.hexEscape (Text.codePoint c))

end Output

end SymbolLookup.Console

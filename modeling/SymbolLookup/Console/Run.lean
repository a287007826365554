import SymbolLookup.Bundle.Build
import SymbolLookup.CommandLine.Subject
import SymbolLookup.Console.Lines
/-!
# The console

One command answers a query, takes queries line by line, or packs a source into a bundle.

## Main definitions

* `Command`: what the words of a command ask for.
* `Report`: what a command leaves.
* `run`: a command from its words to what it leaves.
-/

namespace SymbolLookup.Console

/-- What surrounds a command. -/
structure Surroundings where
  /-- What is typed. -/
  input : String := ""
  /-- Whether answers go to a terminal. -/
  isTerminal : Bool := false
  /-- The wish for no colours; it is one unless it is empty. -/
  noColours : String := ""
  files : Files := []
  /-- The directory that paths are seen from. -/
  here : Path := {}
  settings : Settings := {}
  /-- What reads the documents. -/
  interpreter : Interpreter := {}
  /-- What answers are written to. -/
  output : Output := {}

/-- What the words of a command ask for. -/
structure Command where
  /-- What is searched. -/
  subject : Subject
  /-- How many groups are shown. -/
  shown : Int
  /-- The query to answer; none if it is empty. -/
  query : String
  /-- Whether lines are taken. -/
  takesLines : Bool
  /-- The path of the bundle to pack the source into; none if it is empty. -/
  bundle : String
  /-- Whether answers are shown as JSON. -/
  asJson : Bool
  /-- Whether the search key of what is typed is shown. -/
  echo : Bool

/-- The switches of the console. -/
def switches : List Switch := Subject.switches ++ [
  { names := ["-k"], kind := .whole },
  { names := ["--q"] },
  { names := ["--repl"], kind := .flag },
  { names := ["--pack"] },
  { names := ["--json"], kind := .flag },
  { names := ["--echo"], kind := .flag },
  { names := ["--verbose"], kind := .flag }]

/-- What some switches ask for. -/
def Command.ofGiven (settings : Settings) (given : Given) : Command :=
  { subject := Subject.ofGiven settings given
    shown := given.wholeOr "-k" shownGroups
    query := given.textOr "--q" ""
    takesLines := given.flag "--repl"
    bundle := given.textOr "--pack" ""
    asJson := given.flag "--json"
    echo := given.flag "--echo" }

/-- Whether a command asks for nothing at all. -/
def Command.isIdle (command : Command) : Bool :=
  command.bundle == "" && command.query == "" && !command.takesLines

/-- What some words ask for; they have to ask for something. -/
def Command.parse (settings : Settings) (words : List String) : Except Refusal Command :=
  match CommandLine.parse switches words with
  | .error refusal => .error refusal
  | .ok given =>
    let command := Command.ofGiven settings given
    if command.isIdle then .error .misuse else .ok command

/-- How a command ended. -/
inductive Finish where
  /-- As it should. -/
  | done
  /-- Its words were refused. -/
  | refused (refusal : Refusal)
  | failed (fault : Fault)
  deriving DecidableEq, Repr

/-- What a command leaves. -/
structure Report where
  /-- How it ended. -/
  finish : Finish := .done
  /-- What it wrote. -/
  out : String := ""
  /-- What it wrote about what went wrong. -/
  err : String := ""
  files : Files

/-- What is shown while queries are taken line by line. -/
def takeLines (command : Command) (desk : Desk) (input : String) : Except Fault (List Piece) :=
  match desk.openSession { limit := some (.integer command.shown) } with
  | (.error fault, _) => .error fault
  | (.ok _, desk) => .ok (.welcome :: typeLines command.echo desk "" (inputLines input))

/-- What a command shows for its query: the warnings, the answer, and the desk after that. -/
def answerQuery (command : Command) (desk : Desk) :
    Except Fault (List Piece × List Piece) × Desk :=
  if command.query = "" then (.ok ([], []), desk)
  else
    let (result, desk) := desk.search (some command.query) (some (.integer command.shown)) .joined
    (result.map fun result => (result.warnings.map .warning, [.answer result.groups]), desk)

/-- How a command ended that wrote some texts, and what is seen of them: a text that is refused is
the last one. -/
def Output.ends (output : Output) (texts : List String) (finish : Finish) : Finish × String :=
  match output.shown texts with
  | (seen, none) => (finish, seen)
  | (seen, some complaint) => (.failed (.handler complaint), seen)

/-- How a command ends behind which lines are taken. -/
def finishOf : Except Fault (List Piece) → Finish
  | .error fault => .failed fault
  | .ok _ => .done

/-- What a command leaves that searches at a desk. -/
def searchAt (command : Command) (screen : Screen) (surroundings : Surroundings) (desk : Desk) :
    Report :=
  let files := surroundings.files
  match answerQuery command desk with
  | (.error fault, _) => { finish := .failed fault, files }
  | (.ok (warnings, answer), desk) =>
    let lines :=
      if command.takesLines then takeLines command desk surroundings.input else .ok []
    let written := (answer ++ lines.toOption.getD []).flatMap screen.prints
    let (finish, out) := surroundings.output.ends written (finishOf lines)
    { finish, out, files
      err := surroundings.output.escaped (String.join (warnings.flatMap screen.prints)) }

/-- What a command leaves that searches. -/
def searchSource (command : Command) (surroundings : Surroundings) : Report :=
  let files := surroundings.files
  let colours := surroundings.isTerminal && surroundings.noColours == ""
  match command.subject.desk files surroundings.here surroundings.interpreter with
  | .error fault => { finish := .failed fault, files }
  | .ok desk => searchAt command { colours, asJson := command.asJson } surroundings desk

/-- What a command leaves that packs a source. -/
def packSource (command : Command) (surroundings : Surroundings) : Report :=
  let source := command.subject.source
  match packAddress surroundings.files surroundings.here source command.bundle with
  | (.error fault, files) => { finish := .failed fault, files }
  | (.ok count, files) =>
    let written := ["packed " ++ toString count ++ " shards into " ++ command.bundle ++ "\n"]
    let (finish, out) := surroundings.output.ends written .done
    { finish, out, files }

/-- What a command leaves. -/
def run (words : List String) (surroundings : Surroundings) : Report :=
  match Command.parse surroundings.settings words with
  | .error refusal => { finish := .refused refusal, files := surroundings.files }
  | .ok command =>
    if command.bundle = "" then searchSource command surroundings
    else packSource command surroundings

end SymbolLookup.Console

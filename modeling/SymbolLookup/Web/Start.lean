import SymbolLookup.CommandLine.Subject
/-!
# Starting the web service

## Main definitions

* `Command`: what the words of a command ask for.
* `Start`: how a start ends.
* `start`: a start from the words of a command.
-/

namespace SymbolLookup.Web

/-- What the words of a command ask for. -/
structure Command where
  /-- What is searched. -/
  subject : Subject
  /-- Whether all shards are loaded before the first request. -/
  preloads : Bool
  /-- The name of the host under which the service is reached. -/
  host : String
  /-- The number of the socket at which it is reached. -/
  socket : Int
  /-- Whether the service shows what it does. -/
  verbose : Bool

/-- The switches of the web service. -/
def switches : List Switch := Subject.switches ++ [
  { names := ["--preload"], kind := .flag },
  { names := ["--host"] },
  { names := ["--port"], kind := .whole },
  { names := ["--verbose"], kind := .flag }]

/-- What some switches ask for. -/
def Command.ofGiven (settings : Settings) (given : Given) : Command :=
  { subject := Subject.ofGiven settings given
    preloads := given.flag "--preload"
    host := given.textOr "--host" "127.0.0.1"
    socket := given.wholeOr "--port" 8000
    verbose := given.flag "--verbose" }

/-- How a start ends. -/
inductive Start where
  /-- The words were refused. -/
  | refused (refusal : Refusal)
  /-- Something failed; there is a desk if it was open by then. -/
  | failed (fault : Fault) (desk : Option Desk)
  /-- Requests are taken. -/
  | serving (command : Command) (desk : Desk)

/-- The start of the service at a desk that is open. -/
def startAt (command : Command) (desk : Desk) : Start :=
  if command.preloads then
    match desk.preload .joined with
    | (.error fault, desk) => .failed fault (some desk)
    | (.ok _, desk) => .serving command desk
  else .serving command desk

/-- The start of the service. -/
def start (settings : Settings) (words : List String) (files : Files) (here : Path)
    (interpreter : Interpreter := {}) : Start :=
  match CommandLine.parse switches words with
  | .error refusal => .refused refusal
  | .ok given =>
    let command := Command.ofGiven settings given
    match command.subject.desk files here interpreter with
    | .error fault => .failed fault none
    | .ok desk => startAt command desk

end SymbolLookup.Web

import SymbolLookup.Bucket
import SymbolLookup.Keyed
/-!
# Command lines

The words of a command are switches with or without values. A switch may be shortened to any part
of its name from the beginning that no other switch shares.

## Main definitions

* `Switch`: a switch that a command knows.
* `Reading`: what a single word says.
* `CommandLine.parse`: the switches that some words give.

## Design notes

What the words say is found out before any of them has an effect, so an ambiguous word spoils the
command even behind a request for help. Commands take no words besides switches and their values;
such words, and switches that nobody knows, are refused when all others had their effect.
-/

namespace SymbolLookup

open Text

/-- What a switch takes. -/
inductive SwitchKind where
  /-- Nothing: it is given or not. -/
  | flag
  /-- Nothing: it asks for help. -/
  | help
  | text
  /-- A whole number. -/
  | whole
  /-- One of some words. -/
  | oneOf (choices : List String)
  deriving DecidableEq, Repr

/-- A switch that a command knows. -/
structure Switch where
  /-- Its names with their dashes, the first one being the one it is known by. -/
  names : List String
  /-- What it takes. -/
  kind : SwitchKind := .text
  deriving DecidableEq, Repr

namespace Switch

/-- Whether a switch takes a value. -/
def takesValue (switch : Switch) : Bool := switch.kind != .flag && switch.kind != .help

/-- The name that a switch is known by. -/
def name (switch : Switch) : String := switch.names.headD ""

/-- Whether a switch takes this value. -/
def accepts (switch : Switch) (value : String) : Bool :=
  match switch.kind with
  | .whole =>
    match readInt value with
    | .ok _ => true
    | .error _ => false
  | .oneOf choices => choices.contains value
  | _ => true

end Switch

/-- Why the words of a command are not followed. -/
inductive Refusal where
  /-- They cannot be understood. -/
  | misuse
  /-- They ask for help. -/
  | help
  deriving DecidableEq, Repr

/-- The number that a command ends with when it is refused. -/
def Refusal.code : Refusal → Nat
  | .misuse => 2
  | .help => 0

/-- A value written in the same word as its switch. -/
structure Attached where
  /-- Whether an equals sign stands before it. -/
  equals : Bool
  /-- The value. -/
  text : List Char
  deriving DecidableEq, Repr

/-- What a word says. -/
inductive Reading where
  /-- No switch. -/
  | plain
  /-- Two dashes, which make all later words plain. -/
  | dashes
  /-- A switch that nobody knows. -/
  | unknown
  /-- A switch, whether it was written with one dash, and the value written with it. -/
  | switch (switch : Switch) (short : Bool) (attached : Option Attached)
  deriving DecidableEq, Repr

/-- The switches given so far, by the names they are known by, with the last value of each. -/
abbrev Given := List (String × String)

namespace CommandLine

/-- All names of some switches. -/
def names (switches : List Switch) : List (String × Switch) :=
  switches.flatMap fun switch => switch.names.map fun name => (name, switch)

/-- The switch of a name. -/
def named? (switches : List Switch) (name : String) : Option Switch :=
  Keyed.get? name (names switches)

/-- A word cut at its first equals sign, and what follows the sign, if there is one. -/
def cutAtEquals (word : List Char) : List Char × Option Attached :=
  let (name, rest) := word.span (· ≠ '=')
  (name, rest.tail?.map fun text => ⟨true, text⟩)

/-- Whether a name is written with one dash. -/
def isShort (name : List Char) : Bool := name[1]? != some '-'

/-- What a word says if it shortens names or has a value directly behind a name of one letter. -/
def shortened (switches : List Switch) (word : List Char) : List Reading :=
  if isShort word then
    (names switches).filterMap fun (name, switch) =>
      if name.toList = word.take 2 then some (.switch switch true (some ⟨false, word.drop 2⟩))
      else if word.isPrefixOf name.toList then some (.switch switch (isShort name.toList) none)
      else none
  else
    let (start, attached) := cutAtEquals word
    (names switches).filterMap fun (name, switch) =>
      if start.isPrefixOf name.toList then some (.switch switch false attached) else none

/-- Whether a word is a number below zero, with or without a point. -/
def isNegative (word : List Char) : Bool :=
  match dropLineEnd word with
  | '-' :: digits =>
    match digits.dropWhile isDigit with
    | [] => !digits.isEmpty
    | '.' :: places => !places.isEmpty && places.all isDigit
    | _ => false
  | _ => false

/-- What a word says that begins with a dash and is longer, but is no name of a switch. -/
def readDashed (switches : List Switch) (word : List Char) : Except Refusal Reading :=
  let (name, attached) := cutAtEquals word
  match attached, named? switches (String.ofList name) with
  | some _, some switch => .ok (.switch switch (isShort name) attached)
  | _, _ =>
    match shortened switches word with
    | [reading] => .ok reading
    | [] => .ok (if isNegative word || word.contains ' ' then .plain else .unknown)
    | _ => .error .misuse

/-- What a word says. -/
def readWord (switches : List Switch) (word : String) : Except Refusal Reading :=
  if word = "--" then .ok .dashes
  else
    match word.toList with
    | '-' :: _ :: _ =>
      match named? switches word with
      | some switch => .ok (.switch switch (isShort word.toList) none)
      | none => readDashed switches word.toList
    | _ => .ok .plain

/-- What some words say. -/
def readWords (switches : List Switch) : List String → Except Refusal (List (String × Reading))
  | [] => .ok []
  | word :: words =>
    match readWord switches word with
    | .error refusal => .error refusal
    | .ok .dashes => .ok ((word, .dashes) :: words.map fun later => (later, .plain))
    | .ok reading => (readWords switches words).map ((word, reading) :: ·)

/-- What a word with a switch and an attached value gives: switches with their values, perhaps one
switch more that takes its value from the next word, and whether the word ends in a letter that is
no switch. -/
structure Cluster where
  /-- The switches with their values. -/
  given : List (Switch × String) := []
  /-- The switch that waits for a value. -/
  waiting : Option Switch := none
  /-- Whether something is left that nobody knows. -/
  strange : Bool := false

/-- A cluster with a flag before all others. -/
def Cluster.withFlag (switch : Switch) (cluster : Cluster) : Cluster :=
  { cluster with given := (switch, "") :: cluster.given }

/-- A switch that no value is attached to. -/
def Cluster.alone (switch : Switch) : Cluster :=
  if switch.takesValue then { waiting := some switch } else { given := [(switch, "")] }

/-- What a switch and the value attached to it give. Behind a flag of one letter, other such flags
may follow without a dash of their own. -/
def cluster (switches : List Switch) (switch : Switch) (short equals : Bool) :
    (text : List Char) → Except Refusal Cluster
  | [] => if switch.takesValue then .ok { given := [(switch, "")] } else .error .misuse
  | c :: text =>
    if switch.takesValue then .ok { given := [(switch, String.ofList (c :: text))] }
    else if !short || equals || c == '-' then .error .misuse
    else
      match named? switches (String.ofList ['-', c]) with
      | none => .ok { given := [(switch, "")], strange := true }
      | some next =>
        match text with
        | [] => .ok ((Cluster.alone next).withFlag switch)
        | '=' :: value => (cluster switches next true true value).map (·.withFlag switch)
        | d :: more => (cluster switches next true false (d :: more)).map (·.withFlag switch)

/-- The switches given after those of a cluster. -/
def give (given : Given) : List (Switch × String) → Except Refusal Given
  | [] => .ok given
  | (switch, value) :: rest =>
    if switch.kind = .help then .error .help
    else if switch.accepts value then give (Keyed.put switch.name value given) rest
    else .error .misuse

/-- What a word says with a switch in it, apart from the next word. -/
def clusterOf (switches : List Switch) (switch : Switch) (short : Bool) :
    Option Attached → Except Refusal Cluster
  | none => .ok (Cluster.alone switch)
  | some attached => cluster switches switch short attached.equals attached.text

/-- The switches that words give after those given before, and whether something was left over. -/
def follow (switches : List Switch) (given : Given) (strange : Bool) :
    List (String × Reading) → Except Refusal (Given × Bool)
  | [] => .ok (given, strange)
  | (_, .switch switch short attached) :: words =>
    match clusterOf switches switch short attached with
    | .error refusal => .error refusal
    | .ok found =>
      let strange := strange || found.strange
      match found.waiting, words with
      | none, words =>
        match give given found.given with
        | .error refusal => .error refusal
        | .ok given => follow switches given strange words
      | some waiting, (value, .plain) :: words =>
        match give given (found.given ++ [(waiting, value)]) with
        | .error refusal => .error refusal
        | .ok given => follow switches given strange words
      | some _, _ => .error .misuse
  | _ :: words => follow switches given true words

/-- The switches that some words give. -/
def parse (switches : List Switch) (words : List String) : Except Refusal Given :=
  match readWords switches words with
  | .error refusal => .error refusal
  | .ok readings =>
    match follow switches [] false readings with
    | .error refusal => .error refusal
    | .ok (given, strange) => if strange then .error .misuse else .ok given

end CommandLine

namespace Given

/-- The value of a switch, or another one if it was not given. -/
def textOr (given : Given) (name standard : String) : String :=
  (Keyed.get? name given).getD standard

/-- Whether a switch was given. -/
def flag (given : Given) (name : String) : Bool := Keyed.has name given

/-- The whole number given with a switch, or another one if it was not given. -/
def wholeOr (given : Given) (name : String) (standard : Int) : Int :=
  match (Keyed.get? name given).map readInt with
  | some (.ok n) => n
  | _ => standard

end Given

end SymbolLookup

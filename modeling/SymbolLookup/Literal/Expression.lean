import SymbolLookup.Literal.Template
import SymbolLookup.Literal.Value
import SymbolLookup.Sum
/-!
# Expressions of the literal notation

The grammar of expressions and the values of those that are made of literals.

## Main definitions

* `Expression`: what was written, as far as literals go.
* `parse`: the expression that a text writes.
* `Expression.evaluate`: its value.
* `read`: the value that a text writes.

## Design notes

The grammar has many expressions that are no literals: calls, comparisons, comprehensions and so
on. They are recognised, because a text that is no expression at all is unreadable as a whole,
while a part that is no literal is only met when evaluation comes to it; but nothing of them is
kept, they are all `foreign`, but for what the targets of loops are made of. The parser recurses on
a bound for the depth of its calls. Evaluation does not ask where an expression comes from, and
`read` takes any parser.
-/

namespace SymbolLookup.Literal

/-- An expression. -/
inductive Expression where
  /-- A text, bytes, the ellipsis or one of the three words for values. -/
  | constant (value : Value)
  | number (value : Number)
  | list (items : List Expression)
  | tuple (items : List Expression)
  | set (members : List Expression)
  | dictionary (entries : List (Expression × Expression))
  | name (text : String)
  /-- The call that makes a set without members. -/
  | emptySet
  /-- An expression with a sign before it. -/
  | signed (negative : Bool) (operand : Expression)
  /-- A sum, or a difference if `negative`. -/
  | sum (negative : Bool) (left right : Expression)
  /-- An attribute or a subscript of something. -/
  | place
  /-- An expression whose items are spread. -/
  | spread (items : Expression)
  /-- Any other expression. -/
  | foreign
  deriving Repr, Inhabited

/-- Words that are no names. -/
def keywords : List String :=
  ["False", "None", "True", "and", "as", "assert", "async", "await", "break", "class", "continue",
    "def", "del", "elif", "else", "except", "finally", "for", "from", "global", "if", "import",
    "in", "is", "lambda", "nonlocal", "not", "or", "pass", "raise", "return", "try", "while",
    "with", "yield"]

/-- The tokens after a given mark. -/
def afterMark? (mark : String) : List Token → Option (List Token)
  | .mark found :: rest => if found = mark then some rest else none
  | _ => none

/-- The tokens after a given word. -/
def afterWord? (word : String) : List Token → Option (List Token)
  | .name found :: rest => if found = word then some rest else none
  | _ => none

/-- How tightly the operators bind that stand between two operands: the operator's level, whether
it adds (`some false`) or subtracts (`some true`), and the tokens behind it. -/
def infixAt? : List Token → Option (Nat × Option Bool × List Token)
  | .name "or" :: rest => some (0, none, rest)
  | .name "and" :: rest => some (1, none, rest)
  | .name "not" :: .name "in" :: rest => some (3, none, rest)
  | .name "in" :: rest => some (3, none, rest)
  | .name "is" :: .name "not" :: rest => some (3, none, rest)
  | .name "is" :: rest => some (3, none, rest)
  | .mark mark :: rest =>
    if ["<", ">", "==", ">=", "<=", "!="].contains mark then some (3, none, rest)
    else if mark = "|" then some (4, none, rest)
    else if mark = "^" then some (5, none, rest)
    else if mark = "&" then some (6, none, rest)
    else if ["<<", ">>"].contains mark then some (7, none, rest)
    else if mark = "+" then some (8, some false, rest)
    else if mark = "-" then some (8, some true, rest)
    else if ["*", "/", "//", "%", "@"].contains mark then some (9, none, rest)
    else none
  | _ => none

/-- The level of the word `not` before an operand. -/
def notLevel : Nat := 2

/-- The level at which neither comparisons nor anything looser is taken. -/
def operandLevel : Nat := 4

/-- Whether a token is a text with expressions in it. -/
def Token.isTemplate : Token → Bool
  | .template _ _ => true
  | _ => false

/-- Adjacent texts as one constant; bytes and texts do not mix. -/
def joinTexts : List Token → Option Expression
  | tokens =>
    if tokens.any Token.isTemplate then
      if tokens.all fun token => !(token matches .bytes _) then some .foreign else none
    else if tokens.all fun token => token matches .text _ then
      let chars := tokens.flatMap fun token =>
        match token with
        | .text value => value
        | _ => []
      some (.constant (.text (String.ofList chars)))
    else if tokens.all fun token => token matches .bytes _ then
      let codes := tokens.flatMap fun token =>
        match token with
        | .bytes value => value
        | _ => []
      some (.constant (.bytes codes))
    else none

/-- Whether a comprehension's loop follows. -/
def beginsComprehension : List Token → Bool
  | .name "for" :: _ | .name "async" :: .name "for" :: _ => true
  | _ => false

/-- Whether a token is a quoted one. -/
def Token.isQuoted : Token → Bool
  | .text _ | .bytes _ | .template _ _ => true
  | _ => false

mutual

/-- Whether a loop can have an expression as its target: a name, a place, or some of them. -/
def Expression.isTarget : Expression → Bool
  | .name _ | .place => true
  | .list items | .tuple items => Expression.allTargets items
  | _ => false

/-- Whether all of some expressions can be targets, where one may take what is left over. -/
def Expression.allTargets : List Expression → Bool
  | [] => true
  | .spread item :: items => item.isTarget && Expression.allTargets items
  | item :: items => item.isTarget && Expression.allTargets items

end

/-- What may still come among the arguments of a call. -/
inductive Stage where
  /-- Anything. -/
  | positions
  /-- No arguments without a name, unless they are spread. -/
  | names
  /-- Arguments with a name, and those that spread such. -/
  | rest
  deriving DecidableEq, Repr

/-- What was seen among the parameters of a function. -/
structure Seen where
  /-- A parameter. -/
  any : Bool := false
  /-- A parameter with a standard value. -/
  standard : Bool := false
  /-- The mark behind parameters that have no name for callers. -/
  slash : Bool := false
  /-- The mark before parameters that callers have to name. -/
  star : Bool := false
  /-- That mark, and no parameter behind it yet. -/
  bare : Bool := false

/-- The tokens from the colon on, or behind a comma, where a parameter ends. -/
def afterParameter? : List Token → Option (List Token)
  | .mark "," :: rest => some rest
  | .mark ":" :: rest => some (.mark ":" :: rest)
  | _ => none

section Grammar

variable (named : String → Option Char)

mutual

/-- An expression: a condition, a function or an operation. -/
def expression : (depth : Nat) → List Token → Option (Expression × List Token)
  | 0, _ => none
  | depth + 1, tokens =>
    match afterWord? "lambda" tokens with
    | some rest => do
      let rest ← parameters depth {} rest
      let (_, rest) ← expression depth (← afterMark? ":" rest)
      some (.foreign, rest)
    | none => do
      let (value, rest) ← operation depth 0 tokens
      match afterWord? "if" rest with
      | none => some (value, rest)
      | some rest =>
        let (_, rest) ← operation depth 0 rest
        let (_, rest) ← expression depth (← afterWord? "else" rest)
        some (.foreign, rest)

/-- The parameters of a function, up to its colon. -/
def parameters : (depth : Nat) → (seen : Seen) → List Token → Option (List Token)
  | 0, _, _ => none
  | depth + 1, seen, tokens =>
    match tokens with
    | .mark ":" :: _ => if seen.bare then none else some tokens
    | .mark "/" :: rest =>
      if !seen.any || seen.slash || seen.star then none
      else do parameters depth { seen with slash := true } (← afterParameter? rest)
    | .mark "*" :: .mark "," :: rest =>
      if seen.star then none
      else parameters depth { seen with star := true, bare := true } rest
    | .mark "*" :: .name found :: rest =>
      if seen.star || keywords.contains found then none
      else do parameters depth { seen with any := true, star := true } (← afterParameter? rest)
    | .mark "**" :: .name found :: rest =>
      if seen.bare || keywords.contains found then none
      else do
        let rest ← afterParameter? rest
        if rest.head? = some (.mark ":") then some rest else none
    | .name found :: .mark "=" :: rest =>
      if keywords.contains found then none
      else do
        let (_, rest) ← expression depth rest
        let standard := seen.standard || !seen.star
        parameters depth { seen with any := true, standard, bare := false }
          (← afterParameter? rest)
    | .name found :: rest =>
      if keywords.contains found || (seen.standard && !seen.star) then none
      else do
        parameters depth { seen with any := true, bare := false } (← afterParameter? rest)
    | _ => none

/-- An operation whose operators bind at least as tightly as `level`. -/
def operation : (depth level : Nat) → List Token → Option (Expression × List Token)
  | 0, _, _ => none
  | depth + 1, level, tokens =>
    match afterWord? "not" tokens with
    | some rest =>
      if level ≤ notLevel then do
        let (_, rest) ← operation depth notLevel rest
        operators depth level .foreign rest
      else none
    | none => do
      let (value, rest) ← factor depth tokens
      operators depth level value rest

/-- The operators and further operands behind a first one. -/
def operators : (depth level : Nat) → Expression → List Token → Option (Expression × List Token)
  | 0, _, _, _ => none
  | depth + 1, level, left, tokens =>
    match infixAt? tokens with
    | none => some (left, tokens)
    | some (found, adds, rest) =>
      if found < level then some (left, tokens)
      else do
        let (right, rest) ← operation depth (found + 1) rest
        let value :=
          match adds with
          | some negative => .sum negative left right
          | none => .foreign
        operators depth level value rest

/-- An operand with the signs before it and a power behind it. -/
def factor : (depth : Nat) → List Token → Option (Expression × List Token)
  | 0, _ => none
  | depth + 1, tokens =>
    match tokens with
    | .mark "+" :: rest => do
      let (value, rest) ← factor depth rest
      some (.signed false value, rest)
    | .mark "-" :: rest => do
      let (value, rest) ← factor depth rest
      some (.signed true value, rest)
    | .mark "~" :: rest => do
      let (_, rest) ← factor depth rest
      some (.foreign, rest)
    | _ => do
      let awaited := afterWord? "await" tokens
      let (value, rest) ← atom depth (awaited.getD tokens)
      let (value, rest) ← trailers depth value rest
      let value := if awaited.isSome then .foreign else value
      match afterMark? "**" rest with
      | none => some (value, rest)
      | some rest =>
        let (_, rest) ← factor depth rest
        some (.foreign, rest)

/-- The attributes, calls and subscripts behind an operand. -/
def trailers : (depth : Nat) → Expression → List Token → Option (Expression × List Token)
  | 0, _, _ => none
  | depth + 1, value, tokens =>
    match tokens with
    | .mark "." :: .name found :: rest =>
      if keywords.contains found then none else trailers depth .place rest
    | .mark "." :: _ => none
    | .mark "(" :: .mark ")" :: rest =>
      let called :=
        match value with
        | .name "set" => .emptySet
        | _ => .foreign
      trailers depth called rest
    | .mark "(" :: rest => do
      let rest ← callArguments depth rest
      trailers depth .foreign rest
    | .mark "[" :: rest => do
      let rest ← subscripts depth rest
      trailers depth .place rest
    | _ => some (value, tokens)

/-- The arguments of a call and its closing bracket; a comprehension may be the only one. -/
def callArguments : (depth : Nat) → List Token → Option (List Token)
  | 0, _ => none
  | depth + 1, tokens =>
    match expressionOrName depth tokens with
    | some (_, rest) =>
      if beginsComprehension rest then do afterMark? ")" (← comprehension depth rest)
      else arguments depth .positions tokens
    | none => arguments depth .positions tokens

/-- The arguments of a call that are written one by one, and its closing bracket. -/
def arguments : (depth : Nat) → (stage : Stage) → List Token → Option (List Token)
  | 0, _, _ => none
  | depth + 1, stage, tokens => do
    let (next, rest) ←
      match tokens with
      | .mark "*" :: rest =>
        if stage = .rest then none else (expression depth rest).map fun r => (stage, r.2)
      | .mark "**" :: rest => (expression depth rest).map fun r => (.rest, r.2)
      | .name found :: .mark "=" :: rest =>
        if keywords.contains found then none
        else
          (expression depth rest).map fun r => (if stage = .positions then .names else stage, r.2)
      | _ =>
        if stage = .positions then (expressionOrName depth tokens).map fun r => (stage, r.2)
        else none
    match rest with
    | .mark ")" :: rest | .mark "," :: .mark ")" :: rest => some rest
    | .mark "," :: rest => arguments depth next rest
    | _ => none

/-- The subscripts of an operand and the closing bracket. -/
def subscripts : (depth : Nat) → List Token → Option (List Token)
  | 0, _ => none
  | depth + 1, tokens => do
    let rest ←
      match tokens with
      | .mark "*" :: rest => (expression depth rest).map (·.2)
      | .mark ":" :: rest => sliceEnd depth true rest
      | .name _ :: .mark ":=" :: _ => (expressionOrName depth tokens).map (·.2)
      | _ => do
        let (_, rest) ← expression depth tokens
        match rest with
        | .mark ":" :: rest => sliceEnd depth true rest
        | _ => some rest
    match rest with
    | .mark "]" :: rest | .mark "," :: .mark "]" :: rest => some rest
    | .mark "," :: rest => subscripts depth rest
    | _ => none

/-- What follows a colon of a subscript; one more colon may follow if `more` tells so. -/
def sliceEnd : (depth : Nat) → (more : Bool) → List Token → Option (List Token)
  | 0, _, _ => none
  | depth + 1, more, tokens => do
    let rest ←
      match tokens with
      | .mark ":" :: _ | .mark "," :: _ | .mark "]" :: _ => some tokens
      | _ => (expression depth tokens).map (·.2)
    match rest with
    | .mark ":" :: rest => if more then sliceEnd depth false rest else none
    | _ => some rest

/-- An expression that may be given a name. -/
def expressionOrName : (depth : Nat) → List Token → Option (Expression × List Token)
  | 0, _ => none
  | depth + 1, tokens =>
    match tokens with
    | .name found :: .mark ":=" :: rest =>
      if keywords.contains found then none
      else do
        let (_, rest) ← expression depth rest
        some (.foreign, rest)
    | _ => expression depth tokens

/-- An expression that may be given a name or spread by a star. -/
def starred : (depth : Nat) → List Token → Option (Expression × List Token)
  | 0, _ => none
  | depth + 1, tokens =>
    match afterMark? "*" tokens with
    | some rest => do
      let (value, rest) ← operation depth operandLevel rest
      some (.spread value, rest)
    | none => expressionOrName depth tokens

/-- The loops and conditions of a comprehension. -/
def comprehension : (depth : Nat) → List Token → Option (List Token)
  | 0, _ => none
  | depth + 1, tokens =>
    match tokens with
    | .name "async" :: .name "for" :: rest | .name "for" :: rest => do
      let rest ← targets depth rest
      let (_, rest) ← operation depth 0 (← afterWord? "in" rest)
      comprehension depth rest
    | .name "if" :: rest => do
      let (_, rest) ← operation depth 0 rest
      comprehension depth rest
    | _ => some tokens

/-- The targets of a loop, up to the word `in`. -/
def targets : (depth : Nat) → List Token → Option (List Token)
  | 0, _ => none
  | depth + 1, tokens => do
    let (value, rest) ← atom depth ((afterMark? "*" tokens).getD tokens)
    let (value, rest) ← trailers depth value rest
    if value.isTarget then
      match rest with
      | .mark "," :: .name "in" :: _ => some (rest.drop 1)
      | .mark "," :: rest => targets depth rest
      | _ => some rest
    else none

/-- Items separated by commas up to a closing mark, after the ones in `before`. -/
def items : (depth : Nat) → (close : String) → (before : List Expression) → List Token →
    Option (List Expression × List Token)
  | 0, _, _, _ => none
  | depth + 1, close, before, tokens => do
    let (item, rest) ← starred depth tokens
    let all := before ++ [item]
    match afterMark? close rest with
    | some rest => some (all, rest)
    | none =>
      let rest ← afterMark? "," rest
      match afterMark? close rest with
      | some rest => some (all, rest)
      | none => items depth close all rest

/-- The entries of a dictionary and its closing brace, after the ones in `before`. -/
def entries : (depth : Nat) → (before : List (Expression × Expression)) → List Token →
    Option (List (Expression × Expression) × List Token)
  | 0, _, _ => none
  | depth + 1, before, tokens => do
    let (entry, rest) ←
      match afterMark? "**" tokens with
      | some rest => (operation depth operandLevel rest).map fun r => ((.foreign, .foreign), r.2)
      | none => do
        let (key, rest) ← expression depth tokens
        let (value, rest) ← expression depth (← afterMark? ":" rest)
        some ((key, value), rest)
    let all := before ++ [entry]
    match afterMark? "\x7d" rest with
    | some rest => some (all, rest)
    | none =>
      let rest ← afterMark? "," rest
      match afterMark? "\x7d" rest with
      | some rest => some (all, rest)
      | none => entries depth all rest

/-- A comprehension behind its first expression, up to a closing mark. -/
def comprehended : (depth : Nat) → (close : String) → (first : Expression) → List Token →
    Option (Expression × List Token)
  | 0, _, _, _ => none
  | _, _, .spread _, _ => none
  | depth + 1, close, _, tokens => do
    let rest ← afterMark? close (← comprehension depth tokens)
    some (.foreign, rest)

/-- What a `yield` takes, up to the closing bracket. -/
def yielded : (depth : Nat) → List Token → Option (List Token)
  | 0, _ => none
  | depth + 1, tokens =>
    match tokens with
    | .mark ")" :: rest => some rest
    | .name "from" :: rest => do
      let (_, rest) ← expression depth rest
      afterMark? ")" rest
    | _ => yieldedItems depth tokens

/-- The items that a `yield` takes, up to the closing bracket. -/
def yieldedItems : (depth : Nat) → List Token → Option (List Token)
  | 0, _ => none
  | depth + 1, tokens => do
    let (_, rest) ←
      match afterMark? "*" tokens with
      | some rest => operation depth operandLevel rest
      | none => expression depth tokens
    match rest with
    | .mark ")" :: rest | .mark "," :: .mark ")" :: rest => some rest
    | .mark "," :: rest => yieldedItems depth rest
    | _ => none

/-- Whether all of some texts of expressions in a template can be read; each of them is read as if
it stood in brackets. -/
def readsAll : (depth : Nat) → List (List Char) → Bool
  | 0, _ => false
  | _ + 1, [] => true
  | depth + 1, source :: sources =>
    match tokens? named ('(' :: source ++ [')']) with
    | none => false
    | some tokens =>
      match atom depth tokens with
      | some (_, []) => readsAll depth sources
      | _ => false

/-- Whether the templates among some quoted tokens are well-formed. -/
def fillsAll : (depth : Nat) → List Token → Bool
  | 0, _ => false
  | _ + 1, [] => true
  | depth + 1, .template raw body :: rest =>
    match sources? named raw body with
    | none => false
    | some sources => readsAll depth sources && fillsAll depth rest
  | depth + 1, _ :: rest => fillsAll depth rest

/-- An operand without signs, powers and trailers. -/
def atom : (depth : Nat) → List Token → Option (Expression × List Token)
  | 0, _ => none
  | depth + 1, tokens =>
    match tokens with
    | .number value :: rest => some (.number value, rest)
    | .name "True" :: rest => some (.constant (.bool true), rest)
    | .name "False" :: rest => some (.constant (.bool false), rest)
    | .name "None" :: rest => some (.constant .none, rest)
    | .name found :: rest => if keywords.contains found then none else some (.name found, rest)
    | .mark "..." :: rest => some (.constant .ellipsis, rest)
    | .mark "(" :: .mark ")" :: rest => some (.tuple [], rest)
    | .mark "(" :: .name "yield" :: rest => (yielded depth rest).map fun rest => (.foreign, rest)
    | .mark "(" :: rest => do
      let (first, after) ← starred depth rest
      if beginsComprehension after then comprehended depth ")" first after
      else
        match after with
        | .mark ")" :: after => if rest.head? = some (.mark "*") then none else some (first, after)
        | .mark "," :: .mark ")" :: after => some (.tuple [first], after)
        | .mark "," :: after => (items depth ")" [first] after).map fun r => (.tuple r.1, r.2)
        | _ => none
    | .mark "[" :: .mark "]" :: rest => some (.list [], rest)
    | .mark "[" :: rest => do
      let (first, after) ← starred depth rest
      if beginsComprehension after then comprehended depth "]" first after
      else
        match after with
        | .mark "]" :: after | .mark "," :: .mark "]" :: after => some (.list [first], after)
        | .mark "," :: after => (items depth "]" [first] after).map fun r => (.list r.1, r.2)
        | _ => none
    | .mark "\x7b" :: .mark "\x7d" :: rest => some (.dictionary [], rest)
    | .mark "\x7b" :: .mark "**" :: rest =>
      (entries depth [] (.mark "**" :: rest)).map fun r => (.dictionary r.1, r.2)
    | .mark "\x7b" :: rest => do
      let (first, after) ← starred depth rest
      match after with
      | .mark ":" :: _ => do
        let (key, afterKey) ← expression depth rest
        let (_, afterEntry) ← expression depth (← afterMark? ":" afterKey)
        if beginsComprehension afterEntry then comprehended depth "\x7d" key afterEntry
        else (entries depth [] rest).map fun r => (.dictionary r.1, r.2)
      | .mark "\x7d" :: after | .mark "," :: .mark "\x7d" :: after => some (.set [first], after)
      | .mark "," :: after => (items depth "\x7d" [first] after).map fun r => (.set r.1, r.2)
      | _ => if beginsComprehension after then comprehended depth "\x7d" first after else none
    | _ =>
      let (quoted, rest) := tokens.span Token.isQuoted
      if quoted.isEmpty || !fillsAll depth quoted then none
      else (joinTexts quoted).map fun value => (value, rest)

end

/-- Expressions separated by commas, up to the end of the tokens or a line end. -/
def expressions : (depth : Nat) → List Token → Option ((List Expression × Bool) × List Token)
  | 0, _ => none
  | depth + 1, tokens => do
    let (first, rest) ← expression named depth tokens
    match rest with
    | .mark "," :: rest =>
      match rest with
      | [] | .lineEnd :: _ => some (([first], true), rest)
      | _ => (expressions depth rest).map fun r => ((first :: r.1.1, true), r.2)
    | _ => some (([first], false), rest)

/-- The weight of a token in the bound for the depth of calls. -/
def Token.weight : Token → Nat
  | .template _ body => body.length + 1
  | _ => 1

/-- The expression that some tokens write; several with commas between them are a tuple. -/
def expression? (tokens : List Token) : Option Expression :=
  match expressions named (16 * (sumOver Token.weight tokens + 1)) tokens with
  | some ((all, isTuple), rest) =>
    if rest.all (· == .lineEnd) then
      match all, isTuple with
      | [only], false => some only
      | _, _ => some (.tuple all)
    else none
  | none => none

end Grammar

/-- What a parser makes of a text. -/
inductive Parsed where
  | expression (e : Expression)
  /-- The parser finds no expression, or none that it has room for, and says so. -/
  | refused
  /-- The parser itself breaks. -/
  | broken (reason : String)

/-- The expression that a text writes, given the characters that have names. -/
def parse (named : String → Option Char) (s : List Char) : Parsed :=
  match (tokens? named (s.dropWhile fun c => c == ' ' || c == '\t')).bind (expression? named) with
  | some e => .expression e
  | none => .refused

/-- Why an expression has no value. -/
inductive Fault where
  /-- The text is no expression, or a part of it that evaluation came to is no literal. -/
  | unreadable
  /-- A member of a set or a key of a dictionary is of a kind that can change. -/
  | unhashable (kind : String)
  /-- A whole number is too large to be added to one with an imaginary part. -/
  | wholeTooLarge
  /-- The parser itself broke. -/
  | broken (reason : String)
  deriving DecidableEq, Repr

/-- The number that a number expression writes. -/
def Expression.number? : Expression → Except Fault Number
  | .number value => .ok value
  | _ => .error .unreadable

/-- The number with its sign changed. -/
def Number.negate : Number → Number
  | .whole n => .whole (-n)
  | .real d => .real { d with negative := !d.negative }
  | .complex a b =>
    .complex { a with negative := !a.negative } { b with negative := !b.negative }

/-- The number that a number expression with at most one sign writes. -/
def Expression.signedNumber? : Expression → Except Fault Number
  | .signed negative operand =>
    operand.number?.map fun n => if negative then n.negate else n
  | e => e.number?

/-- The sum of a real part and an imaginary one. -/
def Number.addImaginary (negative : Bool) : Number → Number → Except Fault Number
  | .whole n, .complex _ b =>
    let a : Decimal := { negative := n < 0, digits := n.natAbs }
    match a.rounded with
    | .infinite => .error .wholeTooLarge
    | .finite _ _ => .ok (.complex a { b with negative := negative != b.negative })
  | .real a, .complex _ b => .ok (.complex a { b with negative := negative != b.negative })
  | _, _ => .error .unreadable

mutual

/-- The value of an expression. Parts are evaluated in the order of writing. -/
def Expression.evaluate : Expression → Except Fault Value
  | .constant value => .ok value
  | .number value => .ok (.number value)
  | .emptySet => .ok (.set [])
  | .signed negative operand => (signedNumber? (.signed negative operand)).map .number
  | .sum negative left right =>
    match left.signedNumber? with
    | .error fault => .error fault
    | .ok a =>
      match right.number? with
      | .error fault => .error fault
      | .ok b => (a.addImaginary negative b).map .number
  | .list items => (evaluateItems items).map .list
  | .tuple items => (evaluateItems items).map .tuple
  | .set members => (evaluateMembers members).map .set
  | .dictionary entries => (evaluateEntries entries).map .dictionary
  | .name _ | .place | .spread _ | .foreign => .error .unreadable

/-- The values of the items of a list or a tuple. -/
def Expression.evaluateItems : List Expression → Except Fault (List Value)
  | [] => .ok []
  | item :: items =>
    match item.evaluate with
    | .error fault => .error fault
    | .ok value => (evaluateItems items).map (value :: ·)

/-- The values of the members of a set. -/
def Expression.evaluateMembers : List Expression → Except Fault (List Value)
  | [] => .ok []
  | member :: members =>
    match member.evaluate with
    | .error fault => .error fault
    | .ok value =>
      match value.unhashable? with
      | some kind => .error (.unhashable kind)
      | none => (evaluateMembers members).map (value :: ·)

/-- The values of the entries of a dictionary. -/
def Expression.evaluateEntries : List (Expression × Expression) →
    Except Fault (List (Value × Value))
  | [] => .ok []
  | (key, entry) :: entries =>
    match key.evaluate with
    | .error fault => .error fault
    | .ok keyValue =>
      match entry.evaluate with
      | .error fault => .error fault
      | .ok value =>
        match keyValue.unhashable? with
        | some kind => .error (.unhashable kind)
        | none => (evaluateEntries entries).map ((keyValue, value) :: ·)

end

/-- The value that a text writes, given how expressions are parsed. -/
def read (parse : List Char → Parsed) (s : List Char) : Except Fault Value :=
  match parse s with
  | .expression e => e.evaluate
  | .refused => .error .unreadable
  | .broken reason => .error (.broken reason)

end SymbolLookup.Literal

import SymbolLookup.Decimal
import SymbolLookup.Json.Reader
import SymbolLookup.Text.Word
/-!
# Tokens of the literal notation

The payload of a script shard is an expression of literals: texts, numbers, lists and the like.
This module cuts such an expression into tokens.

## Main definitions

* `Number`: the numbers that a literal can write.
* `Token`: names, numbers, texts, marks and line ends.
* `tokens?`: the tokens of a text, if it can be cut.

## Design notes

Inside brackets a line end separates like a blank; outside it ends the expression, so it is a
token there. Each character of a text is looked at a bounded number of times, and cutting recurses
on a bound for the number of tokens. An escape may write a character by its name; which names there
are is told by whoever has a text cut.
-/

namespace SymbolLookup.Literal

open Text

/-- The numbers that a literal can write. -/
inductive Number where
  /-- A whole number. -/
  | whole (value : Int)
  /-- A number with a point or an exponent. -/
  | real (value : Decimal)
  /-- A number with an imaginary part. -/
  | complex (real imaginary : Decimal)
  deriving DecidableEq, Repr

/-- A token. -/
inductive Token where
  /-- A name or a keyword. -/
  | name (text : String)
  | number (value : Number)
  /-- A text with its escapes resolved. -/
  | text (value : List Char)
  /-- A string of bytes. -/
  | bytes (value : List Nat)
  /-- A text with expressions in it, as it stands between its quotes; backslashes stand for
  themselves if it is `raw`. -/
  | template (raw : Bool) (body : List Char)
  /-- A bracket, a separator or an operator. -/
  | mark (text : String)
  /-- A line end outside brackets. -/
  | lineEnd
  deriving DecidableEq, Repr

/-! ### Numbers -/

/-- Whether a character may continue a name. -/
def continuesName (c : Char) : Bool := c.isAlphanum || c == '_' || 0x80 ≤ c.toNat

/-- Whether a character may begin a name. -/
def beginsName (c : Char) : Bool := continuesName c && !isDigit c

/-- Whether the text goes on with this whole word. -/
def beginsWithWord (word : String) (s : List Char) : Bool :=
  word.toList.isPrefixOf s && !(s.drop word.length).head?.any continuesName

/-- Whether a number may end before this text: no name follows, except the words that may stand
right behind a number. -/
def endsNumber (s : List Char) : Bool :=
  !s.head?.any continuesName || ["and", "else", "for", "or", "not"].any (beginsWithWord · s) ||
    ["if", "in", "is"].any fun word => word.toList.isPrefixOf s

/-- The digits of a class at the start of a text, with single underscores between them, and what
follows; nothing if an underscore is misplaced or no digit is there. -/
def takeGroups (isDigit : Char → Bool) (s : List Char) : Option (List Char × List Char) :=
  let (run, rest) := s.span fun c => isDigit c || c == '_'
  if run.isEmpty || !wellSpaced run then none else some (run.filter isDigit, rest)

/-- Whether a character is a decimal digit of the basic alphabet. -/
def isBasicDigit (c : Char) : Bool := '0' ≤ c && c ≤ '9'

/-- A whole number after the letter that tells its base, two, eight or sixteen. -/
def takeBased (base : Nat) (s : List Char) : Option (Number × List Char) :=
  let isDigit (c : Char) : Bool := (hexDigit? c).any (· < base)
  match takeGroups isDigit s with
  | none => none
  | some (digits, rest) =>
    if endsNumber rest then
      let value := digits.foldl (fun n c => base * n + (hexDigit? c).getD 0) 0
      some (.whole value, rest)
    else none

/-- The fraction after a whole part: `none` where its digits are misplaced, else its digits, unless
there is no point, and what follows. -/
def takePoint : List Char → Option (Option (List Char) × List Char)
  | '.' :: c :: s =>
    if isBasicDigit c then (takeGroups isBasicDigit (c :: s)).map fun r => (some r.1, r.2)
    else some (some [], c :: s)
  | ['.'] => some (some [], [])
  | s => some (none, s)

/-- The exponent after a whole part and a fraction: `none` where its digits are misplaced. -/
def takePower (s : List Char) : Option (Option Int × List Char) :=
  match s with
  | e :: rest =>
    if (e = 'e' ∨ e = 'E') ∧ !endsNumber s then
      let (sign, body) := takeSign rest
      if body.head?.any isBasicDigit then
        (takeGroups isBasicDigit body).map fun r =>
          (some (sign * ofDigits (r.1.filterMap digit?)), r.2)
      else none
    else some (none, s)
  | [] => some (none, [])

/-- The number at the start of a text, which is a digit or a point before a digit. -/
def takeNumber (s : List Char) : Option (Number × List Char) :=
  match s with
  | '0' :: 'x' :: rest | '0' :: 'X' :: rest => takeBased 16 rest
  | '0' :: 'o' :: rest | '0' :: 'O' :: rest => takeBased 8 rest
  | '0' :: 'b' :: rest | '0' :: 'B' :: rest => takeBased 2 rest
  | _ => do
    let (digits, rest) ← if s.head? = some '.' then some ([], s) else takeGroups isBasicDigit s
    let (fraction, rest) ← takePoint rest
    let (power, rest) ← takePower rest
    let value : Decimal :=
      { digits := ofDigits ((digits ++ fraction.getD []).filterMap digit?)
        exponent := power.getD 0 - (fraction.getD []).length }
    match rest with
    | 'j' :: rest | 'J' :: rest =>
      if endsNumber rest then some (.complex { digits := 0 } value, rest) else none
    | rest =>
      if !endsNumber rest then none
      else if fraction.isSome ∨ power.isSome then some (.real value, rest)
      else if digits.head? = some '0' ∧ digits.any (· ≠ '0') then none
      else
        match ofDigits? (digits.filterMap digit?) with
        | .ok n => some (.whole n, rest)
        | .error _ => none

/-! ### Texts -/

/-- How a quoted token is to be read, from the letters before its quote. -/
structure Quoting where
  /-- Backslashes stand for themselves. -/
  raw : Bool := false
  /-- The token writes bytes. -/
  bytes : Bool := false
  /-- The token may hold expressions. -/
  template : Bool := false

/-- The reading that some letters before a quote ask for. -/
def Quoting.ofLetters? (letters : List Char) : Option Quoting :=
  match letters.map Char.toLower with
  | [] | ['u'] => some {}
  | ['r'] => some { raw := true }
  | ['b'] => some { bytes := true }
  | ['b', 'r'] | ['r', 'b'] => some { raw := true, bytes := true }
  | ['f'] => some { template := true }
  | ['f', 'r'] | ['r', 'f'] => some { raw := true, template := true }
  | _ => none

/-- What stands before the closing quote of a text on one line, backslashes with the character
behind them, and what follows the quote. -/
def takeShort (quote : Char) : List Char → Option (List Char × List Char)
  | [] | '\n' :: _ | ['\\'] => none
  | '\\' :: c :: s => (takeShort quote s).map fun r => ('\\' :: c :: r.1, r.2)
  | c :: s => if c = quote then some ([], s) else (takeShort quote s).map fun r => (c :: r.1, r.2)

/-- The same for a text between tripled quotes. -/
def takeLong (quote : Char) : List Char → Option (List Char × List Char)
  | [] | ['\\'] => none
  | '\\' :: c :: s => (takeLong quote s).map fun r => ('\\' :: c :: r.1, r.2)
  | c :: s =>
    if c = quote ∧ s.take 2 = [quote, quote] then some ([], s.drop 2)
    else (takeLong quote s).map fun r => (c :: r.1, r.2)

/-- The name of a character between braces, at the start of a text. -/
def takeName? : List Char → Option (List Char)
  | '{' :: c :: s => if c ≠ '}' ∧ '}' ∈ s then some (c :: s.takeWhile (· ≠ '}')) else none
  | _ => none

section Escapes

variable (named : String → Option Char)

/-- What an escape stands for, given the text after the backslash, and how many characters it
takes; nothing for an escape that is incomplete or out of range, or names no character. -/
def escape? (bytes : Bool) (s : List Char) : Option (List Nat × Nat) :=
  let hex (width : Nat) : Option (List Nat × Nat) :=
    let digits := (s.drop 1).take width
    if digits.length = width ∧ digits.all fun c => (hexDigit? c).isSome then
      let n := ofHexDigits digits
      if n ≤ 0x10FFFF then some ([n], width + 1) else none
    else none
  let octal := (s.take 3).takeWhile fun c => '0' ≤ c && c ≤ '7'
  match s with
  | [] => none
  | '\n' :: _ => some ([], 1)
  | 'a' :: _ => some ([0x07], 1)
  | 'b' :: _ => some ([0x08], 1)
  | 'f' :: _ => some ([0x0C], 1)
  | 'n' :: _ => some ([0x0A], 1)
  | 'r' :: _ => some ([0x0D], 1)
  | 't' :: _ => some ([0x09], 1)
  | 'v' :: _ => some ([0x0B], 1)
  | 'x' :: _ => hex 2
  | c :: rest =>
    if c = '\\' ∨ c = '\'' ∨ c = '"' then some ([c.toNat], 1)
    else if octal ≠ [] then
      let n := ofHexDigits octal
      let value := n / 256 * 64 + n / 16 % 16 * 8 + n % 16
      some ([if bytes then value % 256 else value], octal.length)
    else if bytes then some ([0x5C, c.toNat], 1)
    else if c = 'u' then hex 4
    else if c = 'U' then hex 8
    else if c = 'N' then do
      let name ← takeName? rest
      let found ← named (String.ofList name)
      some ([found.toNat], name.length + 3)
    else some ([0x5C, c.toNat], 1)

/-- The code points of a quoted text with its escapes resolved, after passing over `skip`
characters of an escape already resolved. -/
def resolveFrom (bytes : Bool) : (skip : Nat) → List Char → Option (List Nat)
  | _, [] => some []
  | skip + 1, _ :: s => resolveFrom bytes skip s
  | 0, '\\' :: s =>
    match escape? named bytes s with
    | none => none
    | some (image, taken) => (resolveFrom bytes taken s).map (image ++ ·)
  | 0, c :: s => (resolveFrom bytes 0 s).map (c.toNat :: ·)

/-- The token of a quoted text. -/
def Quoting.token? (quoting : Quoting) (body : List Char) : Option Token :=
  let resolved :=
    if quoting.raw then some (body.map Char.toNat) else resolveFrom named quoting.bytes 0 body
  if quoting.template then some (.template quoting.raw body)
  else if quoting.bytes then
    if body.all (·.toNat < 0x80) then resolved.map .bytes else none
  else resolved.map fun codes => .text (codes.map Json.ofCodeUnit)

/-- The token that begins with a quote, and what follows it. -/
def Quoting.take (quoting : Quoting) (s : List Char) : Option (Token × List Char) := do
  let quote ← s.head?
  let (body, rest) ←
    if s.take 3 = [quote, quote, quote] then takeLong quote (s.drop 3)
    else takeShort quote (s.drop 1)
  let token ← quoting.token? named body
  some (token, rest)

end Escapes

/-! ### Marks -/

/-- The marks of more than one character, the longest ones first. -/
def longMarks : List String :=
  ["**=", "//=", ">>=", "<<=", "...", "**", "//", ">>", "<<", "<=", ">=", "==", "!=", "->", ":=",
    "+=", "-=", "*=", "/=", "%=", "&=", "|=", "^=", "@=", "<>"]

/-- The marks of one character. -/
def shortMarks : List Char := "()[]\x7b\x7d,:;.@=+-*/%&|^~<>".toList

/-- The mark at the start of a text. -/
def takeMark (s : List Char) : Option (String × List Char) :=
  match longMarks.find? fun mark => mark.toList.isPrefixOf s with
  | some mark => some (mark, s.drop mark.length)
  | none =>
    match s with
    | c :: rest => if shortMarks.contains c then some (c.toString, rest) else none
    | [] => none

/-- The most brackets that may be open at a time. -/
def bracketLimit : Nat := 200

/-- The brackets that are open after a mark. -/
def nesting (depth : Nat) (mark : String) : Nat :=
  if ["(", "[", "\x7b"].contains mark then depth + 1
  else if [")", "]", "\x7d"].contains mark then depth - 1
  else depth

/-! ### The whole text -/

/-- Whether some letters make a name: those beyond the basic ones have to be letters of
identifiers. -/
def isName : List Char → Bool
  | [] => false
  | c :: s => (c.toNat < 0x80 || beginsIdentifier c) &&
    s.all fun c => c.toNat < 0x80 || continuesIdentifier c

section Tokens

variable (named : String → Option Char)

/-- The tokens of a text inside `depth` brackets, at most `bound` steps of them. -/
def tokensFrom : (bound depth : Nat) → List Char → Option (List Token)
  | 0, _, _ => none
  | _, _, [] => some []
  | bound + 1, depth, c :: s =>
    if c = ' ' ∨ c = '\t' ∨ c = '\x0c' then tokensFrom bound depth s
    else if c = '\n' then
      if depth = 0 then (tokensFrom bound depth s).map (.lineEnd :: ·) else tokensFrom bound depth s
    else if c = '#' then tokensFrom bound depth (s.dropWhile (· ≠ '\n'))
    else if c = '\\' then
      match s with
      | '\n' :: d :: s => tokensFrom bound depth (d :: s)
      | _ => none
    else if isBasicDigit c ∨ (c = '.' ∧ s.head?.any isBasicDigit) then do
      let (value, rest) ← takeNumber (c :: s)
      (tokensFrom bound depth rest).map (.number value :: ·)
    else
      let (letters, rest) := (c :: s).span continuesName
      if rest.head? = some '"' ∨ rest.head? = some '\'' then
        match Quoting.ofLetters? letters with
        | some quoting => do
          let (token, rest) ← quoting.take named rest
          (tokensFrom bound depth rest).map (token :: ·)
        | none => (tokensFrom bound depth rest).map (.name (String.ofList letters) :: ·)
      else if beginsName c then
        if isName letters then
          (tokensFrom bound depth rest).map (.name (String.ofList letters) :: ·)
        else none
      else do
        let (mark, rest) ← takeMark (c :: s)
        if bracketLimit < nesting depth mark then none
        else (tokensFrom bound (nesting depth mark) rest).map (.mark mark :: ·)

/-- Whether the first line that holds more than a comment begins with a blank. -/
def beginsIndented (s : List Char) : Bool :=
  let isSpace (c : Char) : Bool := c == ' ' || c == '\t' || c == '\x0c'
  let holdsTokens (line : List Char) : Bool :=
    !((line.dropWhile isSpace).head?.all (· == '#'))
  match (s.splitOn '\n').find? holdsTokens with
  | none => false
  | some line => line.head?.any fun c => c == ' ' || c == '\t'

/-- The tokens of a text, without the ends of empty lines at its start; none if something in it is
no token. -/
def tokens? (s : List Char) : Option (List Token) :=
  if s.contains '\x00' || beginsIndented s then none
  else (tokensFrom named (s.length + 1) 0 s).map (·.dropWhile (· == .lineEnd))

end Tokens

end SymbolLookup.Literal

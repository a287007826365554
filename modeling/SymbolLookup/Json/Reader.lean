import SymbolLookup.Json.Basic
import SymbolLookup.Text.LoneHalf
import SymbolLookup.Text.Numeral
import SymbolLookup.Text.Reference
/-!
# Reading JSON

A reader for JSON texts that says what was expected and where.

## Main definitions

* `Json.Complaint`: what is wrong at a place of a text.
* `Json.Fault`: why a text is not read, with the place counted in lines, columns and characters.
* `Json.read`: the value of a whole text.

## Design notes

While it reads, the reader knows a place by the number of characters from there to the end of the
text, which is the length of what it has still to read; `Json.Fault.at` turns that into a line and
a column at the end. The words `NaN`, `Infinity` and `-Infinity` are read as numbers. Reading
recurses on a bound for the number of nested calls, of which each one or two take a character. How
deep lists and objects may be nested is a matter of the interpreter that the reader runs in.
-/

namespace SymbolLookup.Json

open Text

/-- What is wrong at a place of a text. -/
inductive Complaint where
  /-- No value begins here. -/
  | noValue
  /-- The text goes on after its value. -/
  | extraText
  /-- Neither a comma nor the closing bracket stands here. -/
  | noComma
  /-- No colon follows the name of a field. -/
  | noColon
  /-- No field begins here. -/
  | noName
  /-- The text that begins here has no closing quote. -/
  | unclosedText
  /-- A control character stands in a text. -/
  | controlCharacter
  /-- A backslash is followed by no letter of an escape. -/
  | badEscape
  /-- A `u` is not followed by four hexadecimal digits. -/
  | badCodeUnit
  /-- The text begins with a byte order mark. -/
  | byteOrderMark
  deriving DecidableEq, Repr

/-- The wording of a complaint. -/
def Complaint.message : Complaint → String
  | .noValue => "Expecting value"
  | .extraText => "Extra data"
  | .noComma => "Expecting ',' delimiter"
  | .noColon => "Expecting ':' delimiter"
  | .noName => "Expecting property name enclosed in double quotes"
  | .unclosedText => "Unterminated string starting at"
  | .controlCharacter => "Invalid control character at"
  | .badEscape => "Invalid \\escape"
  | .badCodeUnit => "Invalid \\uXXXX escape"
  | .byteOrderMark => "Unexpected UTF-8 BOM (decode using utf-8-sig)"

/-- What stops the reader: a complaint at the place from which `remaining` characters are left, or
a numeral that is too long. -/
inductive Flaw where
  /-- A complaint about the text. -/
  | complaint (what : Complaint) (remaining : Nat)
  /-- A numeral that is not read. -/
  | numeral (fault : NumeralFault)
  /-- A value of this kind that is nested too deep. -/
  | tooDeep (kind : String)

/-- Why a text is not read. -/
inductive Fault where
  /-- A complaint about the place `offset` characters from the start, at `line` and `column`, which
  are counted from one. -/
  | malformed (what : Complaint) (line column offset : Nat)
  /-- A numeral that is not read. -/
  | numeral (fault : NumeralFault)
  /-- A value of this kind is nested too deep. -/
  | tooDeep (kind : String)
  deriving DecidableEq, Repr

/-- The message of a text that is not read. -/
def Fault.message : Fault → String
  | .malformed what line column offset =>
    what.message ++ ": line " ++ toString line ++ " column " ++ toString column ++ " (char " ++
      toString offset ++ ")"
  | .numeral fault => fault.message
  | .tooDeep kind =>
    "maximum recursion depth exceeded while decoding a JSON " ++ kind ++ " from a unicode string"

/-- The fault of a text with a flaw. -/
def Flaw.at (text : List Char) : Flaw → Fault
  | .numeral fault => .numeral fault
  | .tooDeep kind => .tooDeep kind
  | .complaint what remaining =>
    let before := text.take (text.length - remaining)
    let lineStart := before.reverse.takeWhile (· ≠ '\n')
    .malformed what (before.count '\n' + 1) (lineStart.length + 1) before.length

/-- The result of reading some of a text: a value and what follows it. -/
abbrev Reading (α : Type) := Except Flaw (α × List Char)

/-- Stops before the text `s`. -/
def complain (what : Complaint) (s : List Char) : Except Flaw α :=
  .error (.complaint what s.length)

/-- The characters that may stand between the parts of a value. -/
def isGap (c : Char) : Bool := c == ' ' || c == '\t' || c == '\n' || c == '\r'

/-- A text without the gap at its start. -/
def skipGap (s : List Char) : List Char := s.dropWhile isGap

/-- The character that a letter stands for after a backslash. -/
def escapeImage? : Char → Option Char
  | '"' => some '"'
  | '\\' => some '\\'
  | '/' => some '/'
  | 'b' => some '\x08'
  | 'f' => some '\x0c'
  | 'n' => some '\n'
  | 'r' => some '\r'
  | 't' => some '\t'
  | _ => none

/-- The code unit that four hexadecimal digits write. -/
def codeUnit? (a b c d : Char) : Option Nat :=
  if [a, b, c, d].all fun digit => (hexDigit? digit).isSome then some (ofHexDigits [a, b, c, d])
  else none

/-- Whether a code unit is the first half of a pair. -/
def isHighHalf (n : Nat) : Bool := 0xD800 ≤ n && n < 0xDC00

/-- Whether a code unit is the second half of a pair. -/
def isLowHalf (n : Nat) : Bool := 0xDC00 ≤ n && n < 0xE000

/-- The character of a code unit; a half without the other has one that stands for it. -/
def ofCodeUnit (n : Nat) : Char :=
  if isHighHalf n || isLowHalf n then loneHalf n else Char.ofNat n

/-- The character of two halves. -/
def ofHalves (high low : Nat) : Char :=
  Char.ofNat (0x10000 + (high - 0xD800) * 0x400 + (low - 0xDC00))

/-- The characters of a text up to its closing quote, after the ones in `before`, the last one
first. From the opening quote on, `opening` characters were left. -/
def readText (opening : Nat) : (before : List Char) → List Char → Reading (List Char)
  | _, [] => .error (.complaint .unclosedText opening)
  | before, '"' :: s => .ok (before.reverse, s)
  | _, ['\\'] => .error (.complaint .unclosedText opening)
  | before, '\\' :: 'u' :: a :: b :: c :: d :: s =>
    match codeUnit? a b c d, s with
    | none, _ | _, [] => complain .badCodeUnit ('u' :: a :: b :: c :: d :: s)
    | some high, '\\' :: 'u' :: a' :: b' :: c' :: d' :: e :: s' =>
      if isHighHalf high then
        match codeUnit? a' b' c' d' with
        | none => complain .badCodeUnit ('u' :: a' :: b' :: c' :: d' :: e :: s')
        | some low =>
          if isLowHalf low then readText opening (ofHalves high low :: before) (e :: s')
          else
            readText opening (ofCodeUnit high :: before)
              ('\\' :: 'u' :: a' :: b' :: c' :: d' :: e :: s')
      else
        readText opening (ofCodeUnit high :: before)
          ('\\' :: 'u' :: a' :: b' :: c' :: d' :: e :: s')
    | some unit, s => readText opening (ofCodeUnit unit :: before) s
  | _, '\\' :: 'u' :: s => complain .badCodeUnit ('u' :: s)
  | before, '\\' :: c :: s =>
    match escapeImage? c with
    | some image => readText opening (image :: before) s
    | none => complain .badEscape ('\\' :: c :: s)
  | before, c :: s =>
    if c.toNat < 0x20 then complain .controlCharacter (c :: s)
    else readText opening (c :: before) s
termination_by _ s => s.length

/-- The digits at the start of a text and what follows them. -/
def spanDigits (s : List Char) : List Char × List Char := s.span fun c => '0' ≤ c && c ≤ '9'

/-- The digits of a fraction and what follows; nothing is taken where no digit follows the point. -/
def takeFraction : List Char → List Char × List Char
  | '.' :: s =>
    let (digits, rest) := spanDigits s
    if digits.isEmpty then ([], '.' :: s) else (digits, rest)
  | s => ([], s)

/-- The exponent after an `e` and what follows; nothing is taken where its digits are missing. -/
def takeExponent : List Char → Option Int × List Char
  | [] => (none, [])
  | e :: s =>
    let (sign, body) := takeSign s
    let (digits, rest) := spanDigits body
    if (e = 'e' ∨ e = 'E') ∧ digits ≠ [] then
      (some (sign * ofDigits (digits.filterMap digit?)), rest)
    else (none, e :: s)

/-- The number at the start of a text. -/
def readNumber (text : List Char) : Reading Json :=
  let negative := text.head? = some '-'
  let (digits, rest) :=
    match if negative then text.tail else text with
    | '0' :: s => (['0'], s)
    | s => spanDigits s
  let (fraction, rest) := takeFraction rest
  let (exponent, rest) := takeExponent rest
  if digits.isEmpty then complain .noValue text
  else if fraction.isEmpty && exponent.isNone then
    match ofDigits? (digits.filterMap digit?) with
    | .error fault => .error (.numeral fault)
    | .ok n => .ok (.integer (if negative then -n else n), rest)
  else
    let value : Decimal :=
      { negative
        digits := ofDigits ((digits ++ fraction).filterMap digit?)
        exponent := exponent.getD 0 - fraction.length }
    .ok (.decimal value, rest)

mutual

/-- The value at the start of a text; lists and objects may be nested `nesting` deep. -/
def readValue : (depth nesting : Nat) → List Char → Reading Json
  | 0, _, s => complain .noValue s
  | depth + 1, nesting, s =>
    match s with
    | '"' :: rest => (readText s.length [] rest).map fun r => (.text (String.ofList r.1), r.2)
    | '{' :: rest =>
      match nesting with
      | 0 => .error (.tooDeep "object")
      | nesting + 1 =>
        match skipGap rest with
        | '}' :: rest => .ok (.object [], rest)
        | rest => (readFields depth nesting [] rest).map fun r => (.object r.1, r.2)
    | '[' :: rest =>
      match nesting with
      | 0 => .error (.tooDeep "array")
      | nesting + 1 =>
        match skipGap rest with
        | ']' :: rest => .ok (.list [], rest)
        | rest => (readItems depth nesting rest).map fun r => (.list r.1, r.2)
    | 'n' :: 'u' :: 'l' :: 'l' :: rest => .ok (.null, rest)
    | 't' :: 'r' :: 'u' :: 'e' :: rest => .ok (.bool true, rest)
    | 'f' :: 'a' :: 'l' :: 's' :: 'e' :: rest => .ok (.bool false, rest)
    | 'N' :: 'a' :: 'N' :: rest => .ok (.notANumber, rest)
    | 'I' :: 'n' :: 'f' :: 'i' :: 'n' :: 'i' :: 't' :: 'y' :: rest => .ok (.infinity false, rest)
    | '-' :: 'I' :: 'n' :: 'f' :: 'i' :: 'n' :: 'i' :: 't' :: 'y' :: rest =>
      .ok (.infinity true, rest)
    | s => readNumber s

/-- The items of a list up to its closing bracket. -/
def readItems : (depth nesting : Nat) → List Char → Reading (List Json)
  | 0, _, s => complain .noValue s
  | depth + 1, nesting, s =>
    match readValue depth nesting s with
    | .error flaw => .error flaw
    | .ok (item, rest) =>
      match skipGap rest with
      | ']' :: rest => .ok ([item], rest)
      | ',' :: rest => (readItems depth nesting (skipGap rest)).map fun r => (item :: r.1, r.2)
      | rest => complain .noComma rest

/-- The fields of an object up to its closing brace, after the ones in `before`. -/
def readFields : (depth nesting : Nat) → (before : List (String × Json)) → List Char →
    Reading (List (String × Json))
  | 0, _, _, s => complain .noName s
  | depth + 1, nesting, before, s =>
    match s with
    | '"' :: rest =>
      match readText s.length [] rest with
      | .error flaw => .error flaw
      | .ok (name, rest) =>
        match skipGap rest with
        | ':' :: rest =>
          match readValue depth nesting (skipGap rest) with
          | .error flaw => .error flaw
          | .ok (value, rest) =>
            let fields := Keyed.put (String.ofList name) value before
            match skipGap rest with
            | '}' :: rest => .ok (fields, rest)
            | ',' :: rest => readFields depth nesting fields (skipGap rest)
            | rest => complain .noComma rest
        | rest => complain .noColon rest
    | s => complain .noName s

end

/-- The value that a whole text writes, with gaps around it. -/
def readChars (nesting : Nat) (s : List Char) : Except Flaw Json :=
  if s.head? = some '\uFEFF' then complain .byteOrderMark s
  else
    match readValue (2 * s.length + 2) nesting (skipGap s) with
    | .error flaw => .error flaw
    | .ok (value, rest) =>
      match skipGap rest with
      | [] => .ok value
      | rest => complain .extraText rest

/-- How deep values may be nested where nothing else is said: what a common interpreter allows, less
some levels for the calls that the program itself is in. -/
def defaultNesting : Nat := 980

theorem four_le_defaultNesting : 4 ≤ defaultNesting := by decide

/-- The value that a text writes, or what is wrong with it and where. -/
def read (text : String) (nesting : Nat := defaultNesting) : Except Fault Json :=
  match readChars nesting text.toList with
  | .ok value => .ok value
  | .error flaw => .error (flaw.at text.toList)

end SymbolLookup.Json

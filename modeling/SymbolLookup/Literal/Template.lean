import SymbolLookup.Literal.Token
/-!
# Templates

Texts with expressions in them, between braces.

## Main definitions

* `takePlain`: what stands before the next expression of a template.
* `takeSource`: the text of an expression, up to the mark that ends it.
* `sources?`: the texts of all expressions of a template, if it is one.

## Design notes

Where an expression ends is seen without parsing it: at a mark that is neither in a bracket nor in a
text of its own. Behind the expression may be told how its value is shown, and that is once more a
template; in such an inner one braces are not doubled, and it holds no further inner ones with
expressions.
-/

namespace SymbolLookup.Literal

/-- What stands before the next expression of a template, and what follows it. Braces are doubled
unless the template is an inner one, which a closing brace ends. A backslash before a brace stands
for itself, except before the name of a character, inside which `naming` tells to be. -/
def takePlain (raw inner : Bool) : (naming : Bool) → List Char → Option (List Char × List Char)
  | _, [] => some ([], [])
  | true, c :: s => (takePlain raw inner (c != '}') s).map fun r => (c :: r.1, r.2)
  | false, [c] =>
    if c = '{' ∨ c = '}' ∧ inner then some ([], [c])
    else if c = '}' then none
    else some ([c], [])
  | false, c :: d :: s =>
    let isBrace (c : Char) : Bool := c == '{' || c == '}'
    if c = '\\' ∧ !raw then
      if isBrace d then takePlain raw inner false (d :: s)
      else if d = 'N' ∧ s.head? = some '{' then
        (takePlain raw inner true s).map fun r => ('\\' :: 'N' :: r.1, r.2)
      else (takePlain raw inner false s).map fun r => ('\\' :: d :: r.1, r.2)
    else if isBrace c then
      if !inner ∧ c = d then (takePlain raw inner false s).map fun r => (c :: r.1, r.2)
      else if c = '{' ∨ inner then some ([], c :: d :: s)
      else none
    else (takePlain raw inner false (d :: s)).map fun r => (c :: r.1, r.2)

/-- Whether one bracket closes another. -/
def closes (opening closing : Char) : Bool :=
  [('(', ')'), ('[', ']'), ('{', '}')].contains (opening, closing)

/-- The text of an expression up to the mark that ends it, and that mark with what follows. The
first `skip` characters are taken as they are; `quote` tells the quotes of a text that was begun,
and whether they are tripled, and `opened` the brackets, the last one first. -/
def takeSource : (skip : Nat) → (quote : Option (Char × Bool)) → (opened : List Char) →
    List Char → Option (List Char × List Char)
  | _, _, _, [] => none
  | skip + 1, quote, opened, c :: s =>
    (takeSource skip quote opened s).map fun r => (c :: r.1, r.2)
  | 0, some (mark, tripled), opened, c :: s =>
    let isEnd := c = mark ∧ (tripled → s.take 2 = [mark, mark])
    if c = '\\' then none
    else
      (if isEnd then takeSource (if tripled then 2 else 0) none opened s
        else takeSource 0 (some (mark, tripled)) opened s).map fun r => (c :: r.1, r.2)
  | 0, none, opened, c :: s =>
    if c = '\\' ∨ c = '#' then none
    else if c = '\'' ∨ c = '"' then
      let tripled := s.take 2 = [c, c]
      (takeSource (if tripled then 2 else 0) (some (c, tripled)) opened s).map
        fun r => (c :: r.1, r.2)
    else if c = '(' ∨ c = '[' ∨ c = '{' then
      if opened.length < bracketLimit then
        (takeSource 0 none (c :: opened) s).map fun r => (c :: r.1, r.2)
      else none
    else
      match opened with
      | [] =>
        if s.head? = some '=' ∧ ['!', '=', '<', '>'].contains c then
          (takeSource 1 none [] s).map fun r => (c :: r.1, r.2)
        else if ['!', ':', '}', '='].contains c then some ([], c :: s)
        else if c = ')' ∨ c = ']' then none
        else (takeSource 0 none [] s).map fun r => (c :: r.1, r.2)
      | last :: others =>
        if c = ')' ∨ c = ']' ∨ c = '}' then
          if closes last c then (takeSource 0 none others s).map fun r => (c :: r.1, r.2) else none
        else (takeSource 0 none opened s).map fun r => (c :: r.1, r.2)

/-- The blanks that count for nothing between the tokens of an expression. -/
def isGap (c : Char) : Bool := c == ' ' || c == '\t' || c == '\n' || c == '\x0c'

/-- What follows the marks behind an expression that ask for its text or for a form of its value. -/
def afterForm? (s : List Char) : Option (List Char) :=
  let isSpace (c : Char) : Bool := isGap c || c == '\r' || c == '\x0b'
  let rest := if s.head? = some '=' then s.tail.dropWhile isSpace else s
  match rest with
  | '!' :: c :: rest => if ['s', 'r', 'a'].contains c then some rest else none
  | ['!'] => none
  | rest => some rest

section Templates

variable (named : String → Option Char)

/-- The texts of the expressions in what is left of a template, and what follows an inner template;
`level` tells how deep it is nested. -/
def sourcesFrom (raw : Bool) : (bound level : Nat) → List Char →
    Option (List (List Char) × List Char)
  | 0, _, _ => none
  | bound + 1, level, s => do
    let (plain, rest) ← takePlain raw (level != 0) false s
    if !raw ∧ (resolveFrom named false 0 plain).isNone then none
    else
      match rest with
      | '{' :: rest =>
        if 2 ≤ level then none
        else
          let (source, rest) ← takeSource 0 none [] rest
          if source.all isGap then none
          else
            match ← afterForm? rest with
            | ':' :: rest => do
              let (inner, rest) ← sourcesFrom raw bound (level + 1) rest
              match rest with
              | '}' :: rest =>
                let (others, rest) ← sourcesFrom raw bound level rest
                some (source :: inner ++ others, rest)
              | _ => none
            | '}' :: rest =>
              let (others, rest) ← sourcesFrom raw bound level rest
              some (source :: others, rest)
            | _ => none
      | rest => some ([], rest)

/-- The texts of the expressions in a template, from what stands between its quotes; nothing if that
is no template. -/
def sources? (raw : Bool) (body : List Char) : Option (List (List Char)) :=
  match sourcesFrom named raw (body.length + 1) 0 body with
  | some (sources, []) => some sources
  | _ => none

end Templates

end SymbolLookup.Literal

/-!
# UTF-8

Reading bytes as UTF-8, also where they are broken.

## Main definitions

* `Piece`: a character, or a longest stretch of bytes that begins a character and ends too early.
* `pieces`: some bytes cut into pieces.
* `decode?`: a text, if no piece is broken.
* `decodeLossy`: a text with the replacement character for each broken piece.
* `joinLines`: a text with every kind of line end made a line feed.
-/

namespace SymbolLookup.Text.Utf8

/-- What decoding finds. -/
inductive Piece where
  /-- A character. -/
  | char (c : Char)
  /-- Bytes that belong to no character: a proper start of one, or one byte that starts none. -/
  | broken (bytes : List UInt8)

/-- A character whose first bytes were read. -/
structure Partial where
  /-- The bytes read, the last one first. -/
  seen : List UInt8
  /-- The number that their payload writes. -/
  value : Nat
  /-- The least and the greatest byte that may stand at each place that follows. -/
  expected : List (Nat × Nat)

/-- The bytes that continue a character. -/
def tail : Nat × Nat := (0x80, 0xBF)

/-- What the first byte of a character leaves to be read; nothing if it starts none. -/
def Partial.start? (b : UInt8) : Option Partial :=
  let n := b.toNat
  if n < 0x80 then some ⟨[b], n, []⟩
  else if 0xC2 ≤ n ∧ n ≤ 0xDF then some ⟨[b], n % 0x20, [tail]⟩
  else if n = 0xE0 then some ⟨[b], 0, [(0xA0, 0xBF), tail]⟩
  else if n = 0xED then some ⟨[b], n % 0x10, [(0x80, 0x9F), tail]⟩
  else if 0xE1 ≤ n ∧ n ≤ 0xEF then some ⟨[b], n % 0x10, [tail, tail]⟩
  else if n = 0xF0 then some ⟨[b], 0, [(0x90, 0xBF), tail, tail]⟩
  else if 0xF1 ≤ n ∧ n ≤ 0xF3 then some ⟨[b], n % 0x08, [tail, tail, tail]⟩
  else if n = 0xF4 then some ⟨[b], 4, [(0x80, 0x8F), tail, tail]⟩
  else none

/-- Reads one more byte of a character, if it may stand there. -/
def Partial.next? (p : Partial) (b : UInt8) : Option Partial :=
  match p.expected with
  | [] => none
  | range :: expected =>
    if range.1 ≤ b.toNat ∧ b.toNat ≤ range.2 then
      some ⟨b :: p.seen, p.value * 0x40 + b.toNat % 0x40, expected⟩
    else none

/-- The pieces of some bytes that follow the start of a character. -/
def piecesAfter : Option Partial → List UInt8 → List Piece
  | none, [] => []
  | some p, [] => [.broken p.seen.reverse]
  | before, b :: rest =>
    let continued := before.bind (·.next? b)
    let cut :=
      match before, continued with
      | some p, none => [Piece.broken p.seen.reverse]
      | _, _ => []
    match continued.or (Partial.start? b) with
    | none => cut ++ .broken [b] :: piecesAfter none rest
    | some p =>
      match p.expected with
      | [] => cut ++ .char (Char.ofNat p.value) :: piecesAfter none rest
      | _ => cut ++ piecesAfter (some p) rest

/-- Some bytes cut into characters and broken stretches. -/
def pieces (bytes : List UInt8) : List Piece := piecesAfter none bytes

/-- The text that some bytes write, if they are UTF-8 throughout. -/
def decode? (bytes : List UInt8) : Option (List Char) :=
  (pieces bytes).mapM fun
    | .char c => some c
    | .broken _ => none

/-- The text that some bytes write, with U+FFFD for each broken stretch. -/
def decodeLossy (bytes : List UInt8) : List Char :=
  (pieces bytes).map fun
    | .char c => c
    | .broken _ => '\uFFFD'

/-- The bytes of a text. -/
def encode (s : String) : List UInt8 := s.toUTF8.toList

/-- A text with every line end, one or two characters, made a line feed. -/
def joinLines : List Char → List Char
  | '\r' :: '\n' :: s => '\n' :: joinLines s
  | '\r' :: s => '\n' :: joinLines s
  | c :: s => c :: joinLines s
  | [] => []

end SymbolLookup.Text.Utf8

import SymbolLookup.Text.Table.Combining
import SymbolLookup.Text.Table.Decomposition
/-!
# Canonical composition

One spelling for texts that differ only in how accents and other marks are attached to their
letters: every character is taken apart as far as it goes, the marks on one letter are put into
their canonical order, and letters and marks are joined again where a single character exists.

## Main definitions

* `combiningClass`: zero for a character that starts a cluster, else the place of a mark.
* `decompose`, `reorder`, `compose`: the three stages.
* `canonical`: all three.

## Design notes

The stages work on code points. Below U+0300 no code point is a mark or the second half of a
composite, and below U+00C0 none is taken apart, so most texts never reach the tables.
-/

namespace SymbolLookup.Text

/-- The canonical combining class of a code point. -/
def combiningClass (c : Nat) : Nat :=
  if c < 0x300 then 0
  else
    match Table.combining.find? fun run => run.1 ≤ c && c ≤ run.2.1 with
    | some run => run.2.2
    | none => 0

/-- The composed Hangul syllables and the three kinds of letters that they are made of. -/
structure Jamo where
  /-- First syllable. -/
  syllable : Nat := 0xAC00
  /-- First leading consonant. -/
  lead : Nat := 0x1100
  /-- First vowel. -/
  vowel : Nat := 0x1161
  /-- The position before the first trailing consonant. -/
  trail : Nat := 0x11A7
  /-- How many leading consonants there are. -/
  leads : Nat := 19
  /-- How many vowels there are. -/
  vowels : Nat := 21
  /-- How many trailing consonants there are, none being one of them. -/
  trails : Nat := 28

/-- The Hangul letters and syllables. -/
def hangul : Jamo := {}

/-- How many syllables begin with one leading consonant. -/
def Jamo.perLead (j : Jamo) : Nat := j.vowels * j.trails

/-- The letters of a Hangul syllable. -/
def Jamo.letters? (j : Jamo) (c : Nat) : Option (List Nat) :=
  if j.syllable ≤ c ∧ c < j.syllable + j.leads * j.perLead then
    let place := c - j.syllable
    let front := [j.lead + place / j.perLead, j.vowel + place % j.perLead / j.trails]
    if place % j.trails = 0 then some front else some (front ++ [j.trail + place % j.trails])
  else none

/-- The Hangul syllable made of a leading consonant and a vowel, or of such a syllable and a
trailing consonant. -/
def Jamo.join? (j : Jamo) (a b : Nat) : Option Nat :=
  if j.lead ≤ a ∧ a < j.lead + j.leads ∧ j.vowel ≤ b ∧ b < j.vowel + j.vowels then
    some (j.syllable + (a - j.lead) * j.perLead + (b - j.vowel) * j.trails)
  else if j.syllable ≤ a ∧ a < j.syllable + j.leads * j.perLead ∧
      (a - j.syllable) % j.trails = 0 ∧ j.trail < b ∧ b < j.trail + j.trails then
    some (a + (b - j.trail))
  else none

/-- One step of decomposition from the tables. -/
def apart? (c : Nat) : Option (List Nat) :=
  match Table.singletons.find? fun row => row.1 == c with
  | some row => some [row.2]
  | none =>
    ((Table.composites.find? fun row => row.1 == c).or
      (Table.separated.find? fun row => row.1 == c)).map fun row => [row.2.1, row.2.2]

/-- A code point taken apart in at most `steps` steps. -/
def expand : (steps : Nat) → Nat → List Nat
  | 0, c => [c]
  | steps + 1, c =>
    match apart? c with
    | none => [c]
    | some parts => parts.flatMap (expand steps)

/-- How many steps the longest decomposition takes. -/
def longestDecomposition : Nat := 3

/-- A code point taken apart as far as it goes. -/
def decomposition (c : Nat) : List Nat :=
  if c < 0xC0 then [c]
  else (hangul.letters? c).getD (expand longestDecomposition c)

/-- A text with every code point taken apart. -/
def decompose (s : List Nat) : List Nat := s.flatMap decomposition

/-- Puts a code point before an ordered text: a mark moves behind the marks of smaller class. -/
def insertMark (c : Nat) : List Nat → List Nat
  | [] => [c]
  | d :: s =>
    if combiningClass d ≠ 0 ∧ combiningClass d < combiningClass c then d :: insertMark c s
    else c :: d :: s

/-- A text with the marks of each cluster in the order of their classes, equal ones as they
stood. -/
def reorder (s : List Nat) : List Nat := s.foldr insertMark []

/-- The code point that two are joined to. -/
def joined? (a b : Nat) : Option Nat :=
  if b < 0x300 then none
  else
    (hangul.join? a b).or <|
      (Table.composites.find? fun row => row.2.1 == a && row.2.2 == b).map (·.1)

/-- Joins the code points that follow `base` to it where they can be reached. The marks `held`
stand between, the last one first; a code point is reached when nothing stands between or when
its class is greater than that of the last one held. -/
def joinTo (base : Nat) (held : List Nat) : List Nat → List Nat
  | [] => base :: held.reverse
  | c :: s =>
    let reached := held.all fun mark => combiningClass mark < combiningClass c
    match if reached then joined? base c else none with
    | some whole => joinTo whole held s
    | none =>
      if combiningClass c = 0 then base :: held.reverse ++ joinTo c [] s
      else joinTo base (c :: held) s

/-- A text with all that can be joined to the start of its cluster joined. -/
def compose : List Nat → List Nat
  | [] => []
  | c :: s => if combiningClass c = 0 then joinTo c [] s else c :: compose s

/-- The canonical spelling of a text. -/
def canonical (s : List Char) : List Char :=
  (compose (reorder (decompose (s.map Char.toNat)))).map Char.ofNat

end SymbolLookup.Text

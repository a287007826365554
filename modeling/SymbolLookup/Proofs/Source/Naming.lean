import Mathlib.Data.Nat.Digits.Defs
import SymbolLookup.Proofs.Source.Stock
/-!
# Names of buckets

The name of a bucket tells its index and its ordinal again, and so the order of buckets tells all
names apart.

## Main definitions

* `BucketId.IsProper`: whether an id is one that a bucket can have.

## Main results

* `bucketName_inj`: no two buckets have one name.
* `BucketId.parse_bucketName`: the name of a bucket is read as its index and ordinal, if that has no
  more digits than are read.
* `bucketLe_name`: buckets stand in the order of their indexes and ordinals.
* `BucketId.told_by_name`: the names that are given tell their buckets, and only ordinals of too
  many digits are refused one.

## Design notes

An index may end in digits behind an underscore itself. A name is cut at the last underscore, and
numerals have none, so what is cut off is the ordinal and nothing else. No more digits are written
than are read, so there is no name that is not read again.
-/

namespace SymbolLookup

open Text

/-! ## Ordinals -/

/-- The digits of scripts that everyone reads have their usual values. -/
theorem Text.digit?_of_isDigit {c : Char} (h : c.isDigit = true) :
    digit? c = some (c.toNat - '0'.toNat) := by
  have first : (0x30 ≤ c.toNat && c.toNat ≤ 0x30 + 9) = true := by
    simpa [Char.isDigit, UInt32.le_iff_toNat_le] using h
  have zeros_eq : zeros = 0x30 :: zeros.tail := rfl
  rw [digit?, zeros_eq, List.find?_cons, first]
  rfl

theorem isDigit_of_mem_toDigits {n : Nat} {c : Char} (h : c ∈ Nat.toDigits 10 n) :
    isDigit c = true := by
  rw [isDigit, digit?_of_isDigit (Nat.isDigit_of_mem_toDigits (by decide) (by decide) h)]
  rfl

/-- The values of the digits of a number. -/
theorem Text.filterMap_digit?_toDigits (n : Nat) : (Nat.toDigits 10 n).filterMap digit? =
    (Nat.toDigits 10 n).map fun c => c.toNat - '0'.toNat := by
  rw [← List.filterMap_eq_map]
  refine List.filterMap_congr fun c hc => ?_
  exact digit?_of_isDigit (Nat.isDigit_of_mem_toDigits (by decide) (by decide) hc)

theorem Text.length_filterMap_digit?_toDigits (n : Nat) :
    ((Nat.toDigits 10 n).filterMap digit?).length = (Nat.toDigits 10 n).length := by
  rw [filterMap_digit?_toDigits, List.length_map]

/-- A number is read as it is written. -/
theorem Text.ofDigits_toDigits (n : Nat) :
    ofDigits ((Nat.toDigits 10 n).filterMap digit?) = n := by
  rw [filterMap_digit?_toDigits, ofDigits, List.foldl_map, ← Nat.ofDigitChars_eq_foldl]
  exact Nat.ofDigitChars_ten_toDigits

/-- The numbers that are read and written are those below a power of ten. -/
theorem length_toDigits_le_iff (n : Nat) :
    (Nat.toDigits 10 n).length ≤ digitLimit ↔ n < 10 ^ digitLimit :=
  Nat.length_toDigits_le_iff (by decide) (by decide)

theorem toList_bucketName (index : String) (n : Nat) :
    (bucketName index n).toList = index.toList ++ '_' :: Nat.toDigits 10 n := by
  have digits : toString (n : Int) = String.ofList (Nat.toDigits 10 n) :=
    Nat.toString_eq_ofList_toDigits
  rw [bucketName, digits, String.toList_append, String.toList_append, List.append_assoc,
    @String.toList_ofList (Nat.toDigits 10 n)]
  rfl

/-! ## Reading names -/

/-- A text is cut where the character stands that is not in the rest. -/
theorem splitAtLast?_append {c : Char} {tail : List Char} (h : c ∉ tail) (front : List Char) :
    splitAtLast? c (front ++ c :: tail) = some (front, tail) := by
  have other : ∀ d ∈ tail.reverse, decide (d ≠ c) = true := by
    intro d hd
    refine decide_eq_true fun he => h ?_
    rwa [← he, ← List.mem_reverse]
  have cut : ((front ++ c :: tail).reverse.takeWhile (· ≠ c)).reverse = tail := by
    rw [List.reverse_append, List.reverse_cons, List.append_assoc,
      List.takeWhile_append_of_pos other]
    simp
  have length : (front ++ c :: tail).length - tail.length - 1 = front.length := by
    rw [List.length_append, List.length_cons]
    omega
  have held : (front ++ c :: tail).contains c = true := by simp
  simp only [splitAtLast?, cut, length, held, if_true, List.take_left]

/-- The digits of a number are no line end. -/
theorem dropLineEnd_append_toDigits (front : List Char) (n : Nat) :
    dropLineEnd (front ++ Nat.toDigits 10 n) = front ++ Nat.toDigits 10 n := by
  rw [dropLineEnd, if_neg]
  rw [List.getLast?_append_of_ne_nil _ Nat.toDigits_ne_nil]
  intro he
  cases Nat.isDigit_of_mem_toDigits (by decide) (by decide) (List.mem_of_getLast? he)

/-- The name of a bucket is cut into its index and the digits of its ordinal. -/
theorem splitAtLast?_bucketName (index : String) (n : Nat) :
    splitAtLast? '_' (dropLineEnd (bucketName index n).toList) =
      some (index.toList, Nat.toDigits 10 n) := by
  have parts : (bucketName index n).toList =
      (index.toList ++ ['_']) ++ Nat.toDigits 10 n := by
    rw [toList_bucketName, List.append_assoc, List.singleton_append]
  rw [parts, dropLineEnd_append_toDigits, ← parts, toList_bucketName]
  exact splitAtLast?_append Nat.underscore_not_in_toDigits _

/-- No two buckets have one name. -/
theorem bucketName_inj {index other : String} {n m : Nat}
    (h : bucketName index n = bucketName other m) : index = other ∧ n = m := by
  have parts := splitAtLast?_bucketName index n
  rw [h, splitAtLast?_bucketName, Option.some.injEq, Prod.mk.injEq] at parts
  refine ⟨String.toList_inj.1 parts.1.symm, ?_⟩
  rw [← ofDigits_toDigits n, ← parts.2, ofDigits_toDigits]

section Parsing

variable {index : String}

/-- The name of a bucket is taken apart into its index and the digits of its ordinal. -/
theorem bucketParts?_bucketName (named : index ≠ "") (line : '\n' ∉ index.toList) (n : Nat) :
    bucketParts? (bucketName index n) = some (index.toList, Nat.toDigits 10 n) := by
  have all : (Nat.toDigits 10 n).all isDigit = true :=
    List.all_eq_true.2 fun c hc => isDigit_of_mem_toDigits hc
  have proper : ¬(index.toList = [] ∨ index.toList.contains '\n' ∨ Nat.toDigits 10 n = [] ∨
      !(Nat.toDigits 10 n).all isDigit) := by
    simp only [all, List.contains_iff_mem]
    rintro (he | he | he | he)
    · exact named (String.toList_eq_nil_iff.1 he)
    · exact line he
    · exact Nat.toDigits_ne_nil he
    · cases he
  simp only [bucketParts?, splitAtLast?_bucketName, if_neg proper]

/-- The name of a bucket is read as its index and ordinal, unless that has more digits than are
read. -/
theorem BucketId.parse_bucketName (named : index ≠ "") (line : '\n' ∉ index.toList) (n : Nat) :
    parse (bucketName index n) =
      if (Nat.toDigits 10 n).length ≤ digitLimit then .ok ⟨index, n⟩
      else .error (.numeral (.tooLong (Nat.toDigits 10 n).length)) := by
  rw [parse, bucketParts?_bucketName named line]
  simp only [ofDigits?, length_filterMap_digit?_toDigits, ofDigits_toDigits, String.ofList_toList]
  by_cases short : (Nat.toDigits 10 n).length ≤ digitLimit
  · simp only [if_pos short]
  · simp only [if_neg short]

end Parsing

/-- Whether an id is one that a bucket can have: the index has a name of one line, and the ordinal
has no more digits than are ever written. -/
structure BucketId.IsProper (id : BucketId) : Prop where
  index : id.index ≠ ""
  line : '\n' ∉ id.index.toList
  digits : (Nat.toDigits 10 id.ordinal).length ≤ digitLimit

section Order

variable {id other : BucketId}

/-- The name of a proper id is read as that id. -/
theorem BucketId.parse_name (h : id.IsProper) : parse id.name = .ok id := by
  rw [name, parse_bucketName h.index h.line, if_pos h.digits]

/-- Buckets stand in the order of their indexes, and those of one index in that of their
ordinals. -/
theorem bucketOrder_name (h : id.IsProper) :
    bucketOrder id.name = (id.index, (id.ordinal : Int)) := by
  rw [bucketOrder, BucketId.parse_name h]

theorem bucketLe_name (h : id.IsProper) (ho : other.IsProper) :
    bucketLe id.name other.name = true ↔
      id.index < other.index ∨ id.index = other.index ∧ id.ordinal ≤ other.ordinal := by
  rw [bucketLe_iff, bucketOrder_name h, bucketOrder_name ho, Int.ofNat_le]

/-- The order of buckets tells all of them apart. -/
theorem eq_of_bucketLe (h : id.IsProper) (ho : other.IsProper)
    (first : bucketLe id.name other.name = true) (second : bucketLe other.name id.name = true) :
    id = other := by
  rw [bucketLe_name h ho] at first
  rw [bucketLe_name ho h] at second
  obtain first | ⟨index, first⟩ := first
  · obtain second | ⟨index, -⟩ := second
    · exact absurd second (String.lt_asymm first)
    · exact absurd (index ▸ first) (String.lt_irrefl _)
  · obtain second | ⟨-, second⟩ := second
    · exact absurd (index ▸ second) (String.lt_irrefl _)
    · obtain ⟨id, n⟩ := id
      obtain ⟨other, m⟩ := other
      cases (index : id = other)
      have ordinals : n = m := Nat.le_antisymm first second
      rw [ordinals]

end Order

/-! ## Giving names -/

section Giving

variable {index name : String} {n : Nat}

/-- A bucket is given its name unless its ordinal has more digits than are written. -/
theorem bucketName?_eq (index : String) (n : Nat) : bucketName? index (.integer n) =
    if (Nat.toDigits 10 n).length ≤ digitLimit then .ok (BucketId.name ⟨index, n⟩)
    else .error (.numeral .tooWide) := by
  simp only [bucketName?, Amount.toInt, Except.bind, writeInt, Int.natAbs_natCast]
  split <;> rfl

theorem bucketName?_eq_ok_iff : bucketName? index (.integer n) = .ok name ↔
    (Nat.toDigits 10 n).length ≤ digitLimit ∧ BucketId.name ⟨index, n⟩ = name := by
  rw [bucketName?_eq]
  split <;> simp [*]

/-- **Names tell their buckets.** A bucket is given a name if and only if its ordinal has no more
digits than are written, and is refused one for these digits otherwise. If its index has a name of
one line, the name of the bucket is read as that index and ordinal again. No other such bucket has
the same name, and the names of such buckets stand in the order of their indexes, those of one index
in that of their ordinals as numbers. -/
theorem BucketId.told_by_name (named : index ≠ "") (line : '\n' ∉ index.toList) (n : Nat) :
    ((∃ name, bucketName? index (.integer n) = .ok name) ↔ n < 10 ^ digitLimit) ∧
    (10 ^ digitLimit ≤ n → bucketName? index (.integer n) = .error (.numeral .tooWide)) ∧
    ∀ name, bucketName? index (.integer n) = .ok name →
      BucketId.parse name = .ok ⟨index, n⟩ ∧ bucketOrder name = (index, (n : Int)) ∧
      ∀ (other : String) (m : Nat) (text : String), other ≠ "" → '\n' ∉ other.toList →
        bucketName? other (.integer m) = .ok text →
          (name = text ↔ index = other ∧ n = m) ∧
          (bucketLe name text = true ↔ index < other ∨ index = other ∧ n ≤ m) := by
  refine ⟨?_, fun long => ?_, fun name hm => ?_⟩
  · simp only [bucketName?_eq_ok_iff, exists_and_left, exists_eq', and_true, length_toDigits_le_iff]
  · rw [bucketName?_eq, if_neg]
    rwa [length_toDigits_le_iff, Nat.not_lt]
  · obtain ⟨short, rfl⟩ := bucketName?_eq_ok_iff.1 hm
    have proper : (⟨index, n⟩ : BucketId).IsProper := ⟨named, line, short⟩
    refine ⟨BucketId.parse_name proper, bucketOrder_name proper, fun other m text ho hl hm => ?_⟩
    obtain ⟨brief, rfl⟩ := bucketName?_eq_ok_iff.1 hm
    refine ⟨⟨bucketName_inj, ?_⟩, bucketLe_name proper ⟨ho, hl, brief⟩⟩
    rintro ⟨rfl, rfl⟩
    rfl

/-- The name of a bucket whose index is named like a bucket itself, and that of the bucket before
it, with an ordinal of one digit less. -/
theorem BucketId.told_by_name_of_two :
    "symbols_1" ≠ "" ∧ '\n' ∉ "symbols_1".toList ∧
      bucketName? "symbols_1" (.integer 10) = .ok "symbols_1_10" ∧
      BucketId.parse "symbols_1_10" = .ok ⟨"symbols_1", 10⟩ ∧
      "symbols_1_9" ≠ "symbols_1_10" ∧
      bucketLe "symbols_1_9" "symbols_1_10" = true ∧
      bucketLe "symbols_1_10" "symbols_1_9" = false := by
  have named : "symbols_1" ≠ "" := by decide
  have line : '\n' ∉ "symbols_1".toList := by decide
  have tenth : bucketName? "symbols_1" (.integer (10 : Nat)) = .ok "symbols_1_10" := by decide
  have ninth : bucketName? "symbols_1" (.integer (9 : Nat)) = .ok "symbols_1_9" := by decide
  obtain ⟨parsed, -, later⟩ := (told_by_name named line 10).2.2 _ tenth
  obtain ⟨-, -, earlier⟩ := (told_by_name named line 9).2.2 _ ninth
  obtain ⟨equal, before⟩ := earlier _ 10 _ named line tenth
  obtain ⟨-, behind⟩ := later _ 9 _ named line ninth
  refine ⟨named, line, tenth, parsed, ?_, before.2 (.inr ⟨rfl, by decide⟩), ?_⟩
  · exact fun he => absurd (equal.1 he).2 (by decide)
  · rw [← Bool.not_eq_true, behind]
    decide

/-- An ordinal of one digit more than is written gives no name, and the text that would be the name
is not read. -/
theorem BucketId.not_told_by_name_of_long :
    "symbols" ≠ "" ∧ '\n' ∉ "symbols".toList ∧
      bucketName? "symbols" (.integer (10 ^ digitLimit : Nat)) = .error (.numeral .tooWide) ∧
      BucketId.parse (bucketName "symbols" (10 ^ digitLimit : Nat)) =
        .error (.numeral (.tooLong (digitLimit + 1))) := by
  have named : "symbols" ≠ "" := by decide
  have line : '\n' ∉ "symbols".toList := by decide
  have long : ¬(Nat.toDigits 10 (10 ^ digitLimit)).length ≤ digitLimit := by
    rw [length_toDigits_le_iff]
    exact Nat.lt_irrefl _
  have length : (Nat.toDigits 10 (10 ^ digitLimit)).length = digitLimit + 1 := by
    have most : (Nat.toDigits 10 (10 ^ digitLimit)).length ≤ digitLimit + 1 :=
      (Nat.length_toDigits_le_iff (by decide) (Nat.succ_pos _)).2
        (Nat.pow_lt_pow_right (by decide) (Nat.lt_succ_self _))
    omega
  refine ⟨named, line, ?_, ?_⟩
  · rw [bucketName?_eq, if_neg long]
  · rw [BucketId.parse_bucketName named line, if_neg long, length]

end Giving

end SymbolLookup

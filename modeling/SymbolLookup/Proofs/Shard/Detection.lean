import SymbolLookup.Proofs.Shard.Rereading
import SymbolLookup.Proofs.Text.Classes
/-!
# Telling data from scripts

The format of a document is told from how the document begins, before anything of it is read. No
document that can be read as data is ever taken for a script.

## Main definitions

* `Json.openings`, `Json.beginsValue`: whether a value may begin with a character.
* `BeginsAssignment`: how a script begins.

## Main results

* `Json.readValue_of_not_beginsValue`: the reader of data stops where no value begins.
* `Format.detect_eq_script_iff`: scripts are told by how they begin.
* `Json.read_of_beginsAssignment`: of a script the reader of data reads nothing.
* `Format.detects_data`: what it reads is told to be data, and so is all that is written.

## Design notes

The two readers pass over different characters at the start of a document: scripts may begin with
any blanks, data only with four of them. It is enough that no value begins with a blank or with the
`v` of `var`: wherever the reader of data begins in a script, it finds one of these.
-/

namespace SymbolLookup

open Text

/-! ## Where values begin -/

namespace Json

/-- The quote, bracket and brace that open values, the first letters of the words, and the minus. -/
def openings : List Char := ['"', '[', '{', 'n', 't', 'f', 'N', 'I', '-']

/-- Whether a value may begin with a character: one of the openings or a digit. -/
def beginsValue (c : Char) : Bool := openings.contains c || ('0' ≤ c && c ≤ '9')

variable {s : List Char}

theorem spanDigits_of_not_beginsValue (h : ∀ c, s.head? = some c → beginsValue c = false) :
    spanDigits s = ([], s) := by
  cases s with
  | nil => rfl
  | cons c s =>
    have digit := (Bool.or_eq_false_iff.1 (h c rfl)).2
    simp [spanDigits, List.span_eq_takeWhile_dropWhile, digit]

theorem readNumber_of_not_beginsValue (h : ∀ c, s.head? = some c → beginsValue c = false) :
    readNumber s = complain .noValue s := by
  have unsigned : s.head? ≠ some '-' := fun he => by cases h '-' he
  unfold readNumber
  simp only [unsigned, if_false, decide_false]
  split
  · cases h '0' rfl
  · rw [spanDigits_of_not_beginsValue h]
    rfl

/-- The reader stops where no value begins. -/
theorem readValue_of_not_beginsValue (h : ∀ c, s.head? = some c → beginsValue c = false)
    (depth nesting : Nat) : readValue depth nesting s = complain .noValue s := by
  cases depth with
  | zero => rfl
  | succ depth =>
    rw [readValue]
    · exact readNumber_of_not_beginsValue h
    -- with the other beginnings that the reader looks for, values begin
    all_goals
      rintro rest rfl
      cases h _ rfl

/-- No value begins with a blank. -/
theorem isBlank_of_beginsValue {c : Char} (h : beginsValue c = true) : isBlank c = false := by
  rw [beginsValue, Bool.or_eq_true, List.contains_iff_mem] at h
  obtain h | h := h
  · have others : openings.all (!isBlank ·) = true := by decide
    simpa using List.all_eq_true.1 others c h
  · rw [Bool.and_eq_true, decide_eq_true_eq, decide_eq_true_eq, Char.le_def, Char.le_def,
      UInt32.le_iff_toNat_le, UInt32.le_iff_toNat_le] at h
    have digits : meetsBlank 0x30 0x39 = false := by decide
    exact isBlankCode_of_run digits h.1 h.2

/-- What the reader passes over are blanks. -/
theorem isBlank_of_isGap {c : Char} (h : isGap c = true) : isBlank c = true := by
  simp only [isGap, Bool.or_eq_true, beq_iff_eq] at h
  obtain ((rfl | rfl) | rfl) | rfl := h <;> rfl

/-- Behind what the reader passes over, the first character that is no blank is still the same. -/
theorem dropWhile_isBlank_skipGap (s : List Char) :
    (skipGap s).dropWhile isBlank = s.dropWhile isBlank := by
  induction s with
  | nil => rfl
  | cons c s ih =>
    rw [skipGap] at ih ⊢
    rw [List.dropWhile_cons]
    split
    · rw [ih, List.dropWhile_cons, if_pos (isBlank_of_isGap ‹_›)]
    · rfl

end Json

/-! ## How scripts begin -/

/-- How a script begins: with an assignment to a name, with blanks where they may stand. -/
inductive BeginsAssignment : List Char → Prop where
  | mk {before gap name behind rest : List Char} (hb : IsBlankText before) (hg : gap ≠ [])
      (hs : IsBlankText gap) (hn : name ≠ []) (hw : ∀ c ∈ name, isWord c = true)
      (he : IsBlankText behind) : BeginsAssignment
        (before ++ 'v' :: 'a' :: 'r' :: (gap ++ (name ++ (behind ++ '=' :: rest))))

section Scripts

variable {s : List Char}

/-- The first character of a script that is no blank is the `v` of `var`. -/
theorem BeginsAssignment.head?_dropWhile (h : BeginsAssignment s) :
    (s.dropWhile isBlank).head? = some 'v' := by
  obtain ⟨hb, hg, hs, hn, hw, he⟩ := h
  rw [dropWhile_run hb (by rintro c ⟨⟩; decide), List.head?_cons]

/-- Each part of an assignment is read up to where the next one begins. -/
theorem BeginsAssignment.isSome_assignment? (h : BeginsAssignment s) : (assignment? s).isSome := by
  obtain ⟨hb, hg, hs, hn, hw, he⟩ := h
  rename_i before gap name behind rest
  obtain ⟨c, word, rfl⟩ := List.exists_cons_of_ne_nil hn
  have keyword (s : List Char) : (before ++ 'v' :: s).dropWhile isBlank = 'v' :: s :=
    dropWhile_run hb (by rintro d ⟨⟩; decide)
  have named (s : List Char) : ∀ d, (c :: word ++ s).head? = some d → isBlank d = false := by
    rintro d ⟨⟩
    exact isBlank_of_isWord (hw c List.mem_cons_self)
  have ended (s : List Char) : ∀ d, (behind ++ '=' :: s).head? = some d → isWord d = false :=
    head?_blanks_append he (by decide +kernel) fun d hd => isWord_of_isBlank hd
  have equals (s : List Char) : (behind ++ '=' :: s).dropWhile isBlank = '=' :: s :=
    dropWhile_run he (by rintro d ⟨⟩; decide)
  simp only [assignment?, keyword, afterChars?, if_true, afterSome?_run hg hs (named _),
    afterSome?_run hn hw (ended _), equals, Option.bind_eq_bind, Option.bind_some,
    Option.isSome_some]

/-- What is read as an assignment is one. -/
theorem beginsAssignment_of_isSome (h : (assignment? s).isSome) : BeginsAssignment s := by
  obtain ⟨value, h⟩ := Option.isSome_iff_exists.1 h
  simp only [assignment?, Option.bind_eq_bind, Option.bind_eq_some_iff, afterChars?_eq_some_iff,
    afterSome?_eq_some_iff] at h
  obtain ⟨_, keyword, _, ⟨gap, hg, hs, -, rfl⟩, last, ⟨name, hn, hw, -, rfl⟩, rest, equals, -⟩ := h
  have before := List.takeWhile_append_dropWhile (p := isBlank) (l := s)
  have behind := List.takeWhile_append_dropWhile (p := isBlank) (l := last)
  rw [keyword] at before
  rw [equals] at behind
  rw [← before, ← behind]
  exact .mk (fun c hc => List.mem_takeWhile_imp hc) hg hs hn hw
    fun c hc => List.mem_takeWhile_imp hc

theorem assignment?_isSome_iff : (assignment? s).isSome ↔ BeginsAssignment s :=
  ⟨beginsAssignment_of_isSome, BeginsAssignment.isSome_assignment?⟩

end Scripts

namespace Format

variable {text : String}

/-- Scripts are told by the assignment with which they begin. -/
theorem detect_eq_script_iff : detect text = .script ↔ BeginsAssignment text.toList := by
  rw [detect, ← assignment?_isSome_iff]
  split <;> simp [*]

/-- All other documents are told to be data. -/
theorem detect_eq_data_iff : detect text = .data "json" ↔ ¬BeginsAssignment text.toList := by
  rw [detect, ← assignment?_isSome_iff]
  split <;> simp [*]

end Format

/-! ## What is read of scripts -/

/-- A text begins with a blank or with the first character that is none. -/
theorem isBlank_or_eq_of_head? {s : List Char} {c d : Char}
    (hd : (s.dropWhile isBlank).head? = some d) (hc : s.head? = some c) :
    isBlank c = true ∨ c = d := by
  cases s with
  | nil => cases hc
  | cons first s =>
    cases hc
    rw [List.dropWhile_cons] at hd
    split at hd
    · exact .inl ‹_›
    · exact .inr (Option.some.inj hd)

/-- **Of a script no data is read.** The reader of data refuses a script behind what it passes over
there: it says that no value begins. -/
theorem Json.read_of_beginsAssignment {text : String} (h : BeginsAssignment text.toList)
    (nesting : Nat) : Json.read text nesting =
      .error ((Json.Flaw.complaint .noValue (Json.skipGap text.toList).length).at text.toList) := by
  have start := h.head?_dropWhile
  have unmarked : text.toList.head? ≠ some '\uFEFF' := by
    intro hm
    obtain hb | he := isBlank_or_eq_of_head? start hm
    · cases hb
    · cases he
  have refused : readValue (2 * text.toList.length + 2) nesting (skipGap text.toList) =
      complain .noValue (skipGap text.toList) := by
    refine readValue_of_not_beginsValue (fun c hc => ?_) _ _
    rw [← dropWhile_isBlank_skipGap] at start
    obtain hb | rfl := isBlank_or_eq_of_head? start hc
    · exact eq_false_of_apart isBlank_of_beginsValue hb
    · rfl
  rw [read, readChars, if_neg unmarked, refused]
  rfl

namespace Format

/-- **Data is never taken for a script.** Scripts are told by the assignment with which they begin,
and of each of them the reader of data says that no value begins where it begins to read. So each
document that can be read as data is told to be data, and reads the same whether it is called data
or not. All documents that are written are such documents. So it is for every interpreter, however
deep it lets values be nested. -/
theorem detects_data (interpreter : Interpreter) :
    (∀ text, detect text = .script ↔ BeginsAssignment text.toList) ∧
    (∀ text, detect text = .script → ∃ line column offset,
      Json.read text interpreter.nesting = .error (.malformed .noValue line column offset)) ∧
    (∀ text value, Json.read text interpreter.nesting = .ok value → detect text = .data "json" ∧
      ∀ bucket, Shard.read bucket text none interpreter =
        Shard.read bucket text (some "json") interpreter) ∧
    ∀ shard : Shard, Json.read shard.write interpreter.nesting = .ok shard.toJson ∧
      detect shard.write = .data "json" := by
  refine ⟨fun text => detect_eq_script_iff, fun text hs => ?_, fun text value hr => ?_,
    fun shard => ⟨Json.read_render (shard.isPlain_toJson interpreter), detect_write shard⟩⟩
  · exact ⟨_, _, _, Json.read_of_beginsAssignment (detect_eq_script_iff.1 hs) _⟩
  · have data : detect text = .data "json" := by
      rw [detect_eq_data_iff]
      intro hb
      rw [Json.read_of_beginsAssignment hb] at hr
      cases hr
    refine ⟨data, fun bucket => ?_⟩
    have chosen : choose none text = choose (some "json") text := data
    rw [Shard.read, Shard.read, chosen]

/-- A script with a blank at its start that no data may have there, and data with a word that only
the reader of data knows. -/
theorem detects_data_of_two :
    let script := "\u00A0var searchData=[];"
    let data := "\n[NaN]"
    detect script = .script ∧
      (∃ line column offset,
        Json.read script = .error (.malformed .noValue line column offset)) ∧
      Json.read data = .ok (.list [.notANumber]) ∧ detect data = .data "json" ∧
      ∀ bucket, Shard.read bucket data = Shard.read bucket data (some "json") := by
  intro script data
  have assigned : detect script = .script := by decide +kernel
  have chars : data.toList = ['\n', '[', 'N', 'a', 'N', ']'] := by decide
  have read : Json.read data = .ok (.list [.notANumber]) := by
    rw [Json.read, chars]
    rfl
  obtain ⟨-, refused, taken, -⟩ := detects_data {}
  obtain ⟨told, same⟩ := taken data _ read
  exact ⟨assigned, refused script assigned, read, told, same⟩

end Format

end SymbolLookup

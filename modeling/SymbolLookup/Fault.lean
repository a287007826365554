import SymbolLookup.Json.Reader
import SymbolLookup.Literal.Expression
/-!
# Faults

Everything that can go wrong, by cause, and the message of each cause.

## Main definitions

* `ConfigFault`: settings and addresses that nothing can be done with.
* `FileFault`: what the file system refuses.
* `Fault`: any cause.
* `Fault.message`: its wording.
-/

namespace SymbolLookup

open Text

/-- Settings and addresses that nothing can be done with. -/
inductive ConfigFault where
  /-- A search mode, in lower case, that does not exist. -/
  | unknownMode (mode : String)
  /-- An index that a source with several others does not have. -/
  | unknownIndex (wanted : String) (available : List String)
  /-- An address of no kind of source. -/
  | unsupportedAddress (address : String)
  /-- No bundle file is at this path. -/
  | missingBundle (path : String)
  /-- No directory is at this path. -/
  | missingDirectory (path : String)
  /-- The source cannot list its buckets. -/
  | listing (reason : String)
  deriving DecidableEq, Repr

/-- The names of the search modes as messages list them. -/
def modeNames : String := "('substring', 'prefix')"

/-- The message of a configuration fault. -/
def ConfigFault.message : ConfigFault → String
  | .unknownMode mode => "unknown search mode " ++ quote mode ++ "; expected one of " ++ modeNames
  | .unknownIndex wanted available =>
    "index " ++ quote wanted ++ " not found; available: " ++ ", ".intercalate available
  | .unsupportedAddress address => "Unsupported source DSN: " ++ address
  | .missingBundle path => path ++ " does not exist; build it with --pack first"
  | .missingDirectory path => "shard directory not found: " ++ path
  | .listing reason => reason

/-- What the file system refuses. -/
inductive FileFault where
  /-- Nothing is at the path. -/
  | missing (path : String)
  /-- A directory is at the path where a file is needed. -/
  | isDirectory (path : String)
  /-- A file is on the way to the path. -/
  | notDirectory (path : String)
  /-- A file is at the path where a directory is to be made. -/
  | exists (path : String)
  /-- A file cannot take the place of a directory. -/
  | replacesDirectory (path target : String)
  deriving DecidableEq, Repr

/-- The message of a file fault: its number, its meaning and the paths. -/
def FileFault.message : FileFault → String
  | .missing path => "[Errno 2] No such file or directory: " ++ quote path
  | .isDirectory path => "[Errno 21] Is a directory: " ++ quote path
  | .notDirectory path => "[Errno 20] Not a directory: " ++ quote path
  | .exists path => "[Errno 17] File exists: " ++ quote path
  | .replacesDirectory path target =>
    "[Errno 21] Is a directory: " ++ quote path ++ " -> " ++ quote target

/-- Any cause of failure. -/
inductive Fault where
  /-- A text that is no bucket id. -/
  | notBucketId (text : String)
  /-- A text that is no whole number. -/
  | numeral (fault : NumeralFault)
  /-- A number without a whole part: the one that is none. -/
  | undefinedNumber
  /-- A number without a whole part: one beyond all others. -/
  | infiniteNumber
  /-- A value of a kind that is no number. -/
  | notNumber (kind : String)
  /-- A text that is no JSON. -/
  | json (fault : Json.Fault)
  /-- A manifest that names no sections. -/
  | noSections
  /-- A cache that may run fewer than one load at a time. -/
  | noWorkers
  /-- A handler of the host failed. -/
  | handler (message : String)
  /-- A value that can change was to be a member of a set. -/
  | unhashable (kind : String)
  /-- A whole number was too large to be added to an imaginary one. -/
  | wholeTooLarge
  /-- Settings or an address that nothing can be done with. -/
  | config (fault : ConfigFault)
  /-- The shard of a bucket cannot be had. -/
  | load (bucket reason : String)
  /-- A shard document, or one record of it, does not have the expected shape. -/
  | malformed (bucket message : String) (record : Option Int)
  /-- No further loads are taken. -/
  | loadsRefused
  /-- The desk is closed. -/
  | closed
  /-- A load was left by a request to end the program. -/
  | exit (reason : String)
  /-- A load or a query was cancelled. -/
  | cancelled
  /-- What was waited for is not there yet. -/
  | unfinished
  /-- An outcome that is settled was to be settled again. -/
  | settledTwice
  /-- The system failed, that of the source or the one that the program runs in. -/
  | system (reason : String)
  /-- The file system refused. -/
  | file (fault : FileFault)
  /-- A bundle that was closed is used. -/
  | bundleClosed
  /-- A file is no bundle. -/
  | notBundle
  /-- The ordinal of a bucket does not fit into a bundle. -/
  | ordinalTooLarge
  deriving DecidableEq, Repr

/-- Which record of a document is meant, as messages say it. -/
def recordPlace : Option Int → String
  | none => ""
  | some record => " record " ++ toString record

/-- The message of a fault. -/
def Fault.message : Fault → String
  | .notBucketId text => "not a bucket id: " ++ quote text
  | .numeral fault => fault.message
  | .undefinedNumber => "cannot convert float NaN to integer"
  | .infiniteNumber => "cannot convert float infinity to integer"
  | .notNumber kind =>
    "int() argument must be a string, a bytes-like object or a real number, not '" ++ kind ++ "'"
  | .json fault => fault.message
  | .noSections => "manifest has no indexSectionNames"
  | .noWorkers => "max_workers must be greater than 0"
  | .handler message => message
  | .unhashable kind => "unhashable type: '" ++ kind ++ "'"
  | .wholeTooLarge => "int too large to convert to float"
  | .config fault => fault.message
  | .load bucket reason => "failed to load shard " ++ quote bucket ++ ": " ++ reason
  | .malformed bucket message record =>
    "malformed shard " ++ quote bucket ++ recordPlace record ++ ": " ++ message
  | .loadsRefused => "cannot schedule new futures after shutdown"
  | .closed => "Engine is shut down."
  | .exit reason => reason
  | .cancelled => ""
  | .unfinished => "what was waited for is not there yet"
  | .settledTwice => "the outcome is settled already"
  | .system reason => reason
  | .file fault => fault.message
  | .bundleClosed => "Cannot operate on a closed database."
  | .notBundle => "file is not a database"
  | .ordinalTooLarge => "Python int too large to convert to SQLite INTEGER"

/-- The reason of failed loads that tell none. -/
def unreachableReason : String := "unreachable"

/-- A failed load that tells no reason. -/
def Fault.unreachable (bucket : String) : Fault := .load bucket unreachableReason

section Outcomes

variable {ε α β : Type} {outcome : Except ε α} {value : β}

/-- What a function makes of an outcome that is no fault, it makes of a value. -/
theorem exists_of_map_eq_ok {f : α → β} (h : outcome.map f = .ok value) :
    ∃ before, outcome = .ok before ∧ f before = value := by
  cases outcome with
  | error => cases h
  | ok before => exact ⟨before, rfl, Except.ok.inj h⟩

theorem toOption_eq_some_iff {found : α} : outcome.toOption = some found ↔ outcome = .ok found := by
  cases outcome <;> simp [Except.toOption]

theorem isOk_iff_exists : outcome.isOk = true ↔ ∃ value, outcome = .ok value := by
  cases outcome <;> simp [Except.isOk, Except.toBool]

/-- An outcome that is no fault comes of one that is no fault either. -/
theorem exists_of_bind_eq_ok {next : α → Except ε β} (h : outcome.bind next = .ok value) :
    ∃ before, outcome = .ok before ∧ next before = .ok value := by
  cases outcome with
  | error => cases h
  | ok before => exact ⟨before, rfl, h⟩

end Outcomes

end SymbolLookup

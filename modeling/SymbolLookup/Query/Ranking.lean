import SymbolLookup.Amount
import SymbolLookup.Shard.Basic
import SymbolLookup.Text.LoneHalf
/-!
# Ranking

The entries that a query finds, grouped by name and put in order.

## Main definitions

* `Group`: the entries of one name.
* `groups`: some entries grouped, in the order in which their names first appear.
* `rank`: the groups in the order of the answer.

## Design notes

Groups whose key is the query stand first; then the keys decide, by code points; then the order in
which the names first appeared. Names that differ only in case are groups of their own.
-/

namespace SymbolLookup

/-- The entries of one name. -/
structure Group where
  name : String
  /-- The search key of the name. -/
  sortKey : String
  /-- The entries, in the order in which they were found. -/
  occurrences : List Entry
  deriving DecidableEq, Repr

/-- Adds an entry to the group of its name, or as a new group behind all others. -/
def addToGroups (entry : Entry) : List Group → List Group
  | [] => [⟨entry.name, entry.sortKey, [entry]⟩]
  | group :: rest =>
    if group.name = entry.name then
      { group with occurrences := group.occurrences ++ [entry] } :: rest
    else group :: addToGroups entry rest

/-- Some entries grouped by name, in the order in which the names first appear. -/
def groups (entries : List Entry) : List Group :=
  entries.foldl (fun found entry => addToGroups entry found) []

/-- The place of a group in the answer to a query: whether its key differs from the query, its key,
and the place of its name among all that were found. -/
structure Rank where
  /-- Whether the key of the group differs from the query. -/
  differs : Bool
  /-- The key of the group. -/
  key : String
  /-- The place of its name among all that were found. -/
  firstSeen : Nat
  deriving DecidableEq, Repr

/-- Whether a rank is that of an earlier place than another, or the same. -/
def Rank.le (a b : Rank) : Bool :=
  (!a.differs && b.differs) ||
    (a.differs == b.differs && (Text.codePoints a.key < Text.codePoints b.key ||
      (a.key == b.key && a.firstSeen ≤ b.firstSeen)))

/-- The rank of a numbered group in the answer to a normalized query. -/
def Group.rank (key : String) (numbered : Group × Nat) : Rank :=
  ⟨numbered.1.sortKey != key, numbered.1.sortKey, numbered.2⟩

/-- All groups of some entries in the order of the answer to a query. -/
def rankAll (entries : List Entry) (query : String) : List Group :=
  let key := normalize query
  let sorted :=
    (groups entries).zipIdx.mergeSort fun a b => (Group.rank key a).le (Group.rank key b)
  sorted.map (·.1)

/-- The first groups of an answer, at most as many as a limit allows; none below zero. -/
def takeUpTo (limit : Option Int) (answer : List Group) : List Group :=
  match limit with
  | none => answer
  | some k => answer.take k.toNat

/-- The answer to a query: the groups of the entries found, at most as many as the limit allows. -/
def rank (entries : List Entry) (query : String) (limit : Option Int := none) : List Group :=
  takeUpTo limit (rankAll entries query)

/-- A limit as it was given, as a number. -/
def readLimit : Option Amount → Except Fault (Option Int)
  | none => .ok none
  | some amount => (Amount.toInt amount).map some

end SymbolLookup

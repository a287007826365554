import SymbolLookup.Key
/-!
# Entries

A symbol of the documentation: its name, where it is documented, and its search key.

## Main definitions

* `Anchor`: a place in a document.
* `Entry`: a symbol as one shard lists it.
-/

namespace SymbolLookup

/-- A place in a document. -/
structure Anchor where
  /-- The path of the document. -/
  path : String
  /-- The name of the place inside the document, empty for the whole document. -/
  fragment : String := ""
  deriving DecidableEq, Repr

namespace Anchor

/-- The anchor that a link writes: the fragment begins after its first `#`. -/
def parse (link : String) : Anchor :=
  let (path, rest) := link.toList.span (· ≠ '#')
  ⟨String.ofList path, String.ofList (rest.drop 1)⟩

/-- The link that leads to an anchor. -/
def link (a : Anchor) : String := if a.fragment = "" then a.path else a.path ++ "#" ++ a.fragment

end Anchor

/-- A symbol as one shard lists it. -/
structure Entry where
  /-- The name as it was written. -/
  name : String
  /-- The qualified name of this occurrence. -/
  label : String
  /-- Where the symbol is documented. -/
  anchor : Anchor
  /-- The place of the entry in its shard. -/
  position : Nat
  /-- Whether the link opens inside the frame of the documentation. -/
  inFrame : Bool := true
  /-- The search key of the name. -/
  sortKey : String := normalize name
  /-- Every entry carries the search key of its own name. -/
  sortKey_eq : sortKey = normalize name := by rfl
  deriving DecidableEq, Repr

end SymbolLookup

import SymbolLookup.Text.Canonical
import SymbolLookup.Text.Folding
/-!
# Search keys

The form in which names and queries are compared: one spelling for accents, no blanks around, and
no difference of case.

## Main definitions

* `normalize`: the search key of a text.
* `leading?`: the first character of the search key.

## Design notes

Blanks inside a text are kept; names hold none, so a query with one finds nothing. Folding is the
last step, and it can leave letters and marks that composition would join, so the key of a key is
not always the key itself.
-/

namespace SymbolLookup

open Text

/-- The search key of a text, over its characters. -/
def normalizeChars (s : List Char) : List Char := caseFold (trim (canonical s))

/-- The search key of a text. -/
def normalize (text : String) : String := String.ofList (normalizeChars text.toList)

/-- The first character of the search key of a text. -/
def leading? (text : String) : Option Char := (normalizeChars text.toList).head?

end SymbolLookup

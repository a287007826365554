import SymbolLookup.Text.Blank
import SymbolLookup.Text.Table.Identifier
import SymbolLookup.Text.Table.Word
/-!
# Words

The characters of which names in a script are made.

## Main definitions

* `isWord`: whether a character may stand in a word.
* `beginsIdentifier`, `continuesIdentifier`: whether it may stand in an identifier, at its start or
  behind it.
-/

namespace SymbolLookup.Text

/-- Whether a character may stand in a name: letters and numerals of every script, and `_`. -/
def isWord (c : Char) : Bool := inRuns Table.word c

/-- Whether an identifier may begin with a character beyond the basic ones. -/
def beginsIdentifier (c : Char) : Bool :=
  isWord c && !inRuns Table.identifierNumerals c || inRuns Table.identifierLetters c

/-- Whether an identifier may go on with a character beyond the basic ones. -/
def continuesIdentifier (c : Char) : Bool :=
  isWord c && !inRuns Table.identifierSigns c || inRuns Table.identifierMarks c

end SymbolLookup.Text

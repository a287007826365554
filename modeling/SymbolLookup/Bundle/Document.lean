import SymbolLookup.Bundle.Basic
import SymbolLookup.Json.Printer
import SymbolLookup.Json.Reader
/-!
# Bundle files

The written form of a bundle: the alphabets of the indexes and the rows, as one JSON object.

## Main definitions

* `Bundle.write`: the written form of a bundle.
* `Bundle.read?`: the bundle that a text writes.
-/

namespace SymbolLookup.Bundle

/-- The field of the alphabets. -/
def sectionsField : String := "sections"

/-- The field of the rows. -/
def rowsField : String := "rows"

/-- A bundle as JSON. -/
def toJson (bundle : Bundle) : Json :=
  .object [
    (sectionsField, .list (bundle.sections.map fun part => .list [.text part.1, .text part.2])),
    (rowsField, .list (bundle.rows.map fun row =>
      .list [.text row.1, .text row.2.index, .text row.2.document]))]

/-- The written form of a bundle. -/
def write (bundle : Bundle) : String := bundle.toJson.render

/-- An alphabet with its index. -/
def sectionOf? : Json → Option (String × String)
  | .list [.text index, .text alphabet] => some (index, alphabet)
  | _ => none

/-- A row with its bucket. -/
def rowOf? : Json → Option (String × Row)
  | .list [.text bucket, .text index, .text document] => some (bucket, ⟨index, document⟩)
  | _ => none

/-- The bundle that some JSON is. -/
def ofJson? (value : Json) : Option Bundle :=
  match value.field? sectionsField, value.field? rowsField with
  | some (.list parts), some (.list rows) =>
    (parts.mapM sectionOf?).bind fun sections =>
      (rows.mapM rowOf?).map fun rows => { sections, rows }
  | _, _ => none

/-- The bundle that a text writes. -/
def read? (text : String) : Option Bundle :=
  match Json.read text with
  | .ok value => ofJson? value
  | .error _ => none

end SymbolLookup.Bundle

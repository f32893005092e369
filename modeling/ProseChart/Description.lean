import ProseChart.Fault
import ProseChart.Text.Quotes

/-!
# ProseChart.Description — descriptions in JSON

A description arrives as a JSON value and has to be a text. A surrogate that
stands alone in it counts as the replacement character.
-/

namespace ProseChart.Description

/-- The text of a description; a value of another kind is refused. -/
def ofValue : Json.Value → Except Fault Text
  | .text t => .ok t.toText
  | other => .error (.descriptionKind other.kind)

/-- Removes the quote characters from a value, which has to be a text. -/
def unquoteValue : Json.Value → Except Fault Text
  | .text t => .ok t.toText.unquote
  | other => .error (.quotedKind other.kind)

/-- A text is the description that it is. -/
theorem ofValue_text (t : Text) : ofValue (.text t) = .ok t := by
  simp [ofValue]

/-- Exactly the texts are descriptions. -/
theorem exists_ofValue_eq_ok_iff {v : Json.Value} :
    (∃ t, ofValue v = .ok t) ↔ v.kind = .text := by
  cases v <;> simp [ofValue, Json.Value.kind]

end ProseChart.Description

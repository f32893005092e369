import ProseChart.Text

/-!
# ProseChart.Text.Quotes — quote characters

The two ASCII quote characters are the only ones that a diagram label cannot
carry; `unquote` removes them and keeps every other character in its order.
-/

namespace ProseChart.Text

/-- The single and the double ASCII quote. -/
def isQuote (c : Char) : Bool := c == '\'' || c == '"'

theorem isQuote_iff {c : Char} : isQuote c = true ↔ c = '\'' ∨ c = '"' := by
  rw [isQuote, Bool.or_eq_true, beq_iff_eq, beq_iff_eq]

/-- The text without its quote characters. -/
def unquote (t : Text) : Text := t.filter fun c => !isQuote c

/-- Unquoting goes through concatenation. -/
theorem unquote_append (a b : Text) : unquote (a ++ b) = unquote a ++ unquote b := by
  simp [unquote]

/-- No quote character is left. -/
theorem isQuote_of_mem_unquote {c : Char} {t : Text} (h : c ∈ unquote t) : isQuote c = false := by
  simpa using (List.mem_filter.mp h).2

/-- A text without quote characters is left as it is. -/
theorem unquote_eq_self {t : Text} (h : ∀ c ∈ t, isQuote c = false) : unquote t = t := by
  rw [unquote, List.filter_eq_self]
  intro c hc
  rw [h c hc]
  rfl

/-- A part of a text loses its quotes as the text does. -/
theorem unquote_isInfix {s t : Text} (h : s <:+: t) : unquote s <:+: unquote t := by
  rcases h with ⟨a, b, rfl⟩
  rw [unquote_append, unquote_append]
  exact List.infix_append _ _ _

end ProseChart.Text

import ProseChart.Text.Fold

/-!
# ProseChart.Keyword — keyword families

A family is a list of lower-case ASCII words. A text holds a family when one of
its words stands anywhere in the text, inside a longer word too, in any letter
case.

Two sets of families are in use, and they differ on purpose: a *review* of a
description looks for `start`, `connection` and `condition` words in the whole
text, while a *chart* looks for `decision` and `alternative` words in single
labels. Every alternative word is a condition word.
-/

namespace ProseChart.Keyword

/-! ## Families of a review -/

/-- Words that name a starting point. -/
def start : List Text := ["start", "begin", "first"]

/-- Words that connect one step with another. -/
def connection : List Text :=
  ["then", "next", "after", "followed by", "goes to", "leads to", "connects to", "->"]

/-- Words that speak of a decision. -/
def condition : List Text := ["if", "else", "otherwise", "when", "case", "condition", "decision"]

/-! ## Families of a chart -/

/-- A label with one of these words is a decision. -/
def decision : List Text := ["if", "decide", "check"]

/-- A label with one of these words takes the other branch of a decision. -/
def alternative : List Text := ["else", "otherwise"]

/-! ## The test -/

/-- Whether a word of the family stands in the text, in any letter case. -/
def occurs (family : List Text) (t : Text) : Bool :=
  family.any fun word => Text.mentions word (Text.fold t)

/-- A family occurs exactly when one of its words is an infix of the folded
text. -/
theorem occurs_iff {family : List Text} {t : Text} :
    occurs family t = true ↔ ∃ word ∈ family, word <:+: Text.fold t := by
  simp [occurs, Text.mentions_iff_infix]

/-- What takes the other branch of a decision speaks of a decision. -/
theorem mem_condition_of_mem_alternative {word : Text} (h : word ∈ alternative) :
    word ∈ condition := by
  simp only [alternative, List.mem_cons, List.not_mem_nil, or_false] at h
  rcases h with h | h <;> subst h <;> simp [condition]

end ProseChart.Keyword

import ProseChart.Text

/-!
# ProseChart.Step — the steps of a description

A process description is free text. Its steps are what stands between the
delimiters (full stop, comma, line feed), without the margin around it; pieces
that are all margin are no steps.

* `Step.isDelimiter`, `Step.isMargin` — the two character classes. A line feed
  is in both, every other character in at most one.
* `Step.extract` — the steps of a description in order. Quote characters, and
  every other character outside the two classes, stay in the step.
* `Step.extract_append_cons` — at a delimiter the steps of a text fall apart into
  those of its two sides.
-/

namespace ProseChart.Step

/-- Steps are separated by full stops, commas and line feeds. -/
def isDelimiter (c : Char) : Bool := c == '.' || c == ',' || c == '\n'

theorem isDelimiter_iff {c : Char} : isDelimiter c = true ↔ c = '.' ∨ c = ',' ∨ c = '\n' := by
  simp only [isDelimiter, Bool.or_eq_true, beq_iff_eq, or_assoc]

/-- The margin trimmed from both ends of a step: white space and line
terminators, the byte order mark included, the information separators
U+001C to U+001F and the next-line control U+0085 not. -/
def isMargin (c : Char) : Bool :=
  let n := c.toNat
  (0x09 ≤ n && n ≤ 0x0D) || n == 0x20 || n == 0xA0 || n == 0x1680 ||
    (0x2000 ≤ n && n ≤ 0x200A) || n == 0x2028 || n == 0x2029 || n == 0x202F || n == 0x205F ||
    n == 0x3000 || n == 0xFEFF

theorem isMargin_iff {c : Char} : isMargin c = true ↔ c.toNat ∈
    [0x09, 0x0A, 0x0B, 0x0C, 0x0D, 0x20, 0xA0, 0x1680, 0x2000, 0x2001, 0x2002, 0x2003, 0x2004,
      0x2005, 0x2006, 0x2007, 0x2008, 0x2009, 0x200A, 0x2028, 0x2029, 0x202F, 0x205F, 0x3000,
      0xFEFF] := by
  simp [isMargin]
  omega

/-- The steps of a description: its pieces between delimiters, trimmed, without
the empty ones. -/
def extract (description : Text) : List Text :=
  ((description.pieces isDelimiter).map (Text.trim isMargin)).filter fun step => !step.isEmpty

/-- A delimiter separates the steps before it from the steps after it. -/
theorem extract_append_cons {c : Char} (delimiter : isDelimiter c = true) (a b : Text) :
    extract (a ++ c :: b) = extract a ++ extract b := by
  simp [extract, Text.pieces_append_cons delimiter]

end ProseChart.Step

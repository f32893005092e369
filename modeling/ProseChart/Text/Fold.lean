import ProseChart.Text

/-!
# ProseChart.Text.Fold — ignoring letter case in keywords

Keywords are looked up in lower-cased text. All keywords are ASCII, so of
Unicode's lower-case mapping only the characters matter whose lower-case form
holds an ASCII character: the ASCII capitals, the Kelvin sign (`k`) and the
capital I with a dot above (`i` and a combining dot, U+0307). Every other letter
stays outside ASCII when it is lower-cased, wherever it stands, so it can
neither make nor break a keyword and is kept as it is.

`fold` works character by character, hence `fold_append`: folding a joined text
folds its parts.
-/

namespace ProseChart.Text

/-- The lower-case form of a character, as far as it holds an ASCII character. -/
def foldChar (c : Char) : Text :=
  if c = '\u212A' then ['k']
  else if c = '\u0130' then ['i', '\u0307']
  else [c.toLower]

/-- Lower-cases a text for a keyword search. -/
def fold (t : Text) : Text := t.flatMap foldChar

/-- Folding goes through concatenation. -/
theorem fold_append (a b : Text) : fold (a ++ b) = fold a ++ fold b := by
  simp [fold]

end ProseChart.Text

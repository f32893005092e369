import ProseChart.Text.Printable

/-!
# ProseChart.Text.Literal — text between quotes in a message

A message that quotes a text writes it so that its ends and its invisible
characters can be seen: between single quotes, or between double quotes when the
text holds a single quote and no double quote. The quote in use and the
backslash are escaped by a backslash, tab, line feed and carriage return by their
letters, and every other character without a visible form by its code point.
-/

namespace ProseChart.Text

/-- A number in lower-case hexadecimal, padded with zeros to a width. -/
def hex (width n : Nat) : Text :=
  let digits := Nat.toDigits 16 n
  List.replicate (width - digits.length) '0' ++ digits

/-- A code unit by its number. -/
def escapeUnit (unit : Nat) : Text := "\\u" ++ hex 4 unit

/-- A character without a visible form, by its code point. -/
def escapeHidden (c : Char) : Text :=
  if c.toNat < 0x100 then "\\x" ++ hex 2 c.toNat
  else if c.toNat < 0x10000 then escapeUnit c.toNat
  else "\\U" ++ hex 8 c.toNat

/-- A character inside a literal that is closed by `quote`. -/
def literalChar (quote c : Char) : Text :=
  if c = quote ∨ c = '\\' then ['\\', c]
  else if c = '\t' then "\\t"
  else if c = '\n' then "\\n"
  else if c = '\r' then "\\r"
  else if isPrintable c then [c]
  else escapeHidden c

/-- The quote that closes the literal of a text. -/
def literalQuote (t : Text) : Char :=
  if t.contains '\'' && !t.contains '"' then '"' else '\''

/-- The literal of a text. -/
def literal (t : Text) : Text :=
  literalQuote t :: (t.flatMap (literalChar (literalQuote t)) ++ [literalQuote t])

end ProseChart.Text

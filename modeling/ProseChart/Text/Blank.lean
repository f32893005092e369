import ProseChart.Text

/-!
# ProseChart.Text.Blank — blank characters

`Text.isBlank` is the class of characters that count as blank space in Unicode:
the separators of category Zs, the line and paragraph separators, the ASCII
controls that move the print position, the next-line control and the four
information separators. The zero-width characters (U+200B, U+FEFF) and the
Mongolian vowel separator (U+180E) are no blank space.
-/

namespace ProseChart.Text

/-- Blank space: the white space of Unicode and the information separators
U+001C to U+001F. -/
def isBlank (c : Char) : Bool :=
  let n := c.toNat
  (0x09 ≤ n && n ≤ 0x0D) || (0x1C ≤ n && n ≤ 0x20) || n == 0x85 || n == 0xA0 || n == 0x1680 ||
    (0x2000 ≤ n && n ≤ 0x200A) || n == 0x2028 || n == 0x2029 || n == 0x202F || n == 0x205F ||
    n == 0x3000

/-- The ASCII class of the core library is part of it. -/
theorem isBlank_of_isWhitespace {c : Char} (h : c.isWhitespace = true) : isBlank c = true := by
  simp only [Char.isWhitespace, Bool.or_eq_true, decide_eq_true_eq] at h
  rcases h with ((h | h) | h) | h <;> subst h <;> decide

/-- Drops blank space from both ends. -/
def trimBlank (t : Text) : Text := trim isBlank t

end ProseChart.Text

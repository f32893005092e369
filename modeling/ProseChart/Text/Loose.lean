import ProseChart.Text.Literal

/-!
# ProseChart.Text.Loose — texts in which surrogates may stand alone

JSON names characters outside the basic plane by pairs of surrogates, and nothing
keeps a writer from naming one half of a pair alone. Such a half is a code point
but no character, so what JSON calls a text is looser than a `Text`.

* `CodePoint` — a character, or a surrogate without its partner.
* `LooseText` — a list of code points; every text is one, by a coercion.
* `LooseText.toText` — the closest text: the replacement character stands for
  each surrogate. On texts it changes nothing (`toText_ofText`).
* `LooseText.literal` — the literal in a message, where a surrogate is shown by
  its number.
-/

namespace ProseChart

/-- A code point: a character, or a surrogate without its partner, given by its
place among the surrogates. -/
inductive CodePoint where
  | char (c : Char)
  | surrogate (place : Fin 0x800)
deriving DecidableEq, Repr, Inhabited

namespace CodePoint

/-- The number of a code point; the surrogates begin at U+D800. -/
def toNat : CodePoint → Nat
  | .char c => c.toNat
  | .surrogate place => 0xD800 + place

/-- The code point of a number. -/
def ofNat (n : Nat) : CodePoint :=
  if h : 0xD800 ≤ n ∧ n < 0xE000 then .surrogate ⟨n - 0xD800, by omega⟩
  else .char (Char.ofNat n)

/-- The character of a code point, or the replacement character. -/
def toChar : CodePoint → Char
  | .char c => c
  | .surrogate _ => '\uFFFD'

/-- Whether the code point is a character. -/
def isChar : CodePoint → Bool
  | .char _ => true
  | .surrogate _ => false

/-- A code point inside a literal that is closed by `quote`. -/
def literal (quote : Char) : CodePoint → Text
  | .char c => Text.literalChar quote c
  | .surrogate place => Text.escapeUnit (toNat (.surrogate place))

end CodePoint

/-- A text in which surrogates may stand alone. -/
abbrev LooseText := List CodePoint

namespace LooseText

/-- The code points of a text. -/
def ofText (t : Text) : LooseText := t.map .char

/-- The text with the replacement character for every surrogate. -/
def toText (t : LooseText) : Text := t.map CodePoint.toChar

/-- Whether no surrogate stands alone. -/
def isText (t : LooseText) : Bool := t.all CodePoint.isChar

/-- The literal of a loose text. -/
def literal (t : LooseText) : Text :=
  let quote := Text.literalQuote t.toText
  quote :: (t.flatMap (CodePoint.literal quote) ++ [quote])

/-- A text is unchanged among the loose texts. -/
@[simp] theorem toText_ofText (t : Text) : (ofText t).toText = t := by
  simp only [toText, ofText, List.map_map]
  exact List.map_id t

/-- No surrogate stands in a text. -/
@[simp] theorem isText_ofText (t : Text) : (ofText t).isText = true := by
  simp [isText, ofText, CodePoint.isChar]

/-- Different texts stay different. -/
theorem ofText_inj {s t : Text} : ofText s = ofText t ↔ s = t := by
  refine ⟨fun same => ?_, fun same => same ▸ rfl⟩
  rw [← toText_ofText s, ← toText_ofText t, same]

/-- The literal of a text is the same among the loose texts. -/
@[simp] theorem literal_ofText (t : Text) : (ofText t).literal = Text.literal t := by
  simp only [literal, toText_ofText, Text.literal]
  simp [ofText, List.flatMap_map, CodePoint.literal]

end LooseText

/-- Texts stand for their code points wherever a loose text is expected. -/
instance : Coe Text LooseText := ⟨LooseText.ofText⟩

end ProseChart

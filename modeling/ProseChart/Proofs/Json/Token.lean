import Mathlib.Data.List.Basic
import ProseChart.Json.Printer
import ProseChart.Json.Reader
import ProseChart.Proofs.Text.Number

/-!
# ProseChart.Proofs.Json.Token — texts and integers are read back

The two scalars of JSON that need a notation of their own. A text keeps most of its
characters, and the reader undoes each way to escape one: by a letter after a backslash,
or by a number. An integer is its digits, and the reader takes all of them and nothing
else, because no zero stands in front and no digit, point or exponent follows.

* `Json.units_escapeChar` — the reader undoes one escape.
* `Json.body_flatMap_escapeChar` — a text between quotes.
* `Json.number_ofInt` — an integer that is within bounds.
-/

namespace ProseChart

namespace LooseText

/-- A loose text without surrogates is a text. -/
theorem exists_ofText {t : LooseText} (h : t.isText = true) : ∃ s : Text, ofText s = t := by
  refine ⟨t.toText, ?_⟩
  have hsame : ∀ point ∈ t, CodePoint.char point.toChar = point := by
    intro point hpoint
    cases point with
    | char c => rfl
    | surrogate place => cases List.all_eq_true.mp h _ hpoint
  calc ofText t.toText
      _ = t.map fun point => CodePoint.char point.toChar := List.map_map
      _ = t.map id := List.map_congr_left hsame
      _ = t := List.map_id t

end LooseText

namespace Json

variable {bounds : Bounds} {opening inside rest digits : Text} {n : Nat} {c letter : Char}

/-! ## Texts -/

/-- What the reader makes of an escape by a letter. -/
theorem units_letter {e : Char} (hletter : letter ≠ 'u') (he : escaped? letter = some e) :
    units opening ('\\' :: letter :: inside) = push e.toNat (units opening inside) := by
  rw [units.eq_def]
  simp [hletter, he]

/-- The digits of an escaped control character are read back. -/
theorem hex_control : ∀ n < 0x20,
    Text.hex 4 n = ['0', '0', Nat.digitChar (n / 16), Nat.digitChar (n % 16)] ∧
      unit? '0' '0' (Nat.digitChar (n / 16)) (Nat.digitChar (n % 16)) = some n := by
  decide

/-- What the reader makes of an escape by a number; a character must follow it. -/
theorem units_escapeUnit (hn : n < 0x20) (hinside : inside ≠ []) :
    units opening (Text.escapeUnit n ++ inside) = push n (units opening inside) := by
  rcases hex_control n hn with ⟨hhex, hunit⟩
  obtain ⟨next, later, rfl⟩ := List.exists_cons_of_ne_nil hinside
  unfold Text.escapeUnit
  rw [hhex]
  show units opening ('\\' :: 'u' :: '0' :: '0' :: _ :: _ :: next :: later) = _
  rw [units.eq_def]
  simp [hunit]

/-- What the reader makes of a character that stands for itself. -/
theorem units_plain (hquote : c ≠ '"') (hbackslash : c ≠ '\\') (hcontrol : ¬ c.toNat < 0x20) :
    units opening (c :: inside) = push c.toNat (units opening inside) := by
  rw [units.eq_def]
  simp [hquote, hbackslash, hcontrol]

/-- The reader undoes the escape of a character. The cases are those of `escapeChar`. -/
theorem units_escapeChar (c : Char) (hinside : inside ≠ []) :
    units opening (escapeChar c ++ inside) = push c.toNat (units opening inside) := by
  unfold escapeChar
  split_ifs with hquote hbackslash hfeed hreturn htab hform hback hcontrol
  · subst hquote
    exact units_letter (by decide) rfl
  · subst hbackslash
    exact units_letter (by decide) rfl
  · subst hfeed
    exact units_letter (by decide) rfl
  · subst hreturn
    exact units_letter (by decide) rfl
  · subst htab
    exact units_letter (by decide) rfl
  · subst hform
    exact units_letter (by decide) rfl
  · subst hback
    exact units_letter (by decide) rfl
  · exact units_escapeUnit hcontrol hinside
  · exact units_plain hquote hbackslash hcontrol

theorem units_flatMap_escapeChar (t rest : Text) :
    units opening (t.flatMap escapeChar ++ '"' :: rest) = .ok (t.map Char.toNat, rest) := by
  induction t with
  | nil =>
    show units opening ('"' :: rest) = .ok ([], rest)
    rw [units.eq_def]
    rfl
  | cons c t ih =>
    -- the closing quote at least stands behind every escape
    have hinside : t.flatMap escapeChar ++ '"' :: rest ≠ [] := by simp
    rw [List.flatMap_cons, List.append_assoc, units_escapeChar c hinside, ih]
    rfl

/-- No character is half of a pair of surrogates. -/
theorem pairChar?_toNat (c : Char) (low : Nat) : pairChar? c.toNat low = none := by
  apply if_neg
  rintro ⟨hle, hlt, -, -⟩
  have hvalid : c.toNat < 0xD800 ∨ 0xDFFF < c.toNat ∧ c.toNat < 0x110000 := c.valid
  omega

theorem ofNat_toNat (c : Char) : CodePoint.ofNat c.toNat = .char c := by
  have hvalid : c.toNat < 0xD800 ∨ 0xDFFF < c.toNat ∧ c.toNat < 0x110000 := c.valid
  have hno : ¬ (0xD800 ≤ c.toNat ∧ c.toNat < 0xE000) := by omega
  unfold CodePoint.ofNat
  rw [dif_neg hno, Char.ofNat_toNat]

theorem joinUnits_map_toNat (t : Text) : joinUnits (t.map Char.toNat) = LooseText.ofText t := by
  induction t with
  | nil => rfl
  | cons c t ih =>
    cases t with
    | nil =>
      show [CodePoint.ofNat c.toNat] = [.char c]
      rw [ofNat_toNat]
    | cons d t =>
      show joinUnits (c.toNat :: d.toNat :: t.map Char.toNat) = .char c :: LooseText.ofText (d :: t)
      rw [joinUnits, pairChar?_toNat, ofNat_toNat, ← ih]
      rfl

/-- A text up to its closing quote is read back. -/
theorem body_flatMap_escapeChar (t rest : Text) :
    body opening (t.flatMap escapeChar ++ '"' :: rest) = .ok (LooseText.ofText t, rest) := by
  unfold body
  rw [units_flatMap_escapeChar, ← joinUnits_map_toNat]
  rfl

theorem quote_append (t rest : Text) :
    quote t ++ rest = '"' :: (t.flatMap escapeChar ++ '"' :: rest) := by
  have hpoints : (LooseText.ofText t).flatMap escapePoint = t.flatMap escapeChar := by
    unfold LooseText.ofText
    rw [List.flatMap_map]
    rfl
  unfold quote
  rw [hpoints, List.cons_append, List.append_assoc]
  rfl

/-! ## Integers -/

/-- Where a value ends: at the end of the text, at what may follow a part of an array or an
object, or at a line feed. -/
def Ends (rest : Text) : Prop := ∀ c ∈ rest.head?, c = ',' ∨ c = ']' ∨ c = '}' ∨ c = '\n'

theorem Ends.not_isDigit (h : Ends rest) (hc : c ∈ rest.head?) : c.isDigit = false := by
  rcases h c hc with rfl | rfl | rfl | rfl <;> rfl

theorem digits_append (hdigits : ∀ c ∈ digits, c.isDigit = true) (hrest : Ends rest) :
    Json.digits (digits ++ rest) = (digits, rest) := by
  have hstop : rest.takeWhile Char.isDigit = [] ∧ rest.dropWhile Char.isDigit = rest := by
    cases rest with
    | nil => exact ⟨rfl, rfl⟩
    | cons c rest =>
      have hc : c.isDigit = false := hrest.not_isDigit rfl
      simp [hc]
  unfold Json.digits
  rw [List.takeWhile_append_of_pos hdigits, List.dropWhile_append_of_pos hdigits, hstop.1, hstop.2,
    List.append_nil]

/-- The reader takes all digits of a number. -/
theorem whole?_ofNat (n : Nat) (hrest : Ends rest) :
    whole? (Text.ofNat n ++ rest) = some (Text.ofNat n, rest) := by
  by_cases hn : n = 0
  · subst hn
    rfl
  · obtain ⟨c, u, hcons, hc⟩ := Text.exists_ofNat n
    have hzero : c ≠ '0' := by
      rintro rfl
      apply Text.head?_ofNat_ne_zero hn
      rw [hcons]
      rfl
    have hall : Json.digits (Text.ofNat n ++ rest) = (Text.ofNat n, rest) :=
      digits_append Text.isDigit_of_mem_ofNat hrest
    rw [hcons] at hall ⊢
    rw [List.cons_append, whole?, if_neg hzero, if_pos hc]
    exact congrArg some hall

theorem fraction?_of_ends (hrest : Ends rest) : fraction? rest = none := by
  cases rest with
  | nil => rfl
  | cons c rest =>
    apply if_neg
    rintro ⟨rfl, -⟩
    have hpoint := hrest '.' rfl
    revert hpoint
    decide

theorem exponent?_of_ends (hrest : Ends rest) : exponent? rest = none := by
  cases rest with
  | nil => rfl
  | cons c rest =>
    apply if_neg
    rintro ⟨hmark, -⟩
    rcases hrest c rfl with rfl | rfl | rfl | rfl <;> revert hmark <;> decide

/-- The numeral of an integer. -/
def numeralOf : Int → Numeral
  | .ofNat n => ⟨false, Text.ofNat n, none, none⟩
  | .negSucc n => ⟨true, Text.ofNat (n + 1), none, none⟩

theorem numeralOf_value (z : Int) : (numeralOf z).value = .integer z := by
  cases z with
  | ofNat n =>
    show Value.integer (Nat.ofDigitChars 10 (Text.ofNat n) 0 : Nat) = _
    rw [Text.ofDigitChars_ofNat]
    rfl
  | negSucc n =>
    show Value.integer (-(Nat.ofDigitChars 10 (Text.ofNat (n + 1)) 0 : Nat)) = _
    rw [Text.ofDigitChars_ofNat]
    rfl

theorem numeralOf_whole (z : Int) : (numeralOf z).whole = Text.ofNat z.natAbs := by
  cases z <;> rfl

theorem isInteger_numeralOf (z : Int) : (numeralOf z).isInteger = true := by
  cases z <;> rfl

theorem numeral?_ofInt (z : Int) (hrest : Ends rest) :
    numeral? (Text.ofInt z ++ rest) = some (numeralOf z, rest) := by
  cases z with
  | ofNat n =>
    obtain ⟨c, u, hcons, hc⟩ := Text.exists_ofNat n
    have hminus : ((Text.ofNat n ++ rest).head? == some '-') = false := by
      rw [hcons]
      apply beq_false_of_ne
      intro heq
      exact Text.ne_of_isDigit hc (k := '-') rfl (Option.some.inj heq)
    show numeral? (Text.ofNat n ++ rest) = _
    unfold numeral?
    simp only [hminus, Bool.false_eq_true, if_false, whole?_ofNat n hrest, fraction?_of_ends hrest,
      Option.map_none, Option.getD_none, exponent?_of_ends hrest]
    rfl
  | negSucc n =>
    show numeral? ('-' :: (Text.ofNat (n + 1) ++ rest)) = _
    unfold numeral?
    simp only [List.head?_cons, beq_self_eq_true, if_true, List.drop_one, List.tail_cons,
      whole?_ofNat (n + 1) hrest, fraction?_of_ends hrest, Option.map_none, Option.getD_none,
      exponent?_of_ends hrest]
    rfl

/-- An integer is read back unless it has too many digits. -/
theorem number_ofInt {z : Int} (hrest : Ends rest)
    (hdigits : bounds.digitExcess? (Text.ofNat z.natAbs).length = none) :
    number bounds (Text.ofInt z ++ rest) = .ok (.integer z, rest) := by
  have hexcess : (numeralOf z).excess? bounds = none := by
    rw [Numeral.excess?, if_pos (isInteger_numeralOf z), numeralOf_whole]
    exact hdigits
  unfold number
  rw [numeral?_ofInt z hrest]
  simp only [hexcess, numeralOf_value]

end Json

end ProseChart

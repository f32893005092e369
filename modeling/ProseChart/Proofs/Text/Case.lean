import Mathlib.Data.List.Forall2
import ProseChart.Keyword
import ProseChart.Step
import ProseChart.Text.Quotes

/-!
# ProseChart.Proofs.Text.Case — letter case

Lower-casing the ASCII letters of a text commutes with everything that is done to a
text on its way to a chart: cutting, trimming and removing quotes look for characters
that are no letters, and a keyword search lower-cases what it searches anyway. What
holds of two texts that differ in letter case only is read from that.

* `Text.CaseVariant`, `Text.caseVariant_iff` — two texts up to the case of ASCII
  letters.
* `Text.CaseBlind`, `Text.pieces_lowered`, `Text.trim_lowered` — character classes
  without letters.
* `Step.extract_lowered`, `Text.unquote_lowered`, `Keyword.occurs_lowered` — steps,
  labels, keywords.
-/

namespace ProseChart

namespace Text

variable {t u : Text} {c d : Char} {p : Char → Bool}

/-! ## Texts up to letter case -/

/-- Characters that differ at most in the case of an ASCII letter. -/
def CaseVariantChar (c d : Char) : Prop :=
  c = d ∨ c.isAlpha = true ∧ d.isAlpha = true ∧ c.toLower = d.toLower

/-- Texts of one length that differ at most in the case of ASCII letters. -/
def CaseVariant (t u : Text) : Prop := List.Forall₂ CaseVariantChar t u

/-- A text with its ASCII letters in lower case. -/
def lowered (t : Text) : Text := t.map Char.toLower

/-! Capitals have small letters, and nothing else is changed. -/

theorem isUpper_iff : c.isUpper = true ↔ 0x41 ≤ c.toNat ∧ c.toNat ≤ 0x5A := decide_eq_true_iff

theorem isLower_iff : c.isLower = true ↔ 0x61 ≤ c.toNat ∧ c.toNat ≤ 0x7A :=
  Bool.and_eq_true_iff.trans (and_congr decide_eq_true_iff decide_eq_true_iff)

theorem isAlpha_eq (c : Char) : c.isAlpha = (c.isUpper || c.isLower) := rfl

theorem toLower_of_not_isUpper (h : c.isUpper = false) : c.toLower = c :=
  dif_neg (of_decide_eq_false h)

theorem toNat_toLower (h : c.isUpper = true) : c.toLower.toNat = c.toNat + 32 := by
  have hval : c.toLower.val = c.val + 32 := congrArg Char.val (dif_pos (of_decide_eq_true h))
  have hsum : c.toLower.toNat = (c.toNat + 32) % 2 ^ 32 :=
    (congrArg UInt32.toNat hval).trans (UInt32.toNat_add c.val 32)
  have hbounds := isUpper_iff.mp h
  omega

theorem isLower_toLower (h : c.isUpper = true) : c.toLower.isLower = true := by
  have hbounds := isUpper_iff.mp h
  rw [isLower_iff, toNat_toLower h]
  omega

theorem not_isUpper_of_isLower (h : c.isLower = true) : c.isUpper = false := by
  have hbounds := isLower_iff.mp h
  rw [← Bool.not_eq_true, isUpper_iff]
  omega

theorem toLower_of_not_isAlpha (h : c.isAlpha = false) : c.toLower = c :=
  toLower_of_not_isUpper (Bool.or_eq_false_iff.mp h).1

theorem isAlpha_toLower (c : Char) : c.toLower.isAlpha = c.isAlpha := by
  cases hupper : c.isUpper with
  | false => rw [toLower_of_not_isUpper hupper]
  | true =>
    rw [isAlpha_eq, isAlpha_eq, isLower_toLower hupper, hupper, Bool.or_true, Bool.true_or]

theorem toLower_toLower (c : Char) : c.toLower.toLower = c.toLower := by
  cases hupper : c.isUpper with
  | false => rw [toLower_of_not_isUpper hupper, toLower_of_not_isUpper hupper]
  | true => exact toLower_of_not_isUpper (not_isUpper_of_isLower (isLower_toLower hupper))

theorem bounds_of_isAlpha (h : c.isAlpha = true) : 0x41 ≤ c.toNat ∧ c.toNat ≤ 0x7A := by
  rw [isAlpha_eq, Bool.or_eq_true, isUpper_iff, isLower_iff] at h
  omega

theorem caseVariantChar_iff : CaseVariantChar c d ↔ c.toLower = d.toLower := by
  constructor
  · rintro (rfl | ⟨-, -, h⟩)
    · rfl
    · exact h
  · intro h
    have halpha : c.isAlpha = d.isAlpha := by
      rw [← isAlpha_toLower, h, isAlpha_toLower]
    cases hc : c.isAlpha with
    | true => exact Or.inr ⟨hc, halpha ▸ hc, h⟩
    | false =>
      have hd : d.isAlpha = false := halpha ▸ hc
      rw [toLower_of_not_isAlpha hc, toLower_of_not_isAlpha hd] at h
      exact Or.inl h

/-- Lists whose items have the same image, one by one, have the same images. -/
theorem forall₂_iff_map_eq {α β : Type} {R : α → α → Prop} {f : α → β}
    (hf : ∀ {x y}, R x y ↔ f x = f y) {xs ys : List α} :
    List.Forall₂ R xs ys ↔ xs.map f = ys.map f := by
  have hR : R = fun x y => f x = f y := by
    funext x y
    exact propext hf
  rw [← List.forall₂_eq_eq_eq, List.forall₂_map_left_iff, List.forall₂_map_right_iff, hR]

/-- Texts differ in letter case only exactly when they are the same in lower case. -/
theorem caseVariant_iff : CaseVariant t u ↔ lowered t = lowered u :=
  forall₂_iff_map_eq @caseVariantChar_iff

/-! ## Character classes without letters -/

/-- A class to which a letter belongs in both cases or in none. -/
def CaseBlind (p : Char → Bool) : Prop := ∀ c : Char, p c.toLower = p c

/-- A class without letters. -/
theorem caseBlind_of_not_isAlpha (h : ∀ c, p c = true → c.isAlpha = false) : CaseBlind p := by
  intro c
  cases halpha : c.isAlpha with
  | false => rw [toLower_of_not_isAlpha halpha]
  | true =>
    -- the letter is in the class in neither case
    have hlower : c.toLower.isAlpha = true := by rw [isAlpha_toLower, halpha]
    have hnot : ∀ d : Char, d.isAlpha = true → p d = false := by
      intro d hd
      by_contra hp
      simp [h d (by simpa using hp)] at hd
    rw [hnot c halpha, hnot c.toLower hlower]

theorem CaseBlind.comp_toLower (hp : CaseBlind p) : p ∘ Char.toLower = p := funext hp

theorem caseBlind_isQuote : CaseBlind isQuote := by
  apply caseBlind_of_not_isAlpha
  intro c hc
  rcases isQuote_iff.mp hc with rfl | rfl
  · rfl
  · rfl

/-- A text and the text in lower case are cut at the same places. -/
theorem pieces_lowered (hp : CaseBlind p) (t : Text) :
    pieces p (lowered t) = (pieces p t).map lowered := by
  induction t with
  | nil => rfl
  | cons c t ih =>
    have hcons : lowered (c :: t) = c.toLower :: lowered t := rfl
    rw [hcons, pieces, pieces, hp c, ih]
    cases p c with
    | true => rfl
    | false =>
      cases pieces p t with
      | nil => rfl
      | cons piece rest => rfl

theorem trim_lowered (hp : CaseBlind p) (t : Text) : trim p (lowered t) = lowered (trim p t) := by
  rw [trim, trim, trimEnd, trimEnd, lowered, lowered, List.dropWhile_map, hp.comp_toLower,
    ← List.map_reverse, List.dropWhile_map, hp.comp_toLower, List.map_reverse]

theorem unquote_lowered (t : Text) : unquote (lowered t) = lowered (unquote t) := by
  have hblind : (fun c => !isQuote c) ∘ Char.toLower = fun c => !isQuote c :=
    funext fun c => congrArg (!·) (caseBlind_isQuote c)
  rw [unquote, unquote, lowered, lowered, List.filter_map, hblind]

/-! ## Keywords -/

theorem foldChar_of_isAlpha (h : c.isAlpha = true) : foldChar c = [c.toLower] := by
  have hkelvin : c ≠ '\u212A' := by
    rintro rfl
    revert h
    decide
  have hdotted : c ≠ '\u0130' := by
    rintro rfl
    revert h
    decide
  rw [foldChar, if_neg hkelvin, if_neg hdotted]

theorem foldChar_toLower (c : Char) : foldChar c.toLower = foldChar c := by
  cases halpha : c.isAlpha with
  | false => rw [toLower_of_not_isAlpha halpha]
  | true =>
    have hlower : c.toLower.isAlpha = true := by rw [isAlpha_toLower, halpha]
    rw [foldChar_of_isAlpha halpha, foldChar_of_isAlpha hlower, toLower_toLower]

theorem fold_lowered (t : Text) : fold (lowered t) = fold t := by
  rw [fold, fold, lowered, List.flatMap_map]
  simp only [foldChar_toLower]

end Text

/-- A keyword search ignores the case of letters. -/
theorem Keyword.occurs_lowered (family : List Text) (t : Text) :
    occurs family t.lowered = occurs family t := by
  rw [occurs, occurs, Text.fold_lowered]

/-! ## Steps -/

namespace Step

theorem caseBlind_isDelimiter : Text.CaseBlind isDelimiter := by
  apply Text.caseBlind_of_not_isAlpha
  intro c hc
  rcases isDelimiter_iff.mp hc with rfl | rfl | rfl
  · rfl
  · rfl
  · rfl

theorem caseBlind_isMargin : Text.CaseBlind isMargin := by
  apply Text.caseBlind_of_not_isAlpha
  intro c hc
  by_contra halpha
  -- letters lie between U+0041 and U+007A, and the margin has a gap there
  have hletter : 0x41 ≤ c.toNat ∧ c.toNat ≤ 0x7A :=
    Text.bounds_of_isAlpha (by simpa using halpha)
  simp [isMargin] at hc
  omega

/-- The steps of a text in lower case are its steps in lower case. -/
theorem extract_lowered (t : Text) : extract t.lowered = (extract t).map Text.lowered := by
  -- a piece that is all margin is so in both cases, and no other piece is dropped
  have hnonempty : (fun step : Text => !step.isEmpty) ∘ Text.lowered =
      fun step => !step.isEmpty := by
    funext step
    cases step with
    | nil => rfl
    | cons c rest => rfl
  have htrim : Text.trim isMargin ∘ Text.lowered = Text.lowered ∘ Text.trim isMargin :=
    funext (Text.trim_lowered caseBlind_isMargin)
  rw [extract, extract, Text.pieces_lowered caseBlind_isDelimiter, List.map_map, htrim,
    ← List.map_map, List.filter_map, hnonempty]

end Step

end ProseChart

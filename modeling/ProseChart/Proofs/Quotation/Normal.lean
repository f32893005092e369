import ProseChart.Quotation

/-!
# ProseChart.Proofs.Quotation.Normal — what normalizing quotes removes

Normalizing takes every quote character out of a text and puts one pair of double
quotes around the rest. An outer pair that is there already is not counted, but it makes
no other difference: the quotes inside are gone in both cases. So the normalized text
follows from the text without its quotes alone, and normalizing it again finds nothing
to remove.

* `Text.length_unquote`, `Text.sublist_unquote_iff` — what unquoting takes and what it
  leaves.
* `Quotation.wrapped_iff_exists` — the texts with an outer pair.
* `Quotation.converted_normalize`, `Quotation.removed_normalize` — the two results.
* `Quotation.Accounts`, `Quotation.accounts_normalize` — nothing but quotes is removed,
  and all of them are counted.
* `Quotation.IsNormal`, `Quotation.normalize_stable` — the texts that stay as they are,
  and repeated normalization.
-/

namespace ProseChart

/-! ## What unquoting takes and leaves -/

namespace Text

variable {s t : Text}

/-- The number of quote characters of both kinds. -/
def countQuotes (t : Text) : Nat := t.count '\'' + t.count '"'

theorem countQuotes_append (a b : Text) : countQuotes (a ++ b) = countQuotes a + countQuotes b := by
  rw [countQuotes, countQuotes, countQuotes, List.count_append, List.count_append]
  omega

/-- Every character is a quote that goes, or stays. -/
theorem length_unquote (t : Text) : t.unquote.length + t.countQuotes = t.length := by
  induction t with
  | nil => rfl
  | cons c t ih =>
    have hcount : countQuotes (c :: t) = countQuotes [c] + countQuotes t :=
      countQuotes_append [c] t
    have hunquote : unquote (c :: t) = unquote [c] ++ unquote t := unquote_append [c] t
    have hone : (unquote [c]).length + countQuotes [c] = 1 := by
      by_cases hc : isQuote c = true
      · rcases isQuote_iff.mp hc with rfl | rfl
        · rfl
        · rfl
      · have hne : c ≠ '\'' ∧ c ≠ '"' := not_or.mp (mt isQuote_iff.mpr hc)
        simp [unquote, hc, countQuotes, hne.1, hne.2]
    rw [hcount, hunquote, List.length_append, List.length_cons]
    omega

/-- Unquoting keeps every other character, in order: a text without quotes can be had by
taking characters out of `t` exactly when it can be had from `t` without its quotes. -/
theorem sublist_unquote_iff :
    List.Sublist s t.unquote ↔ List.Sublist s t ∧ ∀ c ∈ s, isQuote c = false := by
  constructor
  · intro h
    refine ⟨h.trans List.filter_sublist, ?_⟩
    intro c hc
    exact isQuote_of_mem_unquote (h.subset hc)
  · rintro ⟨h, hs⟩
    have hself : s.unquote = s := unquote_eq_self hs
    rw [← hself]
    exact h.filter _

end Text

namespace Quotation

variable {s t : Text}

/-! ## The outer pair -/

/-- A text with at least two characters that begins and ends with a double quote. -/
def Wrapped (t : Text) : Prop := 2 ≤ t.length ∧ t.head? = some '"' ∧ t.getLast? = some '"'

instance (t : Text) : Decidable (Wrapped t) :=
  inferInstanceAs (Decidable (2 ≤ t.length ∧ t.head? = some '"' ∧ t.getLast? = some '"'))

theorem isWrapped_iff : isWrapped t = true ↔ Wrapped t := by
  simp [isWrapped, Wrapped, and_assoc]

theorem wrapped_wrap (s : Text) : Wrapped (wrap s) := by
  have hlength : 2 ≤ (wrap s).length := by simp [wrap]
  have hlast : (('"' :: s) ++ ['"']).getLast? = some '"' := List.getLast?_concat
  exact ⟨hlength, rfl, hlast⟩

/-- The two quotes of a wrapped text are not the same one, so there is a text between
them. -/
theorem wrapped_iff_exists : Wrapped t ↔ ∃ s, t = wrap s := by
  constructor
  · rintro ⟨hlength, hhead, hlast⟩
    rcases List.getLast?_eq_some_iff.mp hlast with ⟨front, rfl⟩
    cases front with
    | nil => simp at hlength
    | cons c s =>
      obtain rfl : c = '"' := Option.some.inj hhead
      exact ⟨s, rfl⟩
  · rintro ⟨s, rfl⟩
    exact wrapped_wrap s

@[simp] theorem unwrap_wrap (s : Text) : unwrap (wrap s) = s := by
  rw [unwrap, if_pos (isWrapped_iff.mpr (wrapped_wrap s))]
  simp [wrap]

theorem unwrap_of_not_wrapped (h : ¬ Wrapped t) : unwrap t = t := by
  rw [unwrap, if_neg (mt isWrapped_iff.mp h)]

theorem unquote_wrap (s : Text) : (wrap s).unquote = s.unquote := by
  have hwrap : wrap s = ['"'] ++ s ++ ['"'] := rfl
  rw [hwrap, Text.unquote_append, Text.unquote_append]
  simp [Text.unquote, Text.isQuote]

/-- The outer pair makes no difference to what is left without quotes. -/
theorem unquote_unwrap (t : Text) : (unwrap t).unquote = t.unquote := by
  by_cases h : Wrapped t
  · rcases wrapped_iff_exists.mp h with ⟨s, rfl⟩
    rw [unwrap_wrap, unquote_wrap]
  · rw [unwrap_of_not_wrapped h]

/-- The outer pair holds two of the quotes. -/
theorem countQuotes_unwrap (t : Text) :
    (unwrap t).countQuotes + (if Wrapped t then 2 else 0) = t.countQuotes := by
  by_cases h : Wrapped t
  · rcases wrapped_iff_exists.mp h with ⟨s, rfl⟩
    have hwrap : wrap s = ['"'] ++ s ++ ['"'] := rfl
    have hquote : Text.countQuotes ['"'] = 1 := rfl
    rw [if_pos h, unwrap_wrap, hwrap, Text.countQuotes_append, Text.countQuotes_append, hquote]
    omega
  · rw [if_neg h, unwrap_of_not_wrapped h, Nat.add_zero]

/-! ## The two results -/

theorem converted_normalize (d : Text) : (normalize d).converted = wrap d.unquote := by
  rw [normalize, unquote_unwrap]

theorem removed_normalize (d : Text) : (normalize d).removed = (unwrap d).countQuotes := by
  have hlength := Text.length_unquote (unwrap d)
  show ((unwrap d).length - (unwrap d).unquote.length : Int) = (unwrap d).countQuotes
  omega

/-- What normalizing does to a text. -/
structure Accounts (d : Text) : Prop where
  /-- The text without its quotes is put between double quotes. -/
  converted : (normalize d).converted = '"' :: (d.unquote ++ ['"'])
  /-- All quotes are counted, except for an outer pair of double quotes. -/
  removed : (normalize d).removed = d.countQuotes - if Wrapped d then 2 else 0
  /-- Counted quotes make up for the difference in length, where the outer pair is new. -/
  length : (normalize d).converted.length + (normalize d).removed =
    d.length + if Wrapped d then 0 else 2
  /-- The count is not negative. -/
  removed_nonneg : 0 ≤ (normalize d).removed
  /-- Every other character is kept, in order: what can be had without quotes by taking
  characters out of the text can be had from what is put between the quotes. -/
  kept : ∀ s : Text, List.Sublist s d.unquote ↔
    List.Sublist s d ∧ ∀ c ∈ s, Text.isQuote c = false

/-- Nothing but quote characters is removed, and the count is exact. -/
theorem accounts_normalize (d : Text) : Accounts d := by
  have hremoved := removed_normalize d
  have hcount := countQuotes_unwrap d
  have hlength := Text.length_unquote d
  constructor
  case converted => exact converted_normalize d
  case removed =>
    rw [hremoved]
    by_cases h : Wrapped d
    · rw [if_pos h] at hcount ⊢
      omega
    · rw [if_neg h] at hcount ⊢
      omega
  case length =>
    rw [hremoved, converted_normalize, wrap, List.length_cons, List.length_append,
      List.length_singleton]
    by_cases h : Wrapped d
    · rw [if_pos h] at hcount ⊢
      omega
    · rw [if_neg h] at hcount ⊢
      omega
  case removed_nonneg =>
    rw [hremoved]
    exact Int.natCast_nonneg _
  case kept => exact fun s => Text.sublist_unquote_iff

/-! ## Repeated normalization -/

/-- A double quote, a text without quotes, and a double quote. -/
def IsNormal (t : Text) : Prop :=
  ∃ s : Text, (∀ c ∈ s, Text.isQuote c = false) ∧ t = '"' :: (s ++ ['"'])

/-- Whatever is normalized becomes normal. -/
theorem isNormal_converted (d : Text) : IsNormal (normalize d).converted :=
  ⟨d.unquote, fun _ hc => Text.isQuote_of_mem_unquote hc, converted_normalize d⟩

/-- Nothing is removed from what is normal. -/
theorem normalize_of_isNormal (h : IsNormal t) : normalize t = ⟨t, 0⟩ := by
  rcases h with ⟨s, hs, rfl⟩
  have hself : s.unquote = s := Text.unquote_eq_self hs
  have hunwrap : unwrap ('"' :: (s ++ ['"'])) = s := unwrap_wrap s
  rw [normalize, hunwrap, hself, Int.sub_self, wrap]

/-- Passes over a normal text are all the same. The induction is on their number. -/
theorem passes_of_isNormal (h : IsNormal t) (n : Nat) :
    passes t n = List.replicate n ⟨t, 0⟩ := by
  induction n with
  | zero => rfl
  | succ n ih => rw [passes, normalize_of_isNormal h, ih, List.replicate_succ]

/-- Normalizing is stable: from the second pass on nothing changes and nothing is
removed, and the texts that stay as they are from the first pass on are the normal
ones. -/
theorem normalize_stable :
    (∀ (d : Text) (n : Nat),
      passes d (n + 1) = normalize d :: List.replicate n ⟨(normalize d).converted, 0⟩) ∧
    (∀ t : Text, (normalize t).converted = t ↔ IsNormal t) ∧
    (∀ t : Text, normalize t = ⟨t, 0⟩ ↔ IsNormal t) := by
  refine ⟨?_, ?_, ?_⟩
  · intro d n
    rw [passes, passes_of_isNormal (isNormal_converted d)]
  · intro t
    constructor
    · intro h
      rw [← h]
      exact isNormal_converted t
    · intro h
      rw [normalize_of_isNormal h]
  · intro t
    constructor
    · intro h
      have hconverted : (normalize t).converted = t := by rw [h]
      rw [← hconverted]
      exact isNormal_converted t
    · exact normalize_of_isNormal

/-- Quotes at both ends that belong to different words are taken for the outer pair. -/
example : passes "\"Yes\" or 'no\"" 3 =
    [⟨"\"Yes or no\"", 2⟩, ⟨"\"Yes or no\"", 0⟩, ⟨"\"Yes or no\"", 0⟩] := by decide

/-- One double quote is no pair. -/
example : normalize "\"" = ⟨"\"\"", 1⟩ := by decide

end Quotation

end ProseChart

import Mathlib.Data.List.Nodup
import ProseChart.Proofs.Text.Cut
import ProseChart.Proofs.Text.Fold

/-!
# ProseChart.Proofs.Review.Composition — reviews of texts that are put together

A keyword that stands in a part of a text stands in the whole text. No keyword has a
delimiter in it, so none stands across one, and where two texts are joined by a
delimiter a keyword stands in one of them. A review is a report on keywords: text that
is added closes gaps and opens none, and of two joined texts the gaps are those that
both have.

Lower-casing a joined text is not the same as lower-casing its parts, since a letter
may look at its surroundings, even beyond a delimiter. The statements therefore speak
about any lower-case forms of the whole and of the parts.

* `Keyword.Apart` — characters that no keyword reaches across.
* `Keyword.occurs_of_isInfix`, `Keyword.occurs_append_cons` — a keyword search in parts.
* `Review.gaps_append_cons` — the gaps of joined texts.
* `Review.Covers`, `Review.Joins`, `Review.completeness_composes` — what reviews say.
-/

namespace ProseChart

/-! ## Keywords in parts of a text -/

/-- Folding goes through parts of a text. -/
theorem Text.fold_isInfix {t u : Text} (h : t <:+: u) : t.fold <:+: u.fold := by
  rcases h with ⟨a, b, rfl⟩
  rw [fold_append, fold_append]
  exact List.infix_append _ _ _

/-- Delimiters have no case. -/
theorem Step.foldChar_of_isDelimiter {c : Char} (hc : isDelimiter c = true) :
    Text.foldChar c = [c] := by
  rcases isDelimiter_iff.mp hc with rfl | rfl | rfl
  · rfl
  · rfl
  · rfl

namespace Keyword

variable {family : List Text} {word t u : Text} {c : Char}

/-- There is no delimiter in a keyword. -/
theorem no_delimiter_of_mem_all :
    ∀ family ∈ all, ∀ word ∈ family, ∀ c ∈ word, Step.isDelimiter c = false := by
  have hall : (all.all fun family => family.all fun word =>
      word.all fun c => !Step.isDelimiter c) = true := by
    decide +kernel
  simpa only [List.all_eq_true, Bool.not_eq_true'] using hall

/-- What occurs in a part of a text occurs in the text. -/
theorem occurs_of_isInfix (h : t <:+: u) (ht : occurs family t = true) :
    occurs family u = true := by
  rw [occurs_iff] at ht ⊢
  rcases ht with ⟨word, hword, hinfix⟩
  exact ⟨word, hword, hinfix.trans (Text.fold_isInfix h)⟩

/-- A character that is in no keyword, and that stays as it is in lower case. -/
structure Apart (c : Char) : Prop where
  fold : Text.foldChar c = [c]
  absent : ∀ family ∈ all, ∀ word ∈ family, c ∉ word

theorem apart_of_isDelimiter (hc : Step.isDelimiter c = true) : Apart c where
  fold := Step.foldChar_of_isDelimiter hc
  absent := by
    intro family hfamily word hword hmem
    have hnone : Step.isDelimiter c = false :=
      no_delimiter_of_mem_all family hfamily word hword c hmem
    rw [hc] at hnone
    cases hnone

/-- A keyword stands on one side of such a character. -/
theorem infix_fold_append_cons_iff (hfamily : family ∈ all) (hword : word ∈ family)
    (hc : Apart c) : word <:+: Text.fold (t ++ c :: u) ↔ word <:+: t.fold ∨ word <:+: u.fold := by
  have hfold : Text.fold (t ++ c :: u) = t.fold ++ c :: u.fold :=
    calc Text.fold (t ++ c :: u)
        = t.fold ++ (Text.foldChar c ++ u.fold) := Text.fold_append t (c :: u)
      _ = t.fold ++ c :: u.fold := by rw [hc.fold, List.singleton_append]
  rw [hfold]
  exact Text.infix_append_cons_iff (hc.absent family hfamily word hword)

/-- A family occurs in joined texts exactly when it occurs in one of them. -/
theorem occurs_append_cons (hfamily : family ∈ all) (hc : Apart c) :
    occurs family (t ++ c :: u) = true ↔ occurs family t = true ∨ occurs family u = true := by
  simp only [occurs_iff]
  constructor
  · rintro ⟨word, hword, hinfix⟩
    rcases (infix_fold_append_cons_iff hfamily hword hc).mp hinfix with ht | hu
    · exact Or.inl ⟨word, hword, ht⟩
    · exact Or.inr ⟨word, hword, hu⟩
  · rintro (⟨word, hword, ht⟩ | ⟨word, hword, hu⟩)
    · exact ⟨word, hword, (infix_fold_append_cons_iff hfamily hword hc).mpr (Or.inl ht)⟩
    · exact ⟨word, hword, (infix_fold_append_cons_iff hfamily hword hc).mpr (Or.inr hu)⟩

end Keyword

/-! ## Reports -/

/-- No two gaps are worded alike. -/
theorem Gap.wording_injective : Function.Injective wording := by
  intro gap gap'
  cases gap <;> cases gap' <;> decide

namespace Review

variable {d t : Text}

/-- A report names the gaps. -/
theorem wording_mem_missing {gap : Gap} :
    gap.wording ∈ (ofDescription d).missing ↔ gap ∈ gaps d :=
  List.mem_map_of_injective Gap.wording_injective

/-- A report names no gap twice. -/
theorem nodup_missing (d : Text) : (ofDescription d).missing.Nodup := by
  have hall : Gap.all.Nodup := by decide
  exact (hall.filter _).map Gap.wording_injective

/-- A description is complete when all families occur in it. -/
theorem isComplete_iff :
    (ofDescription d).isComplete = true ↔ ∀ gap : Gap, Keyword.occurs gap.family d = true := by
  have hcomplete : (ofDescription d).isComplete = true ↔ ∀ gap : Gap, gap ∉ gaps d := by
    rw [ofDescription, List.isEmpty_iff, List.eq_nil_iff_forall_not_mem]
  rw [hcomplete]
  apply forall_congr'
  intro gap
  rw [mem_gaps, Bool.not_eq_false]

/-- The whole text has no gap that a part of it has not. -/
theorem gaps_subset_of_isInfix (h : d <:+: t) : gaps t ⊆ gaps d := by
  intro gap hgap
  rw [mem_gaps] at hgap ⊢
  by_contra hd
  have ht : Keyword.occurs gap.family t = true :=
    Keyword.occurs_of_isInfix h (by simpa using hd)
  rw [hgap] at ht
  cases ht

/-- Joined texts have the gaps that both have. -/
theorem gaps_append_cons (d₁ d₂ : Text) {c : Char} (hc : Step.isDelimiter c = true) :
    gaps (d₁ ++ c :: d₂) = Gap.all.filter fun gap => gap ∈ gaps d₁ ∧ gap ∈ gaps d₂ := by
  apply List.filter_congr
  intro gap _
  have hoccurs := Keyword.occurs_append_cons (t := d₁) (u := d₂) gap.family_mem_all
    (Keyword.apart_of_isDelimiter hc)
  rw [Bool.eq_iff_iff, decide_eq_true_iff, Bool.not_eq_true', mem_gaps, mem_gaps,
    ← Bool.not_eq_true, hoccurs, not_or, Bool.not_eq_true, Bool.not_eq_true]

/-- What the review of a text `t` says with a view to the text `d` in it. -/
structure Covers (t d : Text) : Prop where
  /-- What is missing in the whole text is missing in the part. -/
  missing : ∀ item ∈ (ofDescription t).missing, item ∈ (ofDescription d).missing
  /-- A complete part makes the whole text complete. -/
  isComplete : (ofDescription d).isComplete = true → (ofDescription t).isComplete = true
  /-- The keywords in the part, in lower case, are in the whole text, in lower case. -/
  keywords : ∀ s s', Text.LowerCase t s → Text.LowerCase d s' →
    ∀ gap : Gap, ∀ word ∈ gap.family, word <:+: s' → word <:+: s

/-- What the review of a text `t` says that is put together from two. -/
structure Joins (d₁ d₂ t : Text) : Prop where
  /-- The items that both texts miss are missing, in the fixed order. -/
  missing : (ofDescription t).missing =
    [Gap.start.wording, Gap.connections.wording, Gap.decisions.wording].filter fun item =>
      item ∈ (ofDescription d₁).missing ∧ item ∈ (ofDescription d₂).missing
  /-- No missing item is named twice. -/
  nodup : (ofDescription t).missing.Nodup
  /-- The text is complete exactly when each family occurs in one of the two. -/
  isComplete_iff : (ofDescription t).isComplete = true ↔
    ∀ gap : Gap, Keyword.occurs gap.family d₁ = true ∨ Keyword.occurs gap.family d₂ = true
  /-- A keyword stands in the text in lower case exactly when it stands in one of the two
  in lower case, however the letters come out in the three. -/
  keywords : ∀ s s₁ s₂, Text.LowerCase t s → Text.LowerCase d₁ s₁ → Text.LowerCase d₂ s₂ →
    ∀ gap : Gap, ∀ word ∈ gap.family, word <:+: s ↔ word <:+: s₁ ∨ word <:+: s₂

theorem covers_of_isInfix (h : d <:+: t) : Covers t d where
  missing := List.map_subset Gap.wording (gaps_subset_of_isInfix h)
  isComplete := by
    intro hd
    rw [isComplete_iff] at hd ⊢
    intro gap
    exact Keyword.occurs_of_isInfix h (hd gap)
  keywords := by
    intro s s' hs hs' gap word hword hinfix
    rw [Keyword.infix_iff_of_lowerCase gap.family_mem_all hword hs'] at hinfix
    rw [Keyword.infix_iff_of_lowerCase gap.family_mem_all hword hs]
    exact hinfix.trans (Text.fold_isInfix h)

theorem joins_append_cons (d₁ d₂ : Text) {c : Char} (hc : Step.isDelimiter c = true) :
    Joins d₁ d₂ (d₁ ++ c :: d₂) where
  missing := by
    have hcomp : (fun gap : Gap => decide (gap ∈ gaps d₁ ∧ gap ∈ gaps d₂)) =
        (fun item => decide (item ∈ (ofDescription d₁).missing ∧
          item ∈ (ofDescription d₂).missing)) ∘ Gap.wording := by
      funext gap
      simp only [Function.comp, wording_mem_missing]
    calc (ofDescription (d₁ ++ c :: d₂)).missing
        = (gaps (d₁ ++ c :: d₂)).map Gap.wording := rfl
      _ = (Gap.all.map Gap.wording).filter fun item =>
            item ∈ (ofDescription d₁).missing ∧ item ∈ (ofDescription d₂).missing := by
          rw [gaps_append_cons d₁ d₂ hc, hcomp, List.filter_map]
  nodup := nodup_missing _
  isComplete_iff := by
    rw [Review.isComplete_iff]
    apply forall_congr'
    intro gap
    exact Keyword.occurs_append_cons gap.family_mem_all (Keyword.apart_of_isDelimiter hc)
  keywords := by
    intro s s₁ s₂ hs hs₁ hs₂ gap word hword
    rw [Keyword.infix_iff_of_lowerCase gap.family_mem_all hword hs,
      Keyword.infix_iff_of_lowerCase gap.family_mem_all hword hs₁,
      Keyword.infix_iff_of_lowerCase gap.family_mem_all hword hs₂,
      Keyword.infix_fold_append_cons_iff gap.family_mem_all hword (Keyword.apart_of_isDelimiter hc)]

/-- Reviews compose: text that is added around a description never opens a gap, and
two descriptions that a delimiter joins have the gaps that both have. What is reported
as missing is the same in whichever lower-case form the keywords are looked up. -/
theorem completeness_composes :
    (∀ a d b : Text, Covers (a ++ d ++ b) d) ∧
    (∀ (d₁ d₂ : Text) (c : Char), c = '.' ∨ c = ',' ∨ c = '\n' →
      Joins d₁ d₂ (d₁ ++ c :: d₂)) ∧
    (∀ t s : Text, Text.LowerCase t s → (ofDescription t).missing =
      (Gap.all.filter fun gap => !gap.family.any (Text.mentions · s)).map Gap.wording) := by
  refine ⟨?_, ?_, ?_⟩
  · intro a d b
    exact covers_of_isInfix (List.infix_append a d b)
  · intro d₁ d₂ c hc
    exact joins_append_cons d₁ d₂ (Step.isDelimiter_iff.mpr hc)
  · intro t s hs
    exact congrArg (List.map Gap.wording) (gaps_eq_of_lowerCase hs)

/-- The capital sigma ends the first text and stands in front of a full stop with a letter
behind it in the joined one. -/
theorem joins_sigmaCheck :
    (('.' = '.' ∨ '.' = ',' ∨ '.' = '\n') ∧
      Joins "First ΟΔΟΣ" "Then stop" ("First ΟΔΟΣ".toList ++ '.' :: "Then stop".toList)) ∧
    Text.LowerCase ("First ΟΔΟ".toList ++ ['Σ']) (Text.fold "First ΟΔΟ" ++ ['ς']) ∧
      (ofDescription "First ΟΔΟΣ").missing =
        (Gap.all.filter fun gap =>
          !gap.family.any (Text.mentions · (Text.fold "First ΟΔΟ" ++ ['ς']))).map Gap.wording := by
  have hlower : Text.LowerCase ("First ΟΔΟ".toList ++ ['Σ']) (Text.fold "First ΟΔΟ" ++ ['ς']) :=
    Text.lowerCase_final_sigma "First ΟΔΟ"
  exact ⟨⟨by decide, completeness_composes.2.1 _ _ _ (by decide)⟩, hlower,
    completeness_composes.2.2 _ _ hlower⟩

example : gaps "First ΟΔΟΣ" = [.connections, .decisions] ∧
    gaps "Then stop" = [.start, .decisions] ∧
    gaps "First ΟΔΟΣ.Then stop" = [.decisions] := by decide +kernel

end Review

end ProseChart

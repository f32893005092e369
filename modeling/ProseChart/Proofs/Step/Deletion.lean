import ProseChart.Proofs.Chart.Label

/-!
# ProseChart.Proofs.Step.Deletion — steps of a text with characters left out

Leaving characters out of a description and taking its steps can be done in either
order, as long as no delimiter is left out. The text is cut at the same places then.
Margin that comes to the end of a step because the characters outside it are gone is
trimmed with the step in one order and has to be trimmed again in the other one, where
nothing may be left of the step. Quotes are characters of this kind.

* `Text.pieces_filter` — pieces with characters left out.
* `Text.trim_filter_trim` — trimming before characters are left out is not needed.
* `Step.extract_filter` — the steps that are left.
* `Step.extract_unquote` — what a description is drawn as without its quotes.
-/

namespace ProseChart

namespace Text

variable {p keep : Char → Bool}

/-- A text is cut at the same places when no cut is left out. -/
theorem pieces_filter (hkeep : ∀ c, p c = true → keep c = true) (t : Text) :
    pieces p (t.filter keep) = (pieces p t).map (List.filter keep) := by
  induction t with
  | nil => rfl
  | cons c t ih =>
    by_cases hcut : p c = true
    · have hstays : keep c = true := hkeep c hcut
      rw [List.filter_cons_of_pos hstays, pieces, pieces, if_pos hcut, if_pos hcut, ih]
      rfl
    · -- the character belongs to the first piece, or is left out of it
      rcases List.exists_cons_of_ne_nil (pieces_ne_nil p t) with ⟨piece, others, hpieces⟩
      have hcons : pieces p (c :: t) = (c :: piece) :: others := by
        rw [pieces, if_neg hcut, hpieces]
        rfl
      rw [hpieces] at ih
      by_cases hstays : keep c = true
      · rw [List.filter_cons_of_pos hstays, pieces, if_neg hcut, ih, hcons, List.map_cons,
          List.map_cons, List.modifyHead_cons, List.filter_cons_of_pos hstays]
      · rw [List.filter_cons_of_neg hstays, ih, hcons, List.map_cons, List.map_cons,
          List.filter_cons_of_neg hstays]

/-- Trimming once more, after characters are left out, makes up for not trimming before. -/
theorem trim_filter_trim (p keep : Char → Bool) (t : Text) :
    trim p ((trim p t).filter keep) = trim p (t.filter keep) := by
  rcases exists_eq_append_trim p t with ⟨front, back, heq, hfront, hback⟩
  have hfilter : t.filter keep =
      front.filter keep ++ ((trim p t).filter keep ++ back.filter keep) := by
    rw [← List.filter_append, ← List.filter_append, ← heq]
  have hfront' : ∀ c ∈ front.filter keep, p c = true :=
    fun c hc => hfront c (List.mem_of_mem_filter hc)
  have hback' : ∀ c ∈ back.filter keep, p c = true :=
    fun c hc => hback c (List.mem_of_mem_filter hc)
  rw [hfilter, trim_surrounded hfront' hback']

end Text

namespace Step

variable {keep : Char → Bool} {c : Char}

/-- The texts that are not empty, in order. -/
def present (texts : List Text) : List Text := texts.filter fun t => !t.isEmpty

/-- A function that makes nothing of the empty text may be applied to it or not. -/
theorem present_map_present {f : Text → Text} (hf : f [] = []) (texts : List Text) :
    present ((present texts).map f) = present (texts.map f) := by
  unfold present
  rw [List.filter_map, List.filter_map, List.filter_filter]
  congr 1
  apply List.filter_congr
  intro t _
  by_cases ht : t = []
  · simp [ht, hf]
  · simp [ht]

/-- The steps of a text from which characters other than delimiters are left out are the
steps of the text, with the characters left out, trimmed again, and without those of which
nothing is left. -/
theorem extract_filter (hkeep : ∀ c, isDelimiter c = true → keep c = true) (t : Text) :
    extract (t.filter keep) =
      present (((extract t).map (List.filter keep)).map (Text.trim isMargin)) := by
  let cleared : Text → Text := fun s => Text.trim isMargin (s.filter keep)
  have hcleared : cleared [] = [] := rfl
  have htrim : ∀ piece : Text, cleared (Text.trim isMargin piece) = cleared piece :=
    Text.trim_filter_trim isMargin keep
  let pieces := t.pieces isDelimiter
  calc extract (t.filter keep)
      = present ((pieces.map (List.filter keep)).map (Text.trim isMargin)) := by
        rw [extract, Text.pieces_filter hkeep]
        rfl
    _ = present ((pieces.map (Text.trim isMargin)).map cleared) := by
        rw [List.map_map, List.map_map]
        congr 1
        apply List.map_congr_left
        intro piece _
        exact (htrim piece).symm
    _ = present ((present (pieces.map (Text.trim isMargin))).map cleared) :=
        (present_map_present hcleared _).symm
    _ = present (((extract t).map (List.filter keep)).map (Text.trim isMargin)) := by
        rw [List.map_map]
        rfl

/-- A delimiter that is left out joins the steps on its two sides. -/
example : extract (List.filter (· != '.') "Pack. Ship") = ["Pack Ship"] ∧
    extract "Pack. Ship" = ["Pack", "Ship"] := by decide

theorem isQuote_of_isDelimiter (h : isDelimiter c = true) : Text.isQuote c = false := by
  rcases isDelimiter_iff.mp h with rfl | rfl | rfl
  all_goals rfl

/-- A text without quotes has steps without quotes. -/
theorem map_unquote_extract_unquote (t : Text) :
    (extract t.unquote).map Text.unquote = extract t.unquote := by
  have hself : ∀ s ∈ extract t.unquote, s.unquote = s := by
    intro s hs
    apply Text.unquote_eq_self
    intro c hc
    exact Text.isQuote_of_mem_unquote ((infix_of_mem_extract hs).subset hc)
  rw [List.map_congr_left hself, List.map_id']

/-- Removing the quotes of a description gives the steps that come from removing the
quotes of each of its steps, trimming what is left and dropping what is empty, in order.
So the chart of the description without its quotes has the labels of its chart, trimmed,
without the blank ones. -/
theorem extract_unquote (d : Text) :
    extract d.unquote = present (((extract d).map Text.unquote).map (Text.trim isMargin)) ∧
      (Chart.ofDescription d.unquote).nodes.map Node.label =
        present (((Chart.ofDescription d).nodes.map Node.label).map (Text.trim isMargin)) := by
  have hkeep : ∀ c, isDelimiter c = true → (!Text.isQuote c) = true := by
    intro c hc
    rw [isQuote_of_isDelimiter hc]
    rfl
  have hsteps : extract d.unquote =
      present (((extract d).map Text.unquote).map (Text.trim isMargin)) := extract_filter hkeep d
  refine ⟨hsteps, ?_⟩
  rw [Chart.ofDescription, Chart.ofDescription, Chart.labels_ofSteps, Chart.labels_ofSteps,
    map_unquote_extract_unquote, hsteps]

end Step

end ProseChart

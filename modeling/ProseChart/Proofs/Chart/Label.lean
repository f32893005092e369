import ProseChart.Chart.Mermaid
import ProseChart.Proofs.Quotation.Normal
import ProseChart.Proofs.Step.Layout
import ProseChart.Review

/-!
# ProseChart.Proofs.Chart.Label — what losing its quotes does to a step

A step is not empty and has no margin at its ends. Its label is the step without
quote characters, and is not trimmed again. So a label can be empty, or have margin at
an end, but only where quotes stood at that end: a label is a step itself unless its
step has nothing but quotes, or quotes with margin right behind them, read from the
front or from the back.

* `Step.extract_eq_singleton_iff` — the texts that are extracted as they are.
* `Text.OpensOnMargin` — quotes with margin right behind them.
* `Step.isStep_unquote_iff` — when a label is a step.
* `Chart.Labelled`, `Chart.labelled` — the labels of a chart.
* `Chart.EndsBlank`, `Chart.endsBlank_of_extract` — a full stop before a closing quote
  leaves a blank node behind.
-/

namespace ProseChart

/-- The text without its quote characters begins with the first other one. -/
theorem Text.head?_unquote (t : Text) : t.unquote.head? = t.find? (!isQuote ·) :=
  List.head?_filter

theorem Text.unquote_reverse (t : Text) : unquote t.reverse = t.unquote.reverse :=
  List.filter_reverse

/-- Quotes at the beginning, and margin right behind them. -/
def Text.OpensOnMargin (t : Text) : Prop :=
  ∃ quotes c rest, t = quotes ++ c :: rest ∧ quotes ≠ [] ∧ (∀ q ∈ quotes, isQuote q = true) ∧
    Step.isMargin c = true

namespace Step

variable {t s : Text} {c : Char}

/-- What is extracted as it is. -/
theorem extract_eq_singleton_iff : extract t = [t] ↔ IsStep t := by
  constructor
  · intro h
    exact isStep_of_mem_extract (h ▸ List.mem_singleton_self t)
  · intro h
    have hgap : IsGap [] := by simp [IsGap]
    simpa using extract_step_gap h hgap

theorem isQuote_of_isMargin (h : isMargin c = true) : Text.isQuote c = false := by
  by_contra hquote
  have hcases : c = '\'' ∨ c = '"' := Text.isQuote_iff.mp (by simpa using hquote)
  rcases hcases with rfl | rfl
  · cases h
  · cases h

/-! ## One label -/

theorem unquote_eq_nil_iff : s.unquote = [] ↔ ∀ c ∈ s, Text.isQuote c = true := by
  simp [Text.unquote]

/-- Margin comes to the front of a text that had none there exactly where it stood
behind quotes. -/
theorem exists_margin_head?_unquote_iff (h : ∀ c ∈ s.head?, isMargin c = false) :
    (∃ c ∈ s.unquote.head?, isMargin c = true) ↔ s.OpensOnMargin := by
  rw [Text.head?_unquote]
  constructor
  · rintro ⟨c, hfind, hmargin⟩
    rcases List.find?_eq_some_iff_append.mp hfind with ⟨-, quotes, rest, rfl, hquotes⟩
    refine ⟨quotes, c, rest, rfl, ?_, fun q hq => by simpa using hquotes q hq, hmargin⟩
    rintro rfl
    simp [h c rfl] at hmargin
  · rintro ⟨quotes, c, rest, rfl, -, hquotes, hmargin⟩
    refine ⟨c, ?_, hmargin⟩
    refine List.find?_eq_some_iff_append.mpr ⟨?_, quotes, rest, rfl, ?_⟩
    · simp [isQuote_of_isMargin hmargin]
    · intro q hq
      simp [hquotes q hq]

/-- Margin comes to the back of a text that had none there exactly where it stood in
front of quotes. -/
theorem exists_margin_getLast?_unquote_iff (h : ∀ c ∈ s.getLast?, isMargin c = false) :
    (∃ c ∈ s.unquote.getLast?, isMargin c = true) ↔ Text.OpensOnMargin s.reverse := by
  have hlast : ∀ c ∈ s.reverse.head?, isMargin c = false := by rwa [List.head?_reverse]
  rw [← exists_margin_head?_unquote_iff hlast, Text.unquote_reverse, List.head?_reverse]

/-- The label of a step is a step again unless the step is nothing but quotes, or has
quotes with margin right behind them at one of its ends. -/
theorem isStep_unquote_iff (hs : IsStep s) :
    IsStep s.unquote ↔
      ¬ (∀ c ∈ s, Text.isQuote c = true) ∧ ¬ s.OpensOnMargin ∧ ¬ Text.OpensOnMargin s.reverse := by
  rw [← unquote_eq_nil_iff, ← exists_margin_head?_unquote_iff hs.head,
    ← exists_margin_getLast?_unquote_iff hs.last]
  constructor
  · intro h
    refine ⟨h.ne_nil, ?_, ?_⟩
    · rintro ⟨c, hc, hmargin⟩
      simp [h.head c hc] at hmargin
    · rintro ⟨c, hc, hmargin⟩
      simp [h.last c hc] at hmargin
  · rintro ⟨hne, hhead, hlast⟩
    refine ⟨hne, ?_, ?_, ?_⟩
    · -- no delimiter comes in with the quotes gone
      intro c hc
      exact hs.no_delimiter c (List.mem_of_mem_filter hc)
    · intro c hc
      by_contra hmargin
      exact hhead ⟨c, hc, by simpa using hmargin⟩
    · intro c hc
      by_contra hmargin
      exact hlast ⟨c, hc, by simpa using hmargin⟩

/-- A step without quotes at its ends keeps its ends. -/
theorem isStep_unquote_of_bare (hs : IsStep s) (hhead : ∀ c ∈ s.head?, Text.isQuote c = false)
    (hlast : ∀ c ∈ s.getLast?, Text.isQuote c = false) : IsStep s.unquote := by
  have hopens : ∀ t : Text, (∀ c ∈ t.head?, Text.isQuote c = false) → ¬ t.OpensOnMargin := by
    rintro t ht ⟨quotes, c, rest, rfl, hne, hquotes, -⟩
    cases quotes with
    | nil => exact hne rfl
    | cons q quotes =>
      have hq : Text.isQuote q = true := hquotes q List.mem_cons_self
      simp [ht q rfl] at hq
  refine (isStep_unquote_iff hs).mpr ⟨?_, hopens s hhead, hopens s.reverse ?_⟩
  · intro hquotes
    rcases List.exists_cons_of_ne_nil hs.ne_nil with ⟨c, rest, rfl⟩
    have hc : Text.isQuote c = true := hquotes c List.mem_cons_self
    simp [hhead c rfl] at hc
  · rwa [List.head?_reverse]

end Step

/-! ## The labels of a chart -/

namespace Chart

/-- The labels of the chart of a description. -/
structure Labelled (d : Text) : Prop where
  /-- Every step is a text that is extracted as it is, not empty and trimmed. -/
  steps : ∀ s ∈ Step.extract d, Step.IsStep s ∧ Step.extract s = [s]
  /-- There is one node a step, with the step without its quotes as its label. -/
  labels : (ofDescription d).nodes.map Node.label = (Step.extract d).map Text.unquote
  /-- A label is empty exactly when its step has nothing but quotes. -/
  empty_iff : ∀ s ∈ Step.extract d, s.unquote = [] ↔ ∀ c ∈ s, Text.isQuote c = true
  /-- A label begins with margin exactly when its step opens on quotes with margin
  behind them. -/
  head_iff : ∀ s ∈ Step.extract d,
    (∃ c ∈ s.unquote.head?, Step.isMargin c = true) ↔ s.OpensOnMargin
  /-- A label ends with margin exactly when its step opens so from the back. -/
  last_iff : ∀ s ∈ Step.extract d,
    (∃ c ∈ s.unquote.getLast?, Step.isMargin c = true) ↔ Text.OpensOnMargin s.reverse
  /-- A label that is not empty and has no margin at its ends is extracted as it is. -/
  usable_iff : ∀ s ∈ Step.extract d, Step.extract s.unquote = [s.unquote] ↔
    ¬ (∀ c ∈ s, Text.isQuote c = true) ∧ ¬ s.OpensOnMargin ∧ ¬ Text.OpensOnMargin s.reverse
  /-- A label is extracted as it is when no quote stands at an end of its step. -/
  bare : ∀ s ∈ Step.extract d, (∀ c ∈ s.head?, Text.isQuote c = false) →
    (∀ c ∈ s.getLast?, Text.isQuote c = false) → Step.extract s.unquote = [s.unquote]

theorem labels_ofSteps (steps : List Text) :
    (ofSteps steps).nodes.map Node.label = steps.map Text.unquote := by
  apply List.ext_getElem
  · simp [ofSteps, Node.ofSteps]
  · intro k hk hk'
    simp [ofSteps, Node.ofSteps]

theorem labelled (d : Text) : Labelled d where
  steps := by
    intro s hs
    have hstep := Step.isStep_of_mem_extract hs
    exact ⟨hstep, Step.extract_eq_singleton_iff.mpr hstep⟩
  labels := labels_ofSteps (Step.extract d)
  empty_iff := fun _ _ => Step.unquote_eq_nil_iff
  head_iff := fun _ hs =>
    Step.exists_margin_head?_unquote_iff (Step.isStep_of_mem_extract hs).head
  last_iff := fun _ hs =>
    Step.exists_margin_getLast?_unquote_iff (Step.isStep_of_mem_extract hs).last
  usable_iff := by
    intro s hs
    rw [Step.extract_eq_singleton_iff, Step.isStep_unquote_iff (Step.isStep_of_mem_extract hs)]
  bare := by
    intro s hs hhead hlast
    exact Step.extract_eq_singleton_iff.mpr
      (Step.isStep_unquote_of_bare (Step.isStep_of_mem_extract hs) hhead hlast)

/-! ## Charts that end on an empty label -/

/-- The chart and the preview of a description end on a step without a label. -/
structure EndsBlank (d : Text) : Prop where
  node : (ofDescription d).nodes.getLast? =
    some ⟨Node.idAt (ofDescription d).nodes.length, []⟩
  line : indent ++ Node.idAt (ofDescription d).nodes.length ++ "[\"\"]" ∈ (ofDescription d).lines
  preview : ∃ before, (Review.ofDescription d).preview =
    before ++ Text.line (Text.ofNat (ofDescription d).nodes.length ++ ". ")

/-- A last step with nothing but quotes leaves nothing to show. -/
theorem endsBlank_of_extract {d last : Text} {steps : List Text}
    (h : Step.extract d = steps ++ [last]) (hlast : last.unquote = []) : EndsBlank d := by
  have hlength : (ofDescription d).nodes.length = steps.length + 1 := by
    rw [ofDescription, length_nodes_ofSteps, h, List.length_append, List.length_singleton]
  have hnodes : (ofDescription d).nodes =
      Node.ofSteps steps ++ [⟨Node.idAt (steps.length + 1 : Nat), []⟩] := by
    rw [ofDescription, h, ofSteps, Node.ofSteps, List.mapIdx_concat, hlast]
    rfl
  constructor
  case node => rw [hlength, hnodes, List.getLast?_concat]
  case line =>
    have hmem : ⟨Node.idAt (steps.length + 1 : Nat), []⟩ ∈ (ofDescription d).nodes := by
      rw [hnodes]
      exact List.mem_concat_self
    have hline : indent ++ Node.idAt (steps.length + 1 : Nat) ++ "[\"\"]" =
        Node.mermaid ⟨Node.idAt (steps.length + 1 : Nat), []⟩ := by
      simp [Node.mermaid]
    rw [hlength, hline]
    exact List.mem_cons_of_mem header (List.mem_append_left _ (List.mem_map_of_mem hmem))
  case preview =>
    have hline : Review.previewLine (steps.length + 1) last =
        Text.ofNat (steps.length + 1) ++ ". " := by
      rw [Review.previewLine, hlast, List.append_nil]
    refine ⟨Review.previewOf steps, ?_⟩
    rw [hlength, ← hline, Review.ofDescription, h]
    simp [Review.previewOf, Text.unlines, List.mapIdx_concat]

/-- Quotes around a text that ends in a full stop: the closing one is a step of its
own. -/
theorem extract_normalize (t : Text) :
    Step.extract (Quotation.normalize (t ++ ['.'])).converted =
      Step.extract ('"' :: t.unquote) ++ [['"']] := by
  -- the full stop is in front of the closing quote now and cuts it off
  have hconverted : (Quotation.normalize (t ++ ['.'])).converted =
      ('"' :: t.unquote) ++ '.' :: ['"'] := by
    rw [Quotation.converted_normalize, Text.unquote_append, Quotation.wrap, List.append_assoc]
    rfl
  rw [hconverted, Step.extract_append_cons rfl]
  rfl

/-- The labels of a chart are its steps without their quotes. They are usable except
where a step has nothing but quotes, or margin right behind quotes at one of its ends.
A text that ends in a full stop has such a step once its quotes are normalized. -/
theorem labels_without_quotes :
    (∀ d : Text, Labelled d) ∧
      ∀ t : Text, EndsBlank (Quotation.normalize (t ++ ['.'])).converted :=
  ⟨labelled, fun t => endsBlank_of_extract (extract_normalize t) rfl⟩

/-- Not every label is usable: the closing quote after a full stop makes an empty one. -/
theorem exists_empty_label :
    (Quotation.normalize "Start.").converted = "\"Start.\"" ∧
      (ofDescription "\"Start.\"").nodes = [⟨"step1", "Start"⟩, ⟨"step2", ""⟩] ∧
      (Review.ofDescription "\"Start.\"").preview = "Flow preview:\n1. Start\n2. \n" ∧
      ¬ ∀ d, ∀ node ∈ (ofDescription d).nodes, Step.extract node.label = [node.label] := by
  have hnodes : (ofDescription "\"Start.\"").nodes = [⟨"step1", "Start"⟩, ⟨"step2", ""⟩] := by
    decide
  refine ⟨by decide, hnodes, by decide, ?_⟩
  intro husable
  have hempty : Step.extract ("" : Text) = [("" : Text)] :=
    husable "\"Start.\"" ⟨"step2", ""⟩ (by rw [hnodes]; simp)
  cases hempty

end Chart

end ProseChart

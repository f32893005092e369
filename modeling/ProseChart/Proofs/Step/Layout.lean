import Mathlib.Data.List.Basic
import ProseChart.Proofs.Text.Cut
import ProseChart.Step

/-!
# ProseChart.Proofs.Step.Layout — the grammar of descriptions

A description is laid out as steps with gaps between and around them. A gap holds
delimiters and margin only, a gap between two steps holds a delimiter, and a step
holds none and has no margin at its ends. `Layout` is such a layout, with these
conditions built in.

* `Layout.extract_text` — the steps of a layout are extracted again.
* `Step.exists_layout` — every text has a layout.
* `Step.infix_of_mem_extract` — a step stands in its text in one piece.
* `Layout.ext_of_text` — and only one.
* `Step.extract_eq_iff_layout` — extraction recognises exactly this grammar.
-/

namespace ProseChart

namespace Step

/-- Delimiters and margin, the characters that may stand in a gap. -/
def isFiller (c : Char) : Bool := isDelimiter c || isMargin c

/-- A gap between or around steps. -/
def IsGap (t : Text) : Prop := ∀ c ∈ t, isFiller c = true

/-- A gap that separates two steps. -/
def Separates (t : Text) : Prop := ∃ c ∈ t, isDelimiter c = true

/-- A step: not empty, without delimiters, without margin at its ends. -/
structure IsStep (t : Text) : Prop where
  ne_nil : t ≠ []
  no_delimiter : ∀ c ∈ t, isDelimiter c = false
  head : ∀ c ∈ t.head?, isMargin c = false
  last : ∀ c ∈ t.getLast?, isMargin c = false

end Step

open Step

/-- A text laid out in steps: a gap, then each step with the gap after it. -/
@[ext] structure Layout where
  lead : Text
  parts : List (Text × Text)
  isGap_lead : IsGap lead
  isStep : ∀ part ∈ parts, IsStep part.1
  isGap : ∀ part ∈ parts, IsGap part.2
  /-- Only the gap after the last step may do without a delimiter. -/
  separates : ∀ part ∈ parts.dropLast, Separates part.2

namespace Layout

/-- A step with the gap after it. -/
def partText (part : Text × Text) : Text := part.1 ++ part.2

/-- The text that is laid out. -/
def text (layout : Layout) : Text := layout.lead ++ layout.parts.flatMap partText

/-- The steps of the layout, in order. -/
def steps (layout : Layout) : List Text := layout.parts.map Prod.fst

end Layout

/-! ## Extraction from a layout -/

namespace Step

variable {s g t : Text} {c : Char}

/-- A text without delimiters is one step, or none when it is all margin. -/
theorem extract_of_no_delimiter (h : ∀ c ∈ t, isDelimiter c = false) :
    extract t = [Text.trim isMargin t].filter fun step => !step.isEmpty := by
  rw [extract, Text.pieces_of_forall h, List.map_singleton]

@[simp] theorem extract_nil : extract [] = [] := rfl

/-- Margin in front of a text changes no step. -/
theorem extract_cons_margin (hd : isDelimiter c = false) (hm : isMargin c = true) :
    extract (c :: t) = extract t := by
  rcases List.exists_cons_of_ne_nil (Text.pieces_ne_nil isDelimiter t) with ⟨piece, others, heq⟩
  have hcons : Text.pieces isDelimiter (c :: t) = (c :: piece) :: others := by
    rw [Text.pieces, hd, heq]
    rfl
  rw [extract, extract, hcons, heq, List.map_cons, List.map_cons, Text.trim_cons hm]

/-- A gap in front of a text changes no step. -/
theorem extract_gap_append (hg : IsGap g) : extract (g ++ t) = extract t := by
  induction g with
  | nil => rfl
  | cons c g ih =>
    rcases List.forall_mem_cons.mp hg with ⟨hc, hgap⟩
    have hrest : extract (g ++ t) = extract t := ih hgap
    rw [List.cons_append]
    by_cases hd : isDelimiter c = true
    · -- a delimiter has no step before it
      have hcut := extract_append_cons hd [] (g ++ t)
      rwa [List.nil_append, extract_nil, List.nil_append, hrest] at hcut
    · rw [Bool.not_eq_true] at hd
      have hm : isMargin c = true := by simpa [isFiller, hd] using hc
      rw [extract_cons_margin hd hm, hrest]

/-- A step with margin after it is that step. -/
theorem extract_step_margin (hs : IsStep s) (hd : ∀ c ∈ g, isDelimiter c = false)
    (hg : IsGap g) : extract (s ++ g) = [s] := by
  have hmargin : ∀ c ∈ g, isMargin c = true := by
    intro c hc
    simpa [isFiller, hd c hc] using hg c hc
  have hnone : ∀ c ∈ s ++ g, isDelimiter c = false := by
    intro c hc
    rcases List.mem_append.mp hc with hc | hc
    · exact hs.no_delimiter c hc
    · exact hd c hc
  rw [extract_of_no_delimiter hnone, Text.trim_append hs.head hs.last hs.ne_nil hmargin]
  simp [hs.ne_nil]

/-- A step with a gap that separates it from the text after it. -/
theorem extract_step_append (hs : IsStep s) (hg : IsGap g) (hsep : Separates g) :
    extract (s ++ (g ++ t)) = s :: extract t := by
  -- cut at the first delimiter of the gap: margin before it, a gap after it
  have hsome : (g.find? isDelimiter).isSome := List.find?_isSome.mpr hsep
  rcases Option.isSome_iff_exists.mp hsome with ⟨c, hfind⟩
  rcases List.find?_eq_some_iff_append.mp hfind with ⟨hc, a, b, rfl, ha⟩
  have hga : IsGap a := fun d hd => hg d (List.mem_append_left _ hd)
  have hgb : IsGap b := fun d hd => hg d (by simp [hd])
  have hsplit : s ++ ((a ++ c :: b) ++ t) = (s ++ a) ++ c :: (b ++ t) := by simp
  have hstep : extract (s ++ a) = [s] :=
    extract_step_margin hs (fun d hd => by simpa using ha d hd) hga
  rw [hsplit, extract_append_cons hc, hstep, extract_gap_append hgb]
  rfl

/-- A step with any gap after it, and nothing else. -/
theorem extract_step_gap (hs : IsStep s) (hg : IsGap g) : extract (s ++ g) = [s] := by
  by_cases hsep : Separates g
  · have h := extract_step_append (t := []) hs hg hsep
    rwa [List.append_nil, extract_nil] at h
  · refine extract_step_margin hs (fun c hc => ?_) hg
    by_contra hd
    exact hsep ⟨c, hc, by simpa using hd⟩

end Step

namespace Layout

theorem isGap_append {g g' : Text} (hg : IsGap g) (hg' : IsGap g') : IsGap (g ++ g') := by
  intro c hc
  rcases List.mem_append.mp hc with hc | hc
  · exact hg c hc
  · exact hg' c hc

/-- The steps of the parts are extracted, with more of a gap behind them; the induction is
on the parts, and only the last one may lack a delimiter. -/
theorem extract_parts {g : Text} (hend : IsGap g) : ∀ parts : List (Text × Text),
    (∀ part ∈ parts, IsStep part.1) → (∀ part ∈ parts, IsGap part.2) →
    (∀ part ∈ parts.dropLast, Separates part.2) →
    extract (parts.flatMap partText ++ g) = parts.map Prod.fst := by
  intro parts
  induction parts with
  | nil =>
    intro _ _ _
    have hnone : extract (g ++ []) = extract [] := extract_gap_append hend
    rwa [List.append_nil, extract_nil] at hnone
  | cons part rest ih =>
    intro hstep hgap hsep
    rcases List.forall_mem_cons.mp hstep with ⟨hs, hsteps⟩
    rcases List.forall_mem_cons.mp hgap with ⟨hg, hgaps⟩
    cases rest with
    | nil =>
      have hone : extract (part.1 ++ (part.2 ++ g)) = [part.1] :=
        extract_step_gap hs (isGap_append hg hend)
      simpa [partText] using hone
    | cons next rest =>
      rcases List.forall_mem_cons.mp hsep with ⟨hpart, hseps⟩
      have hrest := ih hsteps hgaps hseps
      rw [List.flatMap_cons, partText, List.append_assoc, List.append_assoc,
        extract_step_append hs hg hpart, hrest]
      rfl

/-- The steps of a layout are extracted from its text with more of a gap behind it. -/
theorem extract_text_append (layout : Layout) {g : Text} (hg : IsGap g) :
    extract (layout.text ++ g) = layout.steps := by
  rw [text, List.append_assoc, extract_gap_append layout.isGap_lead]
  exact extract_parts hg layout.parts layout.isStep layout.isGap layout.separates

/-- The steps of a layout are extracted from its text. -/
theorem extract_text (layout : Layout) : extract layout.text = layout.steps := by
  have hempty : IsGap [] := by simp [IsGap]
  have h := layout.extract_text_append hempty
  rwa [List.append_nil] at h

end Layout

/-! ## Every text has a layout -/

namespace Layout

/-- The layout without steps. -/
def ofGap (lead : Text) (hlead : IsGap lead) : Layout where
  lead := lead
  parts := []
  isGap_lead := hlead
  isStep := by simp
  isGap := by simp
  separates := by simp

/-- A filler in front of a layout belongs to its first gap. -/
def consFiller (c : Char) (hc : isFiller c = true) (layout : Layout) : Layout :=
  { layout with
    lead := c :: layout.lead
    isGap_lead := List.forall_mem_cons.mpr ⟨hc, layout.isGap_lead⟩ }

/-- Whether the first gap may stand after a step. -/
def Follows (layout : Layout) : Prop := layout.parts = [] ∨ Separates layout.lead

/-- A step in front of a layout; the first gap becomes the gap after it. -/
def consStep (s : Text) (hs : IsStep s) (layout : Layout) (h : layout.Follows) : Layout where
  lead := []
  parts := (s, layout.lead) :: layout.parts
  isGap_lead := by simp [IsGap]
  isStep := List.forall_mem_cons.mpr ⟨hs, layout.isStep⟩
  isGap := List.forall_mem_cons.mpr ⟨layout.isGap_lead, layout.isGap⟩
  separates := by
    rcases layout with ⟨lead, parts, hlead, hstep, hgap, hsep⟩
    cases parts with
    | nil => simp
    | cons part rest =>
      have hfirst : Separates lead := by simpa [Follows] using h
      exact List.forall_mem_cons.mpr ⟨hfirst, hsep⟩

@[simp] theorem text_ofGap {lead : Text} (hlead : IsGap lead) :
    (ofGap lead hlead).text = lead := by
  simp [ofGap, text]

@[simp] theorem text_consFiller {c : Char} (hc : isFiller c = true) (layout : Layout) :
    (consFiller c hc layout).text = c :: layout.text := rfl

@[simp] theorem text_consStep {s : Text} (hs : IsStep s) (layout : Layout) (h : layout.Follows) :
    (consStep s hs layout h).text = s ++ layout.text := by
  simp [consStep, text, partText]

/-- Behind the first step of a layout stands another layout, that may follow it. -/
theorem exists_tail {layout : Layout} (hne : layout.parts ≠ []) :
    ∃ (s : Text) (tail : Layout), IsStep s ∧ tail.Follows ∧
      layout.text = layout.lead ++ (s ++ tail.text) := by
  rcases layout with ⟨lead, parts, hlead, hstep, hgap, hsep⟩
  cases parts with
  | nil => exact absurd rfl hne
  | cons part rest =>
    rcases part with ⟨s, gap⟩
    rcases List.forall_mem_cons.mp hstep with ⟨hs, hsteps⟩
    rcases List.forall_mem_cons.mp hgap with ⟨hfirst, hgaps⟩
    cases rest with
    | nil =>
      refine ⟨s, ofGap gap hfirst, hs, Or.inl rfl, ?_⟩
      simp [ofGap, text, partText]
    | cons next rest =>
      -- a step follows the gap, so the gap has a delimiter
      rcases List.forall_mem_cons.mp hsep with ⟨hdelimiter, hseps⟩
      refine ⟨s, ⟨gap, next :: rest, hfirst, hsteps, hgaps, hseps⟩, hs, Or.inr hdelimiter, ?_⟩
      simp [text, partText]

end Layout

namespace Step

/-- A character that is neither delimiter nor margin. -/
theorem isStep_singleton {c : Char} (hc : isFiller c = false) : IsStep [c] := by
  rcases Bool.or_eq_false_iff.mp hc with ⟨hd, hm⟩
  exact ⟨by simp, by simpa using hd, by simpa using hm, by simpa using hm⟩

/-- Text without delimiters in front of a step makes a longer step. -/
theorem IsStep.cons_append {c : Char} {lead s : Text} (hs : IsStep s) (hc : isFiller c = false)
    (hlead : ∀ d ∈ lead, isDelimiter d = false) : IsStep (c :: (lead ++ s)) := by
  rcases Bool.or_eq_false_iff.mp hc with ⟨hd, hm⟩
  refine ⟨by simp, ?_, by simpa using hm, ?_⟩
  · intro e he
    rcases List.mem_cons.mp he with rfl | he
    · exact hd
    · rcases List.mem_append.mp he with he | he
      · exact hlead e he
      · exact hs.no_delimiter e he
  · intro e he
    rw [← List.cons_append, List.getLast?_append_of_ne_nil _ hs.ne_nil] at he
    exact hs.last e he

/-- Every text has a layout. A filler in front extends the gap in front; another
character starts a step of its own or, when only margin parts it from the first
step, extends that one. -/
theorem exists_layout (t : Text) : ∃ layout : Layout, layout.text = t := by
  induction t with
  | nil =>
    have hempty : IsGap [] := by simp [IsGap]
    exact ⟨Layout.ofGap [] hempty, Layout.text_ofGap hempty⟩
  | cons c t ih =>
    rcases ih with ⟨layout, rfl⟩
    by_cases hc : isFiller c = true
    · exact ⟨Layout.consFiller c hc layout, Layout.text_consFiller hc layout⟩
    rw [Bool.not_eq_true] at hc
    by_cases hown : layout.Follows
    · -- the character is a step
      exact ⟨Layout.consStep [c] (isStep_singleton hc) layout hown, by simp⟩
    · -- no delimiter parts the character from the first step, so that one starts earlier
      have hnone : ∀ d ∈ layout.lead, isDelimiter d = false := by
        intro d hd
        by_contra hdelimiter
        exact hown (Or.inr ⟨d, hd, by simpa using hdelimiter⟩)
      have hne : layout.parts ≠ [] := fun hnil => hown (Or.inl hnil)
      rcases Layout.exists_tail hne with ⟨s, tail, hs, htail, htext⟩
      refine ⟨Layout.consStep _ (hs.cons_append hc hnone) tail htail, ?_⟩
      rw [Layout.text_consStep, htext]
      simp

/-- A gap behind a text changes no step. -/
theorem extract_append_gap {t g : Text} (hg : IsGap g) : extract (t ++ g) = extract t := by
  rcases exists_layout t with ⟨layout, rfl⟩
  rw [layout.extract_text_append hg, layout.extract_text]

/-- What is extracted is a step. -/
theorem isStep_of_mem_extract {t s : Text} (h : s ∈ extract t) : IsStep s := by
  rcases exists_layout t with ⟨layout, rfl⟩
  rw [layout.extract_text, Layout.steps] at h
  rcases List.mem_map.mp h with ⟨part, hpart, rfl⟩
  exact layout.isStep part hpart

/-- A step stands in the text in one piece. -/
theorem infix_of_mem_extract {t s : Text} (h : s ∈ extract t) : s <:+: t := by
  rcases exists_layout t with ⟨layout, rfl⟩
  rw [layout.extract_text, Layout.steps] at h
  rcases List.mem_map.mp h with ⟨part, hpart, rfl⟩
  have hstep : part.1 <:+: Layout.partText part := (List.prefix_append _ _).isInfix
  have hparts : Layout.partText part <:+: layout.parts.flatMap Layout.partText :=
    List.infix_of_mem_flatten (List.mem_map_of_mem hpart)
  have htext : layout.parts.flatMap Layout.partText <:+: layout.text :=
    (List.suffix_append _ _).isInfix
  exact hstep.trans (hparts.trans htext)

end Step

/-! ## Every text has one layout only -/

namespace Layout

/-- After a gap, a step starts with a character that the gap does not have. -/
theorem head?_parts {parts : List (Text × Text)} (hstep : ∀ part ∈ parts, IsStep part.1) :
    ∀ c ∈ (parts.flatMap partText).head?, ¬ isFiller c = true := by
  intro c hc
  cases parts with
  | nil => cases hc
  | cons part rest =>
    rcases part with ⟨s, g⟩
    have hs : IsStep s := hstep (s, g) List.mem_cons_self
    rw [List.flatMap_cons, partText, List.append_assoc, List.head?_append_of_ne_nil _ hs.ne_nil]
      at hc
    have hd := hs.no_delimiter c (List.mem_of_mem_head? hc)
    have hm := hs.head c hc
    simp [isFiller, hd, hm]

/-- Parts with the same steps and the same text have the same gaps. -/
theorem parts_inj {parts parts' : List (Text × Text)} (hsteps : ∀ part ∈ parts, IsStep part.1)
    (hsteps' : ∀ part ∈ parts', IsStep part.1) (hgaps : ∀ part ∈ parts, IsGap part.2)
    (hgaps' : ∀ part ∈ parts', IsGap part.2) (hmap : parts.map Prod.fst = parts'.map Prod.fst)
    (htext : parts.flatMap partText = parts'.flatMap partText) : parts = parts' := by
  induction parts generalizing parts' with
  | nil =>
    cases parts' with
    | nil => rfl
    | cons part rest => cases hmap
  | cons part rest ih =>
    cases parts' with
    | nil => cases hmap
    | cons part' rest' =>
      rcases part with ⟨s, g⟩
      rcases part' with ⟨s', g'⟩
      have hfirst : s = s' ∧ rest.map Prod.fst = rest'.map Prod.fst := List.cons.inj hmap
      rcases hfirst with ⟨rfl, hmaps⟩
      rcases List.forall_mem_cons.mp hgaps with ⟨hg, hgs⟩
      rcases List.forall_mem_cons.mp hgaps' with ⟨hg', hgs'⟩
      rcases List.forall_mem_cons.mp hsteps with ⟨-, hss⟩
      rcases List.forall_mem_cons.mp hsteps' with ⟨-, hss'⟩
      rw [List.flatMap_cons, List.flatMap_cons, partText, partText, List.append_assoc,
        List.append_assoc] at htext
      -- past the common step, both gaps end where the next step starts
      have hcut : g = g' ∧ rest.flatMap partText = rest'.flatMap partText :=
        Text.append_inj_of_forall hg hg' (head?_parts hss) (head?_parts hss')
          (List.append_cancel_left htext)
      rcases hcut with ⟨rfl, hrest⟩
      rw [ih hss hss' hgs hgs' hmaps hrest]

/-- The text determines the layout. -/
theorem ext_of_text {layout layout' : Layout} (h : layout.text = layout'.text) :
    layout = layout' := by
  -- extraction gives the steps, and between known steps the gaps are known
  have hsteps : layout.steps = layout'.steps := by
    rw [← layout.extract_text, ← layout'.extract_text, h]
  have hcut : layout.lead = layout'.lead ∧
      layout.parts.flatMap partText = layout'.parts.flatMap partText :=
    Text.append_inj_of_forall layout.isGap_lead layout'.isGap_lead
      (head?_parts layout.isStep) (head?_parts layout'.isStep) h
  have hparts : layout.parts = layout'.parts :=
    parts_inj layout.isStep layout'.isStep layout.isGap layout'.isGap hsteps hcut.2
  exact Layout.ext hcut.1 hparts

/-- Gaps are filler. -/
theorem filter_gap {g : Text} (hg : IsGap g) : g.filter (!isFiller ·) = [] := by
  rw [List.filter_eq_nil_iff]
  intro c hc
  simp [hg c hc]

theorem filter_parts {parts : List (Text × Text)} (hgaps : ∀ part ∈ parts, IsGap part.2) :
    (parts.flatMap partText).filter (!isFiller ·) =
      (parts.map Prod.fst).flatten.filter (!isFiller ·) := by
  induction parts with
  | nil => rfl
  | cons part rest ih =>
    rcases List.forall_mem_cons.mp hgaps with ⟨hg, hgs⟩
    rw [List.flatMap_cons, partText, List.filter_append, List.filter_append, filter_gap hg,
      ih hgs, List.append_nil, List.map_cons, List.flatten_cons, List.filter_append]

/-- All that a layout has besides its steps is filler. -/
theorem filter_text (layout : Layout) :
    layout.text.filter (!isFiller ·) = layout.steps.flatten.filter (!isFiller ·) := by
  rw [text, List.filter_append, filter_gap layout.isGap_lead, List.nil_append]
  exact filter_parts layout.isGap

end Layout

/-- Extraction recognises exactly the grammar of layouts: the steps of a text are
the steps of its layout, of which there is one; every other character of the
text is filler; and whatever gaps steps are laid out with, they are extracted
again. The three delimiters and the characters of the margin are the filler. -/
theorem Step.extract_eq_iff_layout :
    (∀ c : Char, isFiller c = true ↔ isDelimiter c = true ∨ isMargin c = true) ∧
    (∀ c : Char, isDelimiter c = true ↔ c = '.' ∨ c = ',' ∨ c = '\n') ∧
    (∀ c : Char, isMargin c = true ↔ c.toNat ∈
      [0x09, 0x0A, 0x0B, 0x0C, 0x0D, 0x20, 0xA0, 0x1680, 0x2000, 0x2001, 0x2002, 0x2003, 0x2004,
        0x2005, 0x2006, 0x2007, 0x2008, 0x2009, 0x200A, 0x2028, 0x2029, 0x202F, 0x205F, 0x3000,
        0xFEFF]) ∧
    (∀ (t : Text) (steps : List Text),
      extract t = steps ↔ ∃ layout : Layout, layout.text = t ∧ layout.steps = steps) ∧
    (∀ t : Text, ∃! layout : Layout, layout.text = t) ∧
    (∀ t : Text, t.filter (!isFiller ·) = (extract t).flatten.filter (!isFiller ·)) ∧
    (∀ layout : Layout, extract layout.text = layout.steps) := by
  refine ⟨fun _ => Bool.or_eq_true_iff, fun _ => isDelimiter_iff, fun _ => isMargin_iff, ?_, ?_, ?_,
    Layout.extract_text⟩
  · intro t steps
    constructor
    · rintro rfl
      rcases exists_layout t with ⟨layout, rfl⟩
      exact ⟨layout, rfl, layout.extract_text.symm⟩
    · rintro ⟨layout, rfl, rfl⟩
      exact layout.extract_text
  · intro t
    rcases exists_layout t with ⟨layout, rfl⟩
    exact ⟨layout, rfl, fun layout' h => Layout.ext_of_text h⟩
  · intro t
    rcases exists_layout t with ⟨layout, rfl⟩
    rw [layout.extract_text]
    exact layout.filter_text

end ProseChart

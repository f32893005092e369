import ProseChart.Proofs.Chart.Label
import ProseChart.Proofs.Review.Composition

/-!
# ProseChart.Proofs.Review.Decisions — a review sees the decisions that a chart draws

A chart branches by the labels of its nodes, a review looks into the whole text, and
each has keywords of its own. Yet where a chart has a marked edge, some node takes the
alternative, and an alternative word is a condition word too. The word stands in a
label, the label is a step without its quotes, and the step stands in the text in one
piece: so the word stands in the text without its quotes, and the review finds it
there.

In the text with its quotes it may not stand, since a quote can be in the middle of it.

* `Edge.exists_alternative_of_mem_connect` — from a marked edge to an alternative.
* `Chart.label_isInfix` — from a label to the text.
* `Review.NotesDecisions`, `Review.notesDecisions_of_isBranching` — both together.
-/

namespace ProseChart

/-! ## From a marked edge to an alternative -/

namespace Edge

variable {node next other : Node} {later nodes : List Node} {e : Edge}

/-- An answer is the first alternative. -/
theorem find?_of_answer? (h : answer? node nodes = some other) :
    nodes.find? Node.isAlternative = some other := by
  rw [answer?] at h
  split at h
  · exact h
  · cases h

/-- The edges out of a node are marked only where an alternative follows it. -/
theorem exists_alternative_of_mem_leaving (he : e ∈ leaving node next later)
    (hmark : e.label ≠ none) : ∃ other ∈ next :: later, other.isAlternative = true := by
  cases hanswer : answer? node (next :: later) with
  | none =>
    rw [leaving, hanswer, List.mem_singleton] at he
    rw [he] at hmark
    exact absurd rfl hmark
  | some alternative =>
    have hfind := find?_of_answer? hanswer
    exact ⟨alternative, List.mem_of_find?_eq_some hfind, List.find?_some hfind⟩

/-- A marked edge needs an alternative among the nodes. The induction is on the nodes, as
in `connect`. -/
theorem exists_alternative_of_mem_connect (he : e ∈ connect nodes) (hmark : e.label ≠ none) :
    ∃ other ∈ nodes, other.isAlternative = true := by
  induction nodes with
  | nil => cases he
  | cons node rest ih =>
    cases rest with
    | nil => cases he
    | cons next later =>
      have hrest : ∃ other ∈ next :: later, other.isAlternative = true := by
        rw [connect] at he
        rcases List.mem_append.mp he with he | he
        · exact exists_alternative_of_mem_leaving he hmark
        · exact ih he
      rcases hrest with ⟨other, hother, halternative⟩
      exact ⟨other, List.mem_cons_of_mem node hother, halternative⟩

end Edge

/-! ## From a label to the text -/

namespace Chart

variable {d : Text}

/-- Every label stands in the text without its quotes in one piece. -/
theorem label_isInfix {node : Node} (hnode : node ∈ (ofDescription d).nodes) :
    node.label <:+: d.unquote := by
  have hlabel : node.label ∈ (Step.extract d).map Text.unquote := by
    rw [← labels_ofSteps]
    exact List.mem_map_of_mem hnode
  rcases List.mem_map.mp hlabel with ⟨s, hs, heq⟩
  rw [← heq]
  exact Text.unquote_isInfix (Step.infix_of_mem_extract hs)

/-- Whether a chart branches: one of its edges is marked. -/
def IsBranching (chart : Chart) : Prop :=
  ∃ e ∈ chart.edges, e.label = some Edge.yes ∨ e.label = some Edge.no

instance (chart : Chart) : Decidable chart.IsBranching :=
  inferInstanceAs (Decidable (∃ e ∈ chart.edges, e.label = some Edge.yes ∨ e.label = some Edge.no))

/-- Where a chart branches, some node takes the alternative. -/
theorem IsBranching.exists_alternative (h : (ofDescription d).IsBranching) :
    ∃ node ∈ (ofDescription d).nodes, node.isAlternative = true := by
  rcases h with ⟨e, he, hlabel⟩
  have hmark : e.label ≠ none := by
    rcases hlabel with hyes | hno
    · simp [hyes]
    · simp [hno]
  exact Edge.exists_alternative_of_mem_connect he hmark

end Chart

/-! ## The review -/

/-- A text with an alternative word in it has a condition word in it. -/
theorem Keyword.occurs_condition_of_alternative {t : Text} (h : occurs alternative t = true) :
    occurs condition t = true := by
  rw [occurs_iff] at h ⊢
  rcases h with ⟨word, hword, hstands⟩
  exact ⟨word, mem_condition_of_mem_alternative hword, hstands⟩

namespace Review

variable {d t : Text}

/-- The review of a text takes note of decisions. -/
structure NotesDecisions (t : Text) : Prop where
  /-- Decisions are not reported as missing. -/
  not_missing : Gap.decisions.wording ∉ (ofDescription t).missing
  /-- In any lower-case form of the text, one of the words stands that the review looks for. -/
  keyword : ∀ s, Text.LowerCase t s → ∃ word ∈ Gap.decisions.family, word <:+: s

theorem notesDecisions_of_occurs (h : Keyword.occurs Keyword.condition t = true) :
    NotesDecisions t where
  not_missing := by
    rw [wording_mem_missing, mem_gaps, Bool.not_eq_false]
    exact h
  keyword := by
    intro s hs
    rcases Keyword.occurs_iff.mp h with ⟨word, hword, hstands⟩
    have hform : word <:+: s ↔ word <:+: t.fold :=
      Keyword.infix_iff_of_lowerCase Gap.decisions.family_mem_all hword hs
    exact ⟨word, hword, hform.mpr hstands⟩

/-- A review recognises every decision that a chart draws: where the chart of a
description branches, the review of the description without its quotes takes note of
decisions. A description that has no quotes is meant itself. -/
theorem notesDecisions_of_isBranching (h : (Chart.ofDescription d).IsBranching) :
    NotesDecisions d.unquote ∧ ((∀ c ∈ d, Text.isQuote c = false) → NotesDecisions d) := by
  rcases h.exists_alternative with ⟨node, hnode, halternative⟩
  have hlabel : Keyword.occurs Keyword.condition node.label = true :=
    Keyword.occurs_condition_of_alternative halternative
  have hunquoted : NotesDecisions d.unquote :=
    notesDecisions_of_occurs (Keyword.occurs_of_isInfix (Chart.label_isInfix hnode) hlabel)
  refine ⟨hunquoted, ?_⟩
  intro hbare
  rwa [Text.unquote_eq_self hbare] at hunquoted

/-- The word that answers the decision is at the end of a step here, and quoted in the
second text. -/
theorem notesDecisions_stockCheck :
    ((Chart.ofDescription "Check stock. Order parts, or else").IsBranching ∧
      (∀ c ∈ ("Check stock. Order parts, or else" : Text), Text.isQuote c = false) ∧
      NotesDecisions "Check stock. Order parts, or else") ∧
    ((Chart.ofDescription "Check stock. \"El\"se order").IsBranching ∧
      NotesDecisions (Text.unquote "Check stock. \"El\"se order")) := by
  have hbare : (Chart.ofDescription "Check stock. Order parts, or else").IsBranching := by
    decide +kernel
  have hnone : ∀ c ∈ ("Check stock. Order parts, or else" : Text), Text.isQuote c = false := by
    intro c hc
    have hself : Text.unquote "Check stock. Order parts, or else" =
        "Check stock. Order parts, or else" := by decide +kernel
    rw [← hself] at hc
    exact Text.isQuote_of_mem_unquote hc
  have hquoted : (Chart.ofDescription "Check stock. \"El\"se order").IsBranching := by
    decide +kernel
  exact ⟨⟨hbare, hnone, (notesDecisions_of_isBranching hbare).2 hnone⟩,
    hquoted, (notesDecisions_of_isBranching hquoted).1⟩

/-- With its quotes, that text names no decision. -/
example : Gap.decisions ∈ gaps "Check stock. \"El\"se order" := by decide

end Review

end ProseChart

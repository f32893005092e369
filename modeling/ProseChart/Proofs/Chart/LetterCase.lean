import ProseChart.Proofs.Chart.Renaming
import ProseChart.Proofs.Text.Case
import ProseChart.Proofs.Text.Fold

/-!
# ProseChart.Proofs.Chart.LetterCase — descriptions up to letter case

A description and the same description in lower case have the same gaps, and their
charts differ in the case of the labels only: nothing that decides about the structure
looks at a letter otherwise than in lower case. So descriptions that differ in letter
case have the same structure.

* `Node.lowered`, `Chart.lowered` — labels in lower case.
* `Chart.ofDescription_lowered`, `Review.gaps_lowered` — lower-casing before and after.
* `Keyword.any_mentions_eq_of_caseVariant` — keyword searches in any lower-case forms.
* `Chart.SameStructure`, `Chart.sameStructure_of_caseVariant` — two descriptions.
-/

namespace ProseChart

/-! ## Labels in lower case -/

/-- A node with its label in lower case. -/
def Node.lowered (node : Node) : Node := ⟨node.id, node.label.lowered⟩

/-- A chart with its labels in lower case. -/
def Chart.lowered (chart : Chart) : Chart := ⟨chart.nodes.map Node.lowered, chart.edges⟩

@[simp] theorem Node.label_comp_lowered : Node.label ∘ Node.lowered = Text.lowered ∘ Node.label :=
  rfl

/-- Both tests of a node are keyword searches. -/
theorem Node.renaming_lowered : Node.Renaming lowered (fun name => name) where
  id _ := rfl
  isDecision node := Keyword.occurs_lowered Keyword.decision node.label
  isAlternative node := Keyword.occurs_lowered Keyword.alternative node.label

theorem Node.ofSteps_lowered (steps : List Text) :
    ofSteps (steps.map Text.lowered) = (ofSteps steps).map lowered := by
  apply List.ext_getElem
  · simp [ofSteps]
  · intro k hk hk'
    simp [ofSteps, lowered, Text.unquote_lowered]

/-- The edges do not see the case of the labels. -/
theorem Edge.connect_lowered (nodes : List Node) :
    connect (nodes.map Node.lowered) = connect nodes := by
  rw [connect_map Node.renaming_lowered]
  exact List.map_id _

namespace Chart

/-- The chart of a description in lower case is its chart in lower case. -/
theorem ofDescription_lowered (d : Text) :
    ofDescription d.lowered = (ofDescription d).lowered := by
  rw [ofDescription, ofDescription, Step.extract_lowered, ofSteps, Node.ofSteps_lowered,
    Edge.connect_lowered]
  rfl

end Chart

theorem Review.gaps_lowered (d : Text) : gaps d.lowered = gaps d := by
  apply List.filter_congr
  intro gap _
  rw [Keyword.occurs_lowered]

/-! ## Two descriptions -/

/-- A keyword search gives the same in any lower-case forms of the two, also where these
forms come out differently. -/
theorem Keyword.any_mentions_eq_of_caseVariant {family : List Text} {t t' s s' : Text}
    (hfamily : family ∈ all) (h : Text.CaseVariant t t') (hs : Text.LowerCase t s)
    (hs' : Text.LowerCase t' s') :
    family.any (Text.mentions · s) = family.any (Text.mentions · s') := by
  rw [← occurs_eq_of_lowerCase hfamily hs, ← occurs_eq_of_lowerCase hfamily hs',
    ← occurs_lowered family t, Text.caseVariant_iff.mp h, occurs_lowered]

namespace Chart

/-- What two descriptions have in common that differ in letter case only. -/
structure SameStructure (d d' : Text) : Prop where
  /-- Reviews miss the same elements. -/
  missing : (Review.ofDescription d).missing = (Review.ofDescription d').missing
  /-- Reviews call both complete or none. -/
  isComplete : (Review.ofDescription d).isComplete = (Review.ofDescription d').isComplete
  /-- The edges are the same, in sources, targets and marks. -/
  edges : (ofDescription d).edges = (ofDescription d').edges
  /-- There are as many nodes. -/
  count : (ofDescription d).nodes.length = (ofDescription d').nodes.length
  /-- A keyword search gives the same in any lower-case forms of the two. -/
  keywords : ∀ s s', Text.LowerCase d s → Text.LowerCase d' s' → ∀ family ∈ Keyword.all,
    family.any (Text.mentions · s) = family.any (Text.mentions · s')
  /-- The labels differ in letter case only, one by one. -/
  labels : List.Forall₂ Text.CaseVariant ((ofDescription d).nodes.map Node.label)
    ((ofDescription d').nodes.map Node.label)

/-- Letter case never changes the structure. Both descriptions are the same in lower
case, and lower-casing loses nothing but the case of the labels. -/
theorem sameStructure_of_caseVariant {d d' : Text} (h : Text.CaseVariant d d') :
    SameStructure d d' := by
  have hlowered : d.lowered = d'.lowered := Text.caseVariant_iff.mp h
  have hgaps : Review.gaps d = Review.gaps d' := by
    rw [← Review.gaps_lowered d, hlowered, Review.gaps_lowered]
  have hchart : (ofDescription d).lowered = (ofDescription d').lowered := by
    rw [← ofDescription_lowered, hlowered, ofDescription_lowered]
  have hnodes : (ofDescription d).nodes.map Node.lowered =
      (ofDescription d').nodes.map Node.lowered := congrArg Chart.nodes hchart
  have hedges : (ofDescription d).lowered.edges = (ofDescription d').lowered.edges :=
    congrArg Chart.edges hchart
  have hlabels : (ofDescription d).nodes.map (Text.lowered ∘ Node.label) =
      (ofDescription d').nodes.map (Text.lowered ∘ Node.label) := by
    simpa using congrArg (List.map Node.label) hnodes
  constructor
  case missing => exact congrArg (List.map Gap.wording) hgaps
  case isComplete => exact congrArg List.isEmpty hgaps
  case edges => exact hedges
  case count => simpa using congrArg List.length hnodes
  case keywords =>
    intro s s' hs hs' family hfamily
    exact Keyword.any_mentions_eq_of_caseVariant hfamily h hs hs'
  case labels => rwa [Text.forall₂_iff_map_eq @Text.caseVariant_iff, List.map_map, List.map_map]

theorem sameStructure_orderCheck :
    Text.CaseVariant "Check IF paid. Otherwise stop" "cHECK if PAID. oTHERWISE stop" ∧
      SameStructure "Check IF paid. Otherwise stop" "cHECK if PAID. oTHERWISE stop" := by
  have hcase : Text.CaseVariant "Check IF paid. Otherwise stop" "cHECK if PAID. oTHERWISE stop" :=
    Text.caseVariant_iff.mpr (by decide +kernel)
  exact ⟨hcase, sameStructure_of_caseVariant hcase⟩

end Chart

end ProseChart

import Mathlib.Data.List.TFAE
import Mathlib.Tactic.TFAE
import ProseChart.Proofs.Chart.Mermaid
import ProseChart.Review

/-!
# ProseChart.Proofs.Review.Preview — the preview shows what the chart draws

A review numbers the steps of a description in its preview, a chart makes nodes of
them; neither looks at the other. Both show the same labels under the same numbers
all the same, and a preview can be read back as Mermaid source can. So for two
descriptions the previews, the charts and the sources are the same or differ
together.

* `Chart.labelOf` — the label of the node with an id.
* `Review.previewOf_eq_unlines` — the preview, read from the chart.
* `Review.ofDescription_eq_of_preview_eq` — the chart, read from the preview.
* `Review.preview_agrees_with_chart` — both together.
-/

namespace ProseChart

open Node (idAt Numbered)

/-- The label of the node with an id. -/
def Chart.labelOf (chart : Chart) (id : Text) : Text :=
  ((chart.nodes.find? (·.id == id)).map Node.label).getD []

/-- Among distinct ids it is the label of that node. -/
theorem Chart.labelOf_id {chart : Chart} (hn : Numbered chart.nodes) {node : Node}
    (hnode : node ∈ chart.nodes) : chart.labelOf node.id = node.label := by
  have hfind : chart.nodes.find? (·.id == node.id) = some node := hn.find?_id hnode
  rw [labelOf, hfind]
  rfl

theorem Text.no_feed_ofNat (n : Nat) : '\n' ∉ Text.ofNat n := by
  intro hfeed
  cases Text.isDigit_of_mem_ofNat '\n' hfeed

namespace Review

/-! ## The preview from the chart -/

/-- The lines below the header: a number, and the label of the node with that
number. -/
def chartLines (chart : Chart) : List Text :=
  (List.range' 1 chart.nodes.length).map fun k =>
    Text.ofNat k ++ ". " ++ chart.labelOf (idAt k)

theorem mapIdx_previewLine (steps : List Text) :
    (steps.mapIdx fun index step => previewLine (index + 1) step) =
      chartLines (Chart.ofSteps steps) := by
  have hn : Numbered (Chart.ofSteps steps).nodes := Node.numbered_ofSteps steps
  apply List.ext_getElem
  · simp [chartLines, Chart.length_nodes_ofSteps]
  · intro k hk hk'
    rw [List.length_mapIdx] at hk
    -- the node of the step has the number of the step in its id
    have hnode : (⟨idAt (1 + k : Nat), steps[k].unquote⟩ : Node) ∈ (Chart.ofSteps steps).nodes := by
      refine List.mem_mapIdx.mpr ⟨k, hk, ?_⟩
      have hposition : (k : Int) + 1 = (1 + k : Nat) := by omega
      rw [hposition]
    have hlabel : (Chart.ofSteps steps).labelOf (idAt (1 + k : Nat)) = steps[k].unquote :=
      Chart.labelOf_id hn hnode
    have hline : (chartLines (Chart.ofSteps steps))[k] =
        Text.ofNat (1 + k) ++ ". " ++ (Chart.ofSteps steps).labelOf (idAt (1 + k : Nat)) := by
      simp [chartLines]
    rw [List.getElem_mapIdx, hline, hlabel, previewLine, Nat.add_comm]

/-- The preview is the header and the lines read from the chart. -/
theorem previewOf_eq_unlines (steps : List Text) :
    previewOf steps = Text.unlines (header :: chartLines (Chart.ofSteps steps)) := by
  rw [previewOf, mapIdx_previewLine]

/-! ## The chart from the preview -/

theorem no_feed_header : '\n' ∉ header := by decide

/-- No line of a preview is broken. -/
theorem no_feed_of_mem_lines (description : Text) :
    ∀ l ∈ header :: (Step.extract description).mapIdx
      (fun index step => previewLine (index + 1) step), '\n' ∉ l := by
  intro l hl
  rcases List.mem_cons.mp hl with rfl | hl
  · exact no_feed_header
  · rcases List.mem_mapIdx.mp hl with ⟨k, hk, rfl⟩
    have hnumber : '\n' ∉ Text.ofNat (k + 1) := Text.no_feed_ofNat (k + 1)
    have hlabel : '\n' ∉ (Step.extract description)[k].unquote :=
      Step.no_feed_unquote (List.getElem_mem hk)
    simp [previewLine, hnumber, hlabel]

/-- Between numbered lines and numbered nodes nothing is lost: what stands behind
the number is the label. -/
theorem ofSteps_eq_of_lines_eq {steps steps' : List Text}
    (h : (steps.mapIdx fun index step => previewLine (index + 1) step) =
      steps'.mapIdx fun index step => previewLine (index + 1) step) :
    Node.ofSteps steps = Node.ofSteps steps' := by
  have hlength : steps.length = steps'.length := by simpa using congrArg List.length h
  apply List.ext_getElem
  · simpa [Node.ofSteps] using hlength
  · intro k hk hk'
    have hstep : k < steps.length := by simpa [Node.ofSteps] using hk
    have hline : previewLine (k + 1) steps[k] = previewLine (k + 1) steps'[k] := by
      have hget := congrArg (·[k]?) h
      simpa [hstep, hlength ▸ hstep] using hget
    have hlabel : steps[k].unquote = steps'[k].unquote := List.append_cancel_left hline
    simp [Node.ofSteps, hlabel]

theorem ofDescription_eq_of_preview_eq {d d' : Text}
    (h : (ofDescription d).preview = (ofDescription d').preview) :
    Chart.ofDescription d = Chart.ofDescription d' := by
  have hlines := Text.unlines_inj (no_feed_of_mem_lines d) (no_feed_of_mem_lines d') h
  have hnodes : Node.ofSteps (Step.extract d) = Node.ofSteps (Step.extract d') :=
    ofSteps_eq_of_lines_eq (List.cons.inj hlines).2
  rw [Chart.ofDescription, Chart.ofDescription, Chart.ofSteps, Chart.ofSteps, hnodes]

/-! ## Preview and chart -/

/-- The preview of a description is the header and, for each number from 1 up to
the number of nodes, a line with the number and the label of the node that has it
in its id. Hence two descriptions with the same preview have the same chart and
the same source, and the other way round. -/
theorem preview_agrees_with_chart :
    (∀ d : Text, (ofDescription d).preview =
      Text.unlines (header ::
        (List.range' 1 (Chart.ofDescription d).nodes.length).map fun k =>
          Text.ofNat k ++ ". " ++ (Chart.ofDescription d).labelOf (idAt k))) ∧
    (∀ d : Text, Numbered (Chart.ofDescription d).nodes ∧
      ∀ node ∈ (Chart.ofDescription d).nodes,
        (Chart.ofDescription d).labelOf node.id = node.label) ∧
    (∀ d d' : Text,
      [(ofDescription d).preview = (ofDescription d').preview,
        Chart.ofDescription d = Chart.ofDescription d',
        Chart.source d = Chart.source d'].TFAE) := by
  have hpreview : ∀ d : Text, (ofDescription d).preview =
      Text.unlines (header :: chartLines (Chart.ofDescription d)) :=
    fun d => previewOf_eq_unlines (Step.extract d)
  refine ⟨hpreview, ?_, ?_⟩
  · intro d
    have hn : Numbered (Chart.ofDescription d).nodes := Node.numbered_ofSteps _
    exact ⟨hn, fun node hnode => Chart.labelOf_id hn hnode⟩
  · intro d d'
    tfae_have 1 → 2 := ofDescription_eq_of_preview_eq
    tfae_have 2 → 1 := by
      intro hchart
      rw [hpreview, hpreview, hchart]
    tfae_have 2 → 3 := by
      intro hchart
      rw [Chart.source, Chart.source, hchart]
    tfae_have 3 → 2 :=
      Chart.mermaid_inj (Chart.writable_ofDescription d) (Chart.writable_ofDescription d')
    tfae_finish

end Review

end ProseChart

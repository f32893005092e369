import ProseChart.Keyword
import ProseChart.Step
import ProseChart.Text.Quotes

/-!
# ProseChart.Chart — flowcharts of descriptions

A chart has one node a step, numbered from 1 in the order of the text, and edges
from each node to the next one. A node whose label is a decision branches when
a later node takes the alternative: its edge to the next node is marked `Yes`,
and a second edge, marked `No`, leads to the first such node. One alternative
may answer several decisions, and a decision without one gets a plain edge.

* `Node.ofSteps` — the nodes; a label is its step without quote characters.
* `Edge.connect` — the edges over any list of nodes.
* `Chart.ofDescription` — the chart of a description.
-/

namespace ProseChart

/-- A box of the chart. -/
structure Node where
  /-- The name that edges refer to. -/
  id : Text
  /-- The text shown in the box. -/
  label : Text
deriving DecidableEq, Repr

/-- An arrow of the chart, with the text shown on it, if any. -/
structure Edge where
  source : Text
  target : Text
  label : Option Text := none
deriving DecidableEq, Repr

/-- A chart: its nodes and its edges, both in drawing order. -/
structure Chart where
  nodes : List Node
  edges : List Edge
deriving DecidableEq, Repr

/-! ## Nodes -/

namespace Node

/-- The name of the node at a position; the first node has position 1. -/
def idAt (position : Int) : Text := "step" ++ Text.ofInt position

/-- Whether the node asks for a decision. -/
def isDecision (node : Node) : Bool := Keyword.occurs Keyword.decision node.label

/-- Whether the node takes the other branch of a decision before it. -/
def isAlternative (node : Node) : Bool := Keyword.occurs Keyword.alternative node.label

/-- One node a step, in order. -/
def ofSteps (steps : List Text) : List Node :=
  steps.mapIdx fun index step => ⟨idAt (index + 1), step.unquote⟩

end Node

/-! ## Edges -/

namespace Edge

/-- The mark of the branch to the next node. -/
def yes : Text := "Yes"

/-- The mark of the branch to the alternative. -/
def no : Text := "No"

/-- The node that answers a decision: the first alternative among the nodes
that follow it. A node that is no decision needs none. -/
def answer? (node : Node) (following : List Node) : Option Node :=
  if node.isDecision then following.find? Node.isAlternative else none

/-- The edges out of a node, given the next node and the ones after it. -/
def leaving (node next : Node) (later : List Node) : List Edge :=
  match answer? node (next :: later) with
  | some alternative => [⟨node.id, next.id, some yes⟩, ⟨node.id, alternative.id, some no⟩]
  | none => [⟨node.id, next.id, none⟩]

/-- The edges over a list of nodes, in the order of their sources. -/
def connect : List Node → List Edge
  | [] => []
  | [_] => []
  | node :: next :: later => leaving node next later ++ connect (next :: later)

end Edge

/-! ## Charts -/

/-- The chart over given steps. -/
def Chart.ofSteps (steps : List Text) : Chart :=
  ⟨Node.ofSteps steps, Edge.connect (Node.ofSteps steps)⟩

/-- The chart of a description. -/
def Chart.ofDescription (description : Text) : Chart := Chart.ofSteps (Step.extract description)

/-- A chart has as many nodes as the description has steps. -/
theorem Chart.length_nodes_ofSteps (steps : List Text) :
    (Chart.ofSteps steps).nodes.length = steps.length := by
  simp [Chart.ofSteps, Node.ofSteps]

end ProseChart

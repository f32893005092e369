import ProseChart.Chart

/-!
# ProseChart.Chart.Mermaid — charts as Mermaid source

A chart is written as a `flowchart TD`: the header, one line a node, one line an
edge, each ended by a line feed. Labels are written as they are; `Chart` keeps
quote characters and line feeds out of them.

* `Node.mermaid`, `Edge.mermaid` — one line.
* `Chart.mermaid` — the whole source.
* `Chart.source` — from the description to the source.
-/

namespace ProseChart

/-- The first line of every chart: boxes run from top to down. -/
def Chart.header : Text := "flowchart TD"

/-- Nodes and edges are indented by four spaces. -/
def Chart.indent : Text := "    "

/-- A node with its label in a square box. -/
def Node.mermaid (node : Node) : Text :=
  Chart.indent ++ node.id ++ "[\"" ++ node.label ++ "\"]"

/-- An arrow; a label stands between bars, and an empty one is left out. -/
def Edge.mermaid (edge : Edge) : Text :=
  match edge.label.getD [] with
  | [] => Chart.indent ++ edge.source ++ " --> " ++ edge.target
  | c :: rest =>
    Chart.indent ++ edge.source ++ " -->|" ++ (c :: rest) ++ "| " ++ edge.target

/-- The lines of a chart's source. -/
def Chart.lines (chart : Chart) : List Text :=
  Chart.header :: (chart.nodes.map Node.mermaid ++ chart.edges.map Edge.mermaid)

/-- The source of a chart. -/
def Chart.mermaid (chart : Chart) : Text := Text.unlines chart.lines

/-- The source of the chart of a description. -/
def Chart.source (description : Text) : Text := (Chart.ofDescription description).mermaid

end ProseChart

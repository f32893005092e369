import ProseChart.Chart

/-!
# ProseChart.Proofs.Chart.Renaming — edges over renamed nodes

Of a node the edges see three things: its name, whether it is a decision and whether it
is an alternative. A change of the nodes that keeps the two tests therefore changes the
names in the edges and nothing else, whatever it does to the labels.

* `Node.Renaming` — a change of nodes that renames them and keeps the tests.
* `Edge.connect_map` — the edges over changed nodes are the renamed edges.
-/

namespace ProseChart

/-- The function `f` on nodes gives every node the name that `g` makes of its old one, and
keeps which nodes are decisions and which are alternatives. -/
structure Node.Renaming (f : Node → Node) (g : Text → Text) : Prop where
  id : ∀ node, (f node).id = g node.id
  isDecision : ∀ node, (f node).isDecision = node.isDecision
  isAlternative : ∀ node, (f node).isAlternative = node.isAlternative

namespace Edge

variable {f : Node → Node} {g : Text → Text}

/-- An edge between renamed nodes. -/
def rename (g : Text → Text) (e : Edge) : Edge := ⟨g e.source, g e.target, e.label⟩

/-- Among changed nodes a node finds its old answer, changed. -/
theorem answer?_map (hf : Node.Renaming f g) (node : Node) (following : List Node) :
    answer? node (following.map f) = (answer? node following).map f := by
  have halternative : Node.isAlternative ∘ f = Node.isAlternative := funext hf.isAlternative
  rw [answer?, answer?]
  cases node.isDecision with
  | true => rw [if_pos rfl, if_pos rfl, List.find?_map, halternative]
  | false => rfl

theorem leaving_map (hf : Node.Renaming f g) (node next : Node) (later : List Node) :
    leaving (f node) (f next) (later.map f) = (leaving node next later).map (rename g) := by
  have hanswer : answer? (f node) (f next :: later.map f) =
      (answer? node (next :: later)).map f := by
    rw [← answer?_map hf, answer?, hf.isDecision]
    rfl
  rw [leaving, leaving, hanswer]
  cases answer? node (next :: later) with
  | none => simp [rename, hf.id]
  | some alternative => simp [rename, hf.id]

/-- The edges over changed nodes. The induction is on the nodes, as in `connect`. -/
theorem connect_map (hf : Node.Renaming f g) (nodes : List Node) :
    connect (nodes.map f) = (connect nodes).map (rename g) := by
  induction nodes with
  | nil => rfl
  | cons node rest ih =>
    cases rest with
    | nil => rfl
    | cons next later =>
      rw [List.map_cons] at ih
      rw [List.map_cons, List.map_cons, connect, connect, List.map_append, leaving_map hf, ih]

end Edge

end ProseChart

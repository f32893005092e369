import ProseChart.Chart.Mermaid
import ProseChart.Proofs.Chart.Ladder
import ProseChart.Proofs.Step.Layout
import ProseChart.Proofs.Text.Number

/-!
# ProseChart.Proofs.Chart.Mermaid — Mermaid source can be read back

Labels are written as they are, without escapes, so a label may look like the
rest of a line. Names can not: they are letters and digits, and the line format
puts another character after each of them. That is enough to read every line
back, and a chart from its lines.

* `Chart.Writable` — names are names, labels have no line feed, no label is empty.
* `Node.mermaid_inj`, `Edge.mermaid_inj`, `Node.mermaid_ne_mermaid` — one line.
* `Chart.mermaid_inj` — the whole source.
* `Chart.writable_ofDescription` — charts of descriptions are of this kind.
-/

namespace ProseChart

/-- A name: letters and digits of ASCII, at least one. -/
structure Text.IsName (t : Text) : Prop where
  ne_nil : t ≠ []
  alphanum : ∀ c ∈ t, c.isAlphanum = true

/-- A node whose line can be read back. -/
structure Node.Writable (node : Node) : Prop where
  id : Text.IsName node.id
  label : '\n' ∉ node.label

/-- An edge whose line can be read back. -/
structure Edge.Writable (edge : Edge) : Prop where
  source : Text.IsName edge.source
  target : Text.IsName edge.target
  label : ∀ label ∈ edge.label, label ≠ [] ∧ '\n' ∉ label

/-- A chart whose source can be read back. -/
structure Chart.Writable (chart : Chart) : Prop where
  nodes : ∀ node ∈ chart.nodes, node.Writable
  edges : ∀ edge ∈ chart.edges, edge.Writable

instance (t : Text) : Decidable (Text.IsName t) :=
  decidable_of_iff (t ≠ [] ∧ t.all Char.isAlphanum = true)
    ⟨fun ⟨h₁, h₂⟩ => ⟨h₁, List.all_eq_true.mp h₂⟩,
      fun ⟨h₁, h₂⟩ => ⟨h₁, List.all_eq_true.mpr h₂⟩⟩

instance (node : Node) : Decidable node.Writable :=
  decidable_of_iff (Text.IsName node.id ∧ '\n' ∉ node.label)
    ⟨fun ⟨h₁, h₂⟩ => ⟨h₁, h₂⟩, fun ⟨h₁, h₂⟩ => ⟨h₁, h₂⟩⟩

instance (edge : Edge) : Decidable edge.Writable :=
  decidable_of_iff (Text.IsName edge.source ∧ Text.IsName edge.target ∧
      ∀ label ∈ edge.label, label ≠ [] ∧ '\n' ∉ label)
    ⟨fun ⟨h₁, h₂, h₃⟩ => ⟨h₁, h₂, h₃⟩, fun ⟨h₁, h₂, h₃⟩ => ⟨h₁, h₂, h₃⟩⟩

instance (chart : Chart) : Decidable chart.Writable :=
  decidable_of_iff ((∀ node ∈ chart.nodes, node.Writable) ∧ ∀ edge ∈ chart.edges, edge.Writable)
    ⟨fun ⟨h₁, h₂⟩ => ⟨h₁, h₂⟩, fun ⟨h₁, h₂⟩ => ⟨h₁, h₂⟩⟩

/-! ## What follows a name -/

namespace Text

/-- Names that something else follows can be told apart. -/
theorem IsName.append_inj {a b s t : Text} {c d : Char} (ha : IsName a) (hb : IsName b)
    (hc : c.isAlphanum = false) (hd : d.isAlphanum = false) (h : a ++ c :: s = b ++ d :: t) :
    a = b ∧ c = d ∧ s = t := by
  have hs : ∀ x ∈ (c :: s).head?, ¬ x.isAlphanum = true := by simp [hc]
  have ht : ∀ x ∈ (d :: t).head?, ¬ x.isAlphanum = true := by simp [hd]
  rcases append_inj_of_forall ha.alphanum hb.alphanum hs ht h with ⟨hab, hrest⟩
  exact ⟨hab, List.cons.inj hrest⟩

theorem IsName.no_feed {t : Text} (ht : IsName t) : '\n' ∉ t := by
  intro h
  have hfeed := ht.alphanum _ h
  cases hfeed

end Text

/-! ## Lines -/

namespace Node

/-- The line of a node, cut where its name ends. -/
theorem mermaid_eq (node : Node) :
    node.mermaid = Chart.indent ++ (node.id ++ '[' :: ('"' :: (node.label ++ ['"', ']']))) := by
  simp [mermaid]

theorem mermaid_inj {node node' : Node} (h : node.Writable) (h' : node'.Writable)
    (heq : node.mermaid = node'.mermaid) : node = node' := by
  rcases node with ⟨id, label⟩
  rcases node' with ⟨id', label'⟩
  rw [mermaid_eq, mermaid_eq] at heq
  have hcut := h.id.append_inj h'.id (by decide) (by decide) (List.append_cancel_left heq)
  rcases hcut with ⟨hid, -, hrest⟩
  -- what closes the box is the same on every line
  have hlabel : label = label' := List.append_cancel_right (List.cons.inj hrest).2
  exact congrArg₂ Node.mk hid hlabel

theorem no_feed_mermaid {node : Node} (h : node.Writable) : '\n' ∉ node.mermaid := by
  rw [mermaid_eq]
  simp [Chart.indent, h.id.no_feed, h.label]

end Node

namespace Edge

/-- What follows the source on the line of an edge. -/
def tail (label : Option Text) (target : Text) : Text :=
  match label with
  | none => "--> " ++ target
  | some label => "-->|" ++ (label ++ "| ") ++ target

/-- The line of an edge, cut where the name of its source ends. -/
theorem mermaid_eq {edge : Edge} (h : edge.Writable) :
    edge.mermaid = Chart.indent ++ (edge.source ++ ' ' :: tail edge.label edge.target) := by
  rw [mermaid]
  cases hl : edge.label with
  | none => simp [tail]
  | some label =>
    cases label with
    | nil => exact absurd rfl (h.label [] hl).1
    | cons c rest => simp [tail]

/-- The character after the arrow shows whether there is a label, and the target
is the name at the end. -/
theorem tail_inj {label label' : Option Text} {target target' : Text}
    (h : Text.IsName target) (h' : Text.IsName target')
    (heq : tail label target = tail label' target') : label = label' ∧ target = target' := by
  cases label with
  | none =>
    cases label' with
    | none => exact ⟨rfl, List.append_cancel_left heq⟩
    | some label' => simp [tail] at heq
  | some label =>
    cases label' with
    | none => simp [tail] at heq
    | some label' =>
      simp only [tail, List.append_assoc] at heq
      have hrest : (label ++ "| ".toList) ++ target = (label' ++ "| ".toList) ++ target' := by
        simpa using heq
      -- the last bar, and not the first, ends the label
      have hcut : label ++ "| ".toList = label' ++ "| ".toList ∧ target = target' :=
        Text.append_inj_of_forall_right h.alphanum h'.alphanum (by simp) (by simp) hrest
      constructor
      · rw [List.append_cancel_right hcut.1]
      · exact hcut.2

theorem mermaid_inj {edge edge' : Edge} (h : edge.Writable) (h' : edge'.Writable)
    (heq : edge.mermaid = edge'.mermaid) : edge = edge' := by
  rcases edge with ⟨source, target, label⟩
  rcases edge' with ⟨source', target', label'⟩
  rw [mermaid_eq h, mermaid_eq h'] at heq
  have hcut := h.source.append_inj h'.source (by decide) (by decide)
    (List.append_cancel_left heq)
  have hsource : source = source' := hcut.1
  have htail : label = label' ∧ target = target' := tail_inj h.target h'.target hcut.2.2
  rw [hsource, htail.1, htail.2]

theorem no_feed_mermaid {edge : Edge} (h : edge.Writable) : '\n' ∉ edge.mermaid := by
  rw [mermaid_eq h]
  cases hl : edge.label with
  | none => simp [Chart.indent, tail, h.source.no_feed, h.target.no_feed]
  | some label =>
    simp [Chart.indent, tail, h.source.no_feed, h.target.no_feed, (h.label label hl).2]

end Edge

/-- After the name, the line of a node goes on with a bracket and the line of an
edge with a space. -/
theorem Node.mermaid_ne_mermaid {node : Node} {edge : Edge} (h : node.Writable)
    (h' : edge.Writable) : node.mermaid ≠ edge.mermaid := by
  intro heq
  rw [Node.mermaid_eq, Edge.mermaid_eq h'] at heq
  have hcut := h.id.append_inj h'.source (by decide) (by decide)
    (List.append_cancel_left heq)
  have hchar : '[' = ' ' := hcut.2.1
  cases hchar

/-! ## Charts -/

namespace Chart

theorem no_feed_header : '\n' ∉ header := by decide

theorem no_feed_of_mem_lines {chart : Chart} (h : chart.Writable) :
    ∀ l ∈ chart.lines, '\n' ∉ l := by
  intro l hl
  rcases List.mem_cons.mp hl with rfl | hl
  · exact no_feed_header
  · rcases List.mem_append.mp hl with hl | hl
    · rcases List.mem_map.mp hl with ⟨node, hnode, rfl⟩
      exact Node.no_feed_mermaid (h.nodes node hnode)
    · rcases List.mem_map.mp hl with ⟨edge, hedge, rfl⟩
      exact Edge.no_feed_mermaid (h.edges edge hedge)

/-- The lines of nodes. -/
def IsNodeLine (l : Text) : Prop := ∃ node : Node, node.Writable ∧ l = node.mermaid

theorem isNodeLine_of_mem {chart : Chart} (h : chart.Writable) :
    ∀ l ∈ chart.nodes.map Node.mermaid, IsNodeLine l := by
  intro l hl
  rcases List.mem_map.mp hl with ⟨node, hmem, rfl⟩
  exact ⟨node, h.nodes node hmem, rfl⟩

theorem not_isNodeLine_of_mem {chart : Chart} (h : chart.Writable) :
    ∀ l ∈ chart.edges.map Edge.mermaid, ¬ IsNodeLine l := by
  rintro l hl ⟨node, hwrite, rfl⟩
  rcases List.mem_map.mp hl with ⟨edge, hmem, hline⟩
  exact Node.mermaid_ne_mermaid hwrite (h.edges edge hmem) hline.symm

/-- Lines of nodes come first, and no line of an edge is one of them. -/
theorem lines_inj {chart chart' : Chart} (h : chart.Writable) (h' : chart'.Writable)
    (heq : chart.lines = chart'.lines) : chart = chart' := by
  rcases chart with ⟨nodes, edges⟩
  rcases chart' with ⟨nodes', edges'⟩
  -- the first line that is no node line is where the edges start
  have hcut : nodes.map Node.mermaid = nodes'.map Node.mermaid ∧
      edges.map Edge.mermaid = edges'.map Edge.mermaid :=
    Text.append_inj_of_forall (isNodeLine_of_mem h) (isNodeLine_of_mem h')
      (fun l hl => not_isNodeLine_of_mem h l (List.mem_of_mem_head? hl))
      (fun l hl => not_isNodeLine_of_mem h' l (List.mem_of_mem_head? hl))
      (List.cons.inj heq).2
  have hnodes : nodes = nodes' := Text.map_inj_of_forall
    (fun n hn n' hn' => Node.mermaid_inj (h.nodes n hn) (h'.nodes n' hn')) hcut.1
  have hedges : edges = edges' := Text.map_inj_of_forall
    (fun e he e' he' => Edge.mermaid_inj (h.edges e he) (h'.edges e' he')) hcut.2
  rw [hnodes, hedges]

theorem mermaid_inj {chart chart' : Chart} (h : chart.Writable) (h' : chart'.Writable)
    (heq : chart.mermaid = chart'.mermaid) : chart = chart' := by
  have hlines : chart.lines = chart'.lines :=
    Text.unlines_inj (no_feed_of_mem_lines h) (no_feed_of_mem_lines h') heq
  exact lines_inj h h' hlines

end Chart

/-! ## Charts of descriptions -/

/-- An id is a name. -/
theorem Node.isName_idAt (i : Nat) : Text.IsName (idAt i) := by
  refine ⟨by simp [idAt], ?_⟩
  intro c hc
  rcases List.mem_append.mp hc with hc | hc
  · have hstep : "step".toList.all Char.isAlphanum = true := by decide
    exact List.all_eq_true.mp hstep c hc
  · have hdigit : c.isDigit = true := Text.isDigit_of_mem_ofNat c hc
    simp [Char.isAlphanum, hdigit]

/-- A step has no delimiter, so no line feed, and losing its quote characters
brings none in. -/
theorem Step.no_feed_unquote {description s : Text} (h : s ∈ extract description) :
    '\n' ∉ s.unquote := by
  intro hfeed
  have hmem : '\n' ∈ s := List.mem_of_mem_filter hfeed
  have hdelimiter := (isStep_of_mem_extract h).no_delimiter _ hmem
  cases hdelimiter

theorem Chart.writable_ofDescription (description : Text) :
    (Chart.ofDescription description).Writable where
  nodes := by
    intro node hnode
    rcases List.mem_mapIdx.mp hnode with ⟨k, hk, rfl⟩
    exact ⟨Node.isName_idAt (k + 1), Step.no_feed_unquote (List.getElem_mem hk)⟩
  edges := by
    intro edge hedge
    have hmem : edge ∈ Edge.connect (Node.ofSteps (Step.extract description)) := hedge
    rw [Edge.connect_eq_ladder (Node.numbered_ofSteps _)] at hmem
    rcases Edge.mem_ladder.mp hmem with ⟨i, -, -, hfan⟩
    rcases Edge.exists_between_of_mem_fan hfan with ⟨j, label, rfl, hlabel⟩
    refine ⟨Node.isName_idAt i, Node.isName_idAt j, ?_⟩
    intro mark hmark
    have hsome : label = some mark := hmark
    rw [hsome] at hlabel
    have hcases : mark = Edge.yes ∨ mark = Edge.no := by simpa using hlabel
    rcases hcases with rfl | rfl
    · decide
    · decide

/-- Mermaid source loses nothing. Charts with the same source are the same, if
their names are names and their labels have no line feed; charts of descriptions
are of this kind, so that descriptions with the same source are those with the
same chart; and such a source is the header and one line for every node and
edge. -/
theorem Chart.mermaid_loses_nothing :
    (∀ chart chart' : Chart, chart.Writable → chart'.Writable →
      chart.mermaid = chart'.mermaid → chart = chart') ∧
    (∀ d : Text, (Chart.ofDescription d).Writable) ∧
    (∀ d d' : Text,
      Chart.source d = Chart.source d' ↔ Chart.ofDescription d = Chart.ofDescription d') ∧
    (∀ d : Text, ∃ lines : List Text, Chart.source d = Text.unlines lines ∧
      (∀ l ∈ lines, '\n' ∉ l) ∧ lines.head? = some Chart.header ∧
      lines.length = 1 + (Chart.ofDescription d).nodes.length +
        (Chart.ofDescription d).edges.length) := by
  refine ⟨fun _ _ => mermaid_inj, writable_ofDescription, ?_, ?_⟩
  · intro d d'
    constructor
    · exact mermaid_inj (writable_ofDescription d) (writable_ofDescription d')
    · intro h
      rw [source, source, h]
  · intro d
    refine ⟨(Chart.ofDescription d).lines, rfl,
      no_feed_of_mem_lines (writable_ofDescription d), rfl, ?_⟩
    simp [lines]
    omega

namespace Chart

/-- A label that looks like the rest of its line. -/
def barredLabel : Chart := ⟨[⟨"a", "b\"] --> c"⟩], [⟨"a", "c", some "x| b -->|y"⟩]⟩

/-- A chart with the line of `barredLabel` up to the bar in the label. -/
def plainLabel : Chart := ⟨[⟨"a", "b\"] --> c"⟩], [⟨"a", "c", some "x"⟩]⟩

theorem mermaid_barredLabel_ne : barredLabel.Writable ∧ plainLabel.Writable ∧
    barredLabel ≠ plainLabel ∧ barredLabel.mermaid ≠ plainLabel.mermaid := by
  have hbarred : barredLabel.Writable := by decide
  have hplain : plainLabel.Writable := by decide
  have hne : barredLabel ≠ plainLabel := by decide
  refine ⟨hbarred, hplain, hne, ?_⟩
  intro h
  exact hne (mermaid_loses_nothing.1 barredLabel plainLabel hbarred hplain h)

end Chart

end ProseChart

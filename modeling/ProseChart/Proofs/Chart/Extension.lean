import ProseChart.Proofs.Chart.Ladder
import ProseChart.Proofs.Chart.Renaming

/-!
# ProseChart.Proofs.Chart.Extension — charts of longer descriptions

Text that is appended to a description adds steps after the ones that are there.
The chart of the whole is the old chart, the chart of the new text with its
positions moved up, and the edges from the last old step to the new ones. Later
text changes one thing only in what is drawn already: a decision that found no
alternative may find one now.

* `Chart.shift` — a chart with its positions moved up.
* `Edge.revised` — what becomes of an old edge; `Edge.bridge` — the edges in between.
* `Edge.connect_append` — the edges over nodes that other nodes follow.
* `Chart.Continues`, `Chart.continues_append` — the chart of an appended description.
-/

namespace ProseChart

open Node (idAt positionOf Numbered)

/-! ## Moving positions up -/

/-- The id of the node `n` positions further. -/
def Node.shiftId (n : Nat) (id : Text) : Text := idAt (positionOf id + n : Nat)

/-- A node moved up by `n` positions. -/
def Node.shift (n : Nat) (node : Node) : Node := ⟨shiftId n node.id, node.label⟩

/-- An edge moved up by `n` positions. -/
def Edge.shift (n : Nat) (e : Edge) : Edge :=
  ⟨Node.shiftId n e.source, Node.shiftId n e.target, e.label⟩

/-- A chart moved up by `n` positions. -/
def Chart.shift (n : Nat) (chart : Chart) : Chart :=
  ⟨chart.nodes.map (Node.shift n), chart.edges.map (Edge.shift n)⟩

namespace Node

variable {n i : Nat}

@[simp] theorem shiftId_idAt : shiftId n (idAt i) = idAt (i + n : Nat) := by
  rw [shiftId, positionOf_idAt]

/-- Moving up looks at no label. -/
theorem renaming_shift (n : Nat) : Renaming (shift n) (shiftId n) where
  id _ := rfl
  isDecision _ := rfl
  isAlternative _ := rfl

@[simp] theorem positionOf_shiftId (id : Text) : positionOf (shiftId n id) = positionOf id + n :=
  positionOf_idAt _

/-- The nodes of more steps are the old nodes and the new ones, moved up. -/
theorem ofSteps_append (a b : List Text) :
    ofSteps (a ++ b) = ofSteps a ++ (ofSteps b).map (shift a.length) := by
  rw [ofSteps, ofSteps, ofSteps, List.mapIdx_append]
  congr 1
  apply List.ext_getElem
  · simp
  · intro k hk hk'
    have hposition : ((k + a.length : Nat) : Int) + 1 = (k + 1 + a.length : Nat) := by omega
    rw [List.getElem_map, List.getElem_mapIdx, List.getElem_mapIdx, hposition, shift]
    exact congrArg (Node.mk · _) (shiftId_idAt (i := k + 1)).symm

end Node

namespace Edge

variable {n : Nat} {node next : Node} {nodes later : List Node} {e : Edge}

/-! ## Edges over nodes that other nodes follow -/

/-- What becomes of an edge over `nodes` when other nodes follow. An edge with a
mark stays as it is, and so does a plain edge, unless it leaves a decision that
one of the later nodes answers: then that decision branches. -/
def revised (nodes later : List Node) (e : Edge) : List Edge :=
  match e.label, (nodes.find? (·.id == e.source)).bind (answer? · later) with
  | none, some alternative => [⟨e.source, e.target, some yes⟩, ⟨e.source, alternative.id, some no⟩]
  | _, _ => [e]

/-- The edges from the last node of a list to the nodes that follow the list. -/
def bridge (nodes later : List Node) : List Edge :=
  match nodes.getLast?, later with
  | some node, next :: rest => leaving node next rest
  | _, _ => []

/-- An answer among the first nodes counts before those that follow. -/
theorem answer?_append (node : Node) (following later : List Node) :
    answer? node (following ++ later) = (answer? node following).or (answer? node later) := by
  rw [answer?, answer?, answer?]
  cases node.isDecision with
  | true => exact List.find?_append
  | false => rfl

theorem source_of_mem_leaving (h : e ∈ leaving node next later) : e.source = node.id := by
  rw [leaving] at h
  cases hanswer : answer? node (next :: later) with
  | none =>
    rw [hanswer, List.mem_singleton] at h
    rw [h]
  | some alternative =>
    rw [hanswer, List.mem_pair] at h
    rcases h with h | h
    · rw [h]
    · rw [h]

theorem source_mem_ids (h : e ∈ connect nodes) : e.source ∈ nodes.map Node.id := by
  induction nodes with
  | nil => cases h
  | cons node rest ih =>
    cases rest with
    | nil => cases h
    | cons next later =>
      rw [connect] at h
      rcases List.mem_append.mp h with h | h
      · rw [source_of_mem_leaving h]
        exact List.mem_cons_self
      · exact List.mem_cons_of_mem _ (ih h)

/-- The edges out of a node, revised, are those that it has with more nodes after
it. -/
theorem flatMap_revised_leaving (node next : Node) (rest later : List Node) :
    (leaving node next rest).flatMap (revised (node :: next :: rest) later) =
      leaving node next (rest ++ later) := by
  have happend := answer?_append node (next :: rest) later
  rw [List.cons_append] at happend
  rw [leaving, leaving, happend]
  cases answer? node (next :: rest) with
  | some alternative => rfl
  | none =>
    -- a plain edge: its source is the first node, which now looks at `later`
    cases hlater : answer? node later with
    | none => simp [revised, hlater]
    | some alternative => simp [revised, hlater]

/-- An edge that leaves another node does not look at the first one. -/
theorem revised_cons_of_ne (h : node.id ≠ e.source) :
    revised (node :: nodes) later e = revised nodes later e := by
  rw [revised, revised, List.find?_cons_of_neg (by simpa using h)]

/-- The edges over two lists of nodes, one after the other: the edges over the
first list, revised, then the ones in between, then the edges over the second
list. The induction is on the first list, as in `connect`. -/
theorem connect_append (hids : (nodes.map Node.id).Nodup) (later : List Node) :
    connect (nodes ++ later) =
      (connect nodes).flatMap (revised nodes later) ++ bridge nodes later ++ connect later := by
  induction nodes with
  | nil => rfl
  | cons node rest ih =>
    rcases List.nodup_cons.mp hids with ⟨hfresh, hrest⟩
    cases rest with
    | nil =>
      cases later with
      | nil => rfl
      | cons next later => rfl
    | cons next rest =>
      -- the edges out of `rest` do not leave `node`, whose id is another one
      have hsame : (connect (next :: rest)).flatMap (revised (node :: next :: rest) later) =
          (connect (next :: rest)).flatMap (revised (next :: rest) later) := by
        apply List.flatMap_congr
        intro e he
        exact revised_cons_of_ne fun heq => hfresh (heq ▸ source_mem_ids he)
      have hbridge : bridge (node :: next :: rest) later = bridge (next :: rest) later := by
        unfold bridge
        rw [List.getLast?_cons_cons]
      have hconnect := ih hrest
      rw [List.cons_append] at hconnect
      rw [List.cons_append, List.cons_append, connect, hconnect, connect, List.flatMap_append,
        flatMap_revised_leaving, hsame, hbridge]
      simp only [List.append_assoc]

/-! ## Positions -/

/-- The edges over numbered nodes leave positions before the last. -/
theorem positionOf_source_of_mem_connect (hn : Numbered nodes) (h : e ∈ connect nodes) :
    1 ≤ positionOf e.source ∧ positionOf e.source < nodes.length := by
  rw [connect_eq_ladder hn] at h
  rcases mem_ladder.mp h with ⟨i, hlo, hhi, hfan⟩
  rw [source_of_mem_fan hfan, Node.positionOf_idAt]
  exact ⟨hlo, hhi⟩

/-- A revised edge leaves the node that it left. -/
theorem source_of_mem_revised {e' : Edge} (h : e' ∈ revised nodes later e) :
    e'.source = e.source := by
  unfold revised at h
  split at h
  · rw [List.mem_pair] at h
    rcases h with rfl | rfl
    · rfl
    · rfl
  · rw [List.mem_singleton] at h
    rw [h]

theorem source_of_mem_bridge (hn : Numbered nodes) (h : e ∈ bridge nodes later) :
    e.source = idAt nodes.length := by
  unfold bridge at h
  split at h
  · next node next rest hlast =>
    rw [source_of_mem_leaving h]
    have hne : nodes ≠ [] := by
      rintro rfl
      cases hlast
    have hpos : 0 < nodes.length := List.length_pos_of_ne_nil hne
    have hat : Node.at? nodes (nodes.length - 1 + 1) = some node := by
      rwa [List.getLast?_eq_getElem?] at hlast
    have hid := hn.id_eq hat
    rwa [Nat.sub_add_cancel hpos] at hid
  · cases h

end Edge

/-! ## Charts of appended descriptions -/

namespace Chart

/-- A chart moved up behind another one. -/
def behind (second first : Chart) : Chart := second.shift first.nodes.length

/-- The edges of a chart, revised in view of the nodes that follow it. -/
def revisedEdges (first second : Chart) : List Edge :=
  first.edges.flatMap (Edge.revised first.nodes (second.behind first).nodes)

/-- The edges from the last node of a chart to the nodes that follow it. -/
def bridgeTo (first second : Chart) : List Edge :=
  Edge.bridge first.nodes (second.behind first).nodes

/-- Two charts in a row. -/
def append (first second : Chart) : Chart where
  nodes := first.nodes ++ (second.behind first).nodes
  edges := first.revisedEdges second ++ first.bridgeTo second ++ (second.behind first).edges

/-- The chart of more steps is the chart of the first ones and, behind it, the
chart of the others. -/
theorem ofSteps_append (a b : List Text) :
    ofSteps (a ++ b) = (ofSteps a).append (ofSteps b) := by
  have hids : ((Node.ofSteps a).map Node.id).Nodup := (Node.numbered_ofSteps a).nodup_ids
  have hlength : (ofSteps a).nodes.length = a.length := length_nodes_ofSteps a
  have hbehind : ((ofSteps b).behind (ofSteps a)).nodes =
      (Node.ofSteps b).map (Node.shift a.length) := by
    rw [behind, hlength]
    rfl
  have hshift : ((ofSteps b).behind (ofSteps a)).edges =
      Edge.connect ((Node.ofSteps b).map (Node.shift a.length)) := by
    rw [behind, hlength]
    exact (Edge.connect_map (Node.renaming_shift a.length) (Node.ofSteps b)).symm
  rw [append, revisedEdges, bridgeTo, hshift, hbehind, ofSteps, Node.ofSteps_append,
    Edge.connect_append hids]
  rfl

/-! ### Where the edges of two charts in a row start -/

section Positions

variable {first second : Chart} {e : Edge}

theorem position_of_mem_revisedEdges (hn : Numbered first.nodes)
    (hedges : first.edges = Edge.connect first.nodes) (h : e ∈ first.revisedEdges second) :
    positionOf e.source < first.nodes.length := by
  rcases List.mem_flatMap.mp h with ⟨old, hold, hrevised⟩
  rw [hedges] at hold
  rw [Edge.source_of_mem_revised hrevised]
  exact (Edge.positionOf_source_of_mem_connect hn hold).2

theorem position_of_mem_behind (hn : Numbered second.nodes)
    (hedges : second.edges = Edge.connect second.nodes) (h : e ∈ (second.behind first).edges) :
    first.nodes.length < positionOf e.source := by
  rcases List.mem_map.mp h with ⟨old, hold, rfl⟩
  rw [hedges] at hold
  have hlo : 1 ≤ positionOf old.source := (Edge.positionOf_source_of_mem_connect hn hold).1
  have hshift : positionOf (old.shift first.nodes.length).source =
      positionOf old.source + first.nodes.length := Node.positionOf_shiftId old.source
  omega

theorem position_of_mem_bridgeTo (hn : Numbered first.nodes) (h : e ∈ first.bridgeTo second) :
    positionOf e.source = first.nodes.length := by
  rw [Edge.source_of_mem_bridge hn h, Node.positionOf_idAt]

end Positions

/-- Of items with keys below `n`, at `n` and above `n`, in this order, those below
stand at the front. -/
theorem filter_below {α : Type} {key : α → Nat} {n : Nat} {below level above : List α}
    (hbelow : ∀ x ∈ below, key x < n) (hlevel : ∀ x ∈ level, key x = n)
    (habove : ∀ x ∈ above, n < key x) :
    (below ++ level ++ above).filter (key · < n) = below := by
  have hfront : below.filter (key · < n) = below := by
    rw [List.filter_eq_self]
    intro x hx
    simpa using hbelow x hx
  have hmiddle : level.filter (key · < n) = [] := by
    rw [List.filter_eq_nil_iff]
    intro x hx
    simp [hlevel x hx]
  have hback : above.filter (key · < n) = [] := by
    rw [List.filter_eq_nil_iff]
    intro x hx
    simpa using Nat.le_of_lt (habove x hx)
  rw [List.filter_append, List.filter_append, hfront, hmiddle, hback, List.append_nil,
    List.append_nil]

/-- Of items with keys below `n`, at `n` and above `n`, in this order, those above
stand at the back. -/
theorem filter_above {α : Type} {key : α → Nat} {n : Nat} {below level above : List α}
    (hbelow : ∀ x ∈ below, key x < n) (hlevel : ∀ x ∈ level, key x = n)
    (habove : ∀ x ∈ above, n < key x) :
    (below ++ level ++ above).filter (n < key ·) = above := by
  have hfront : below.filter (n < key ·) = [] := by
    rw [List.filter_eq_nil_iff]
    intro x hx
    simpa using Nat.le_of_lt (hbelow x hx)
  have hmiddle : level.filter (n < key ·) = [] := by
    rw [List.filter_eq_nil_iff]
    intro x hx
    simp [hlevel x hx]
  have hback : above.filter (n < key ·) = above := by
    rw [List.filter_eq_self]
    intro x hx
    simpa using habove x hx
  rw [List.filter_append, List.filter_append, hfront, hmiddle, hback]
  rfl

/-! ### Charts that continue a chart -/

/-- The chart `whole` draws what `first` draws and, after it, what `second` draws. -/
structure Continues (first second whole : Chart) : Prop where
  /-- The nodes are those of `first`, then those of `second` with their positions
  moved up. -/
  nodes : whole.nodes = first.nodes ++ second.nodes.map (Node.shift first.nodes.length)
  /-- The edges out of positions above the last one of `first` are those of
  `second`, moved up. -/
  after : whole.edges.filter (first.nodes.length < positionOf ·.source) =
    second.edges.map (Edge.shift first.nodes.length)
  /-- The edges out of positions below it are those of `first`, revised in view of
  the nodes of `second`. -/
  before : whole.edges.filter (positionOf ·.source < first.nodes.length) =
    first.revisedEdges second
  /-- An edge of `first` with a mark stays as it is. -/
  marked : ∀ e, e.label ≠ none → Edge.revised first.nodes (second.behind first).nodes e = [e]
  /-- A plain edge of `first` stays as it is where its source is no decision or where
  `second` has no alternative. -/
  plain : ∀ node ∈ first.nodes, ∀ target,
    (node.isDecision = false ∨ ∀ other ∈ second.nodes, other.isAlternative = false) →
      Edge.revised first.nodes (second.behind first).nodes ⟨node.id, target, none⟩ =
        [⟨node.id, target, none⟩]
  /-- A plain edge out of a decision becomes a Yes edge between the same nodes where
  `second` has an alternative; a No edge to the first alternative, moved up, follows. -/
  branch : ∀ node ∈ first.nodes, ∀ target, node.isDecision = true →
    ∀ alternative ∈ second.nodes.find? Node.isAlternative,
      Edge.revised first.nodes (second.behind first).nodes ⟨node.id, target, none⟩ =
        [⟨node.id, target, some Edge.yes⟩,
          ⟨node.id, (alternative.shift first.nodes.length).id, some Edge.no⟩]
  /-- In the list, the edges between the two charts stand between those of `first` and
  those of `second`. -/
  edges : whole.edges =
    first.revisedEdges second ++ first.bridgeTo second ++
      second.edges.map (Edge.shift first.nodes.length)
  /-- The edges between the two charts leave the last position of `first`. -/
  bridge : ∀ e ∈ first.bridgeTo second, e.source = idAt first.nodes.length

/-- What becomes of a plain edge depends on the node that it leaves. -/
theorem revised_plain {first : Chart} (hn : Numbered first.nodes) {node : Node}
    (hnode : node ∈ first.nodes) (target : Text) (second : Chart) :
    Edge.revised first.nodes (second.behind first).nodes ⟨node.id, target, none⟩ =
      match Edge.answer? node second.nodes with
      | some alternative =>
        [⟨node.id, target, some Edge.yes⟩,
          ⟨node.id, (alternative.shift first.nodes.length).id, some Edge.no⟩]
      | none => [⟨node.id, target, none⟩] := by
  have hfind : first.nodes.find? (·.id == node.id) = some node := hn.find?_id hnode
  have hanswer : Edge.answer? node (second.behind first).nodes =
      (Edge.answer? node second.nodes).map (Node.shift first.nodes.length) :=
    Edge.answer?_map (Node.renaming_shift _) node second.nodes
  unfold Edge.revised
  rw [hfind, Option.bind_some, hanswer]
  cases Edge.answer? node second.nodes with
  | none => rfl
  | some alternative => rfl

theorem continues_ofSteps (a b : List Text) :
    Continues (ofSteps a) (ofSteps b) (ofSteps (a ++ b)) := by
  have hna : Numbered (ofSteps a).nodes := Node.numbered_ofSteps a
  have hnb : Numbered (ofSteps b).nodes := Node.numbered_ofSteps b
  rw [ofSteps_append]
  constructor
  case nodes => rfl
  case edges => rfl
  case bridge =>
    intro e he
    exact Edge.source_of_mem_bridge hna he
  case before =>
    exact filter_below (fun e he => position_of_mem_revisedEdges hna rfl he)
      (fun e he => position_of_mem_bridgeTo hna he) (fun e he => position_of_mem_behind hnb rfl he)
  case after =>
    exact filter_above (fun e he => position_of_mem_revisedEdges hna rfl he)
      (fun e he => position_of_mem_bridgeTo hna he) (fun e he => position_of_mem_behind hnb rfl he)
  case marked =>
    intro e he
    unfold Edge.revised
    split
    · next hlabel _ => exact absurd hlabel he
    · rfl
  case plain =>
    intro node hnode target hnone
    have hanswer : Edge.answer? node (ofSteps b).nodes = none := by
      rw [Edge.answer?]
      rcases hnone with hnone | hnone
      · rw [hnone]
        rfl
      · have hfind : (ofSteps b).nodes.find? Node.isAlternative = none := by
          rw [List.find?_eq_none]
          intro other hother
          simp [hnone other hother]
        rw [hfind, ite_self]
    rw [revised_plain hna hnode, hanswer]
  case branch =>
    intro node hnode target hdecision alternative halternative
    have hanswer : Edge.answer? node (ofSteps b).nodes = some alternative := by
      rw [Edge.answer?, hdecision, if_pos rfl]
      exact halternative
    rw [revised_plain hna hnode, hanswer]

/-- Appending text to a description, after a delimiter, only extends its chart. -/
theorem continues_append (d₁ d₂ : Text) {c : Char} (hc : c = '.' ∨ c = ',' ∨ c = '\n') :
    Continues (ofDescription d₁) (ofDescription d₂) (ofDescription (d₁ ++ c :: d₂)) := by
  have hsteps : Step.extract (d₁ ++ c :: d₂) = Step.extract d₁ ++ Step.extract d₂ :=
    Step.extract_append_cons (Step.isDelimiter_iff.mpr hc) d₁ d₂
  have hwhole : ofDescription (d₁ ++ c :: d₂) =
      ofSteps (Step.extract d₁ ++ Step.extract d₂) := by
    rw [ofDescription, hsteps]
  rw [hwhole]
  exact continues_ofSteps (Step.extract d₁) (Step.extract d₂)

/-- The first decision keeps its answer; the second one, without an answer so far,
finds one in the text that follows. -/
theorem continues_stockCheck :
    ('.' = '.' ∨ '.' = ',' ∨ '.' = '\n') ∧
      Continues (ofDescription "Check stock. Otherwise order. If late, call")
        (ofDescription "Pack\nor else wait")
        (ofDescription
          (("Check stock. Otherwise order. If late, call" : Text) ++
            '.' :: ("Pack\nor else wait" : Text))) :=
  ⟨by decide, continues_append _ _ (by decide)⟩

example : (ofDescription "If late, call").edges = [Edge.between 1 2 none] ∧
    (ofDescription "If late, call.Else wait").edges =
      [Edge.between 1 2 (some Edge.yes), Edge.between 1 3 (some Edge.no),
        Edge.between 2 3 none] := by decide

end Chart

end ProseChart

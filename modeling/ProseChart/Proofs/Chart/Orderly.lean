import Mathlib.Data.List.Chain
import Mathlib.Logic.Relation
import ProseChart.Proofs.Chart.Ladder

/-!
# ProseChart.Proofs.Chart.Orderly — the shape of every chart

Whatever the description, its chart is one line of steps with side branches that
point forward. `Chart.Orderly` collects what that means for ids, single edges,
walks and the list of edges as a whole; `Chart.orderly_ofDescription` says that
every chart has this shape.

Nothing here looks at labels: the ladder of `Edge.connect_eq_ladder` has this
shape for any answers that lie after their positions and within the chart
(`Edge.AnswersAhead`), and `Node.answerAt?` gives such answers.
-/

namespace ProseChart

open Node (idAt Numbered answerAt?)

/-! ## What an orderly chart is -/

namespace Chart

/-- An edge leads from one id to the other. -/
def Arrow (chart : Chart) (a b : Text) : Prop :=
  ∃ e ∈ chart.edges, e.source = a ∧ e.target = b

/-- An edge that is not marked `No` leads from one id to the other. -/
def Onward (chart : Chart) (a b : Text) : Prop :=
  ∃ e ∈ chart.edges, e.source = a ∧ e.target = b ∧ e.label ≠ some Edge.no

/-- A walk from the first node along edges that are not marked `No`, as far as
such edges lead. -/
structure FullWalk (chart : Chart) (path : List Text) : Prop where
  starts : path.head? = some (idAt (1 : Nat))
  walks : path.IsChain chart.Onward
  ends : ∀ a ∈ path.getLast?, ∀ b, ¬ chart.Onward a b

/-- A line of steps with side branches that point forward. -/
structure Orderly (chart : Chart) : Prop where
  /-- The ids are `step1`, `step2`, … in this order. -/
  numbered : Numbered chart.nodes
  ids_nodup : (chart.nodes.map Node.id).Nodup
  /-- Both ends of an edge are nodes of the chart. -/
  ends : ∀ e ∈ chart.edges,
    e.source ∈ chart.nodes.map Node.id ∧ e.target ∈ chart.nodes.map Node.id
  /-- Edges lead to higher positions. -/
  forward : ∀ e ∈ chart.edges, ∃ i j : Nat, i < j ∧ e.source = idAt i ∧ e.target = idAt j
  /-- No edges form a circle. -/
  acyclic : ∀ a, ¬ Relation.TransGen chart.Arrow a a
  /-- One edge that is not marked `No` leaves each position before the last, and
  it leads to the next position. -/
  onward : ∀ i, 1 ≤ i → i < chart.nodes.length → ∃ label,
    chart.edges.filter (fun e => e.source = idAt i ∧ e.label ≠ some Edge.no) =
      [Edge.between i (i + 1) label]
  /-- The only full walk visits every node once, in order, and ends at the last. -/
  walk : chart.nodes ≠ [] → ∀ path, chart.FullWalk path ↔ path = chart.nodes.map Node.id
  /-- The last node is the only one without an edge out of it. -/
  sink : ∀ node ∈ chart.nodes,
    (∀ e ∈ chart.edges, e.source ≠ node.id) ↔ node.id = idAt chart.nodes.length
  edges_nodup : chart.edges.Nodup
  /-- There are as many Yes edges as No edges. -/
  balanced : chart.edges.countP (·.label = some Edge.yes) =
    chart.edges.countP (·.label = some Edge.no)
  /-- The edge after a Yes edge in the list is a No edge of the same source. -/
  paired : ∀ before e after, chart.edges = before ++ e :: after → e.label = some Edge.yes →
    ∃ target rest, after = ⟨e.source, target, some Edge.no⟩ :: rest
  /-- No source has two No edges. -/
  no_unique : ∀ e ∈ chart.edges, ∀ e' ∈ chart.edges, e.label = some Edge.no →
    e'.label = some Edge.no → e.source = e'.source → e = e'
  /-- Each No edge is one more than the edges that join neighbours. -/
  size : chart.edges.length =
    (chart.nodes.length - 1) + chart.edges.countP (·.label = some Edge.no)
  /-- Edges are listed by the position of their source. -/
  sorted : chart.edges.Pairwise fun e e' =>
    ∀ i i' : Nat, e.source = idAt i → e'.source = idAt i' → i ≤ i'

end Chart

/-! ## Ladders whose answers lie ahead -/

namespace Edge

/-- Every answered position has its answer after it and among the `n` positions. -/
def AnswersAhead (n : Nat) (answer : Nat → Option Nat) : Prop :=
  ∀ i j, answer i = some j → i < j ∧ j ≤ n

theorem answersAhead_answerAt? (nodes : List Node) :
    AnswersAhead nodes.length (answerAt? nodes) :=
  fun _ _ h => Node.answerAt?_ahead h

variable {n i : Nat} {answer : Nat → Option Nat} {e : Edge}

/-- Where an edge of the ladder leads from and to. -/
theorem positions_of_mem_ladder (hahead : AnswersAhead n answer) (h : e ∈ ladder n answer) :
    ∃ i j, 1 ≤ i ∧ i < j ∧ j ≤ n ∧ e = between i j e.label := by
  rcases mem_ladder.mp h with ⟨i, hlo, hhi, he⟩
  cases ha : answer i with
  | none =>
    rw [ha, fan, List.mem_singleton] at he
    exact ⟨i, i + 1, hlo, by omega, by omega, by rw [he, label_between]⟩
  | some j =>
    rcases hahead i j ha with ⟨hij, hj⟩
    rw [ha, fan, List.mem_pair] at he
    rcases he with he | he
    · exact ⟨i, i + 1, hlo, by omega, by omega, by rw [he, label_between]⟩
    · exact ⟨i, j, hlo, hij, hj, by rw [he, label_between]⟩

/-- Of the edges in a fan, one is not marked `No`. -/
theorem filter_ne_no_fan (answer? : Option Nat) :
    ∃ label, label ≠ some no ∧
      (fan i answer?).filter (·.label ≠ some no) = [between i (i + 1) label] := by
  cases answer? with
  | none => exact ⟨none, by simp, by simp [fan]⟩
  | some j => exact ⟨some yes, by simp, by simp [fan]⟩

/-- A relation holds along the ladder when it holds inside each fan and from a
fan to the later ones. -/
theorem pairwise_ladder {R : Edge → Edge → Prop}
    (hfan : ∀ i, (fan i (answer i)).Pairwise R)
    (hlater : ∀ i i', i < i' → ∀ e ∈ fan i (answer i), ∀ e' ∈ fan i' (answer i'), R e e') :
    (ladder n answer).Pairwise R := by
  rw [ladder, List.pairwise_flatMap]
  refine ⟨fun i _ => hfan i, ?_⟩
  exact (List.pairwise_lt_range' (s := 1) (n := n - 1)).imp fun hlt => hlater _ _ hlt

theorem nodup_ladder : (ladder n answer).Nodup := by
  apply pairwise_ladder
  · intro i
    cases answer i <;> simp [fan]
  · intro i i' hlt e he e' he' heq
    have hsource : idAt i = idAt i' := by
      rw [← source_of_mem_fan he, heq, source_of_mem_fan he']
    have hii := Node.idAt_inj.mp hsource
    omega

theorem sorted_ladder : (ladder n answer).Pairwise fun e e' =>
    ∀ i i' : Nat, e.source = idAt i → e'.source = idAt i' → i ≤ i' := by
  apply pairwise_ladder
  · intro i
    cases answer i <;> simp +contextual [fan]
  · intro i i' hlt e he e' he' k k' hk hk'
    have hik : i = k := Node.idAt_inj.mp (by rw [← source_of_mem_fan he, hk])
    have hik' : i' = k' := Node.idAt_inj.mp (by rw [← source_of_mem_fan he', hk'])
    omega

/-- A fan has a Yes edge exactly when it has a No edge. -/
theorem countP_yes_fan (answer? : Option Nat) :
    (fan i answer?).countP (·.label = some yes) = (fan i answer?).countP (·.label = some no) := by
  cases answer? with
  | none => simp [fan]
  | some j => simp [fan]

theorem length_fan (answer? : Option Nat) :
    (fan i answer?).length = 1 + (fan i answer?).countP (·.label = some no) := by
  cases answer? with
  | none => simp [fan]
  | some j => simp [fan]

theorem countP_yes_ladder :
    (ladder n answer).countP (·.label = some yes) =
      (ladder n answer).countP (·.label = some no) := by
  rw [ladder, List.countP_flatMap, List.countP_flatMap]
  congr 1
  apply List.map_congr_left
  intro i _
  exact countP_yes_fan (answer i)

theorem length_flatMap_fan (answer : Nat → Option Nat) (positions : List Nat) :
    (positions.flatMap fun i => fan i (answer i)).length =
      positions.length +
        (positions.flatMap fun i => fan i (answer i)).countP (·.label = some no) := by
  induction positions with
  | nil => rfl
  | cons i rest ih =>
    rw [List.flatMap_cons, List.length_append, List.countP_append, ih, length_fan,
      List.length_cons]
    omega

theorem length_ladder :
    (ladder n answer).length = (n - 1) + (ladder n answer).countP (·.label = some no) := by
  have h := length_flatMap_fan answer (List.range' 1 (n - 1))
  rwa [List.length_range'] at h

/-- In the list, a No edge of the same source comes right after every Yes edge. -/
def YesThenNo (edges : List Edge) : Prop :=
  ∀ before e after, edges = before ++ e :: after → e.label = some yes →
    ∃ target rest, after = ⟨e.source, target, some no⟩ :: rest

/-- The place of a Yes edge in a joined list is in one of the two parts, and so
is the No edge after it. -/
theorem YesThenNo.append {a b : List Edge} (ha : YesThenNo a) (hb : YesThenNo b) :
    YesThenNo (a ++ b) := by
  intro before e after h hyes
  rcases List.append_eq_append_iff.mp h with ⟨mid, hbefore, hrest⟩ | ⟨mid, hpart, hrest⟩
  · exact hb mid e after hrest hyes
  · cases mid with
    | nil => exact hb [] e after hrest.symm hyes
    | cons d mid =>
      rcases List.cons.inj hrest with ⟨rfl, rfl⟩
      rcases ha before e mid hpart hyes with ⟨target, rest, rfl⟩
      exact ⟨target, rest ++ b, rfl⟩

theorem yesThenNo_fan (answer? : Option Nat) : YesThenNo (fan i answer?) := by
  intro before e after h hyes
  -- what stands before the edge decides which edge of the fan it is
  cases answer? with
  | none =>
    cases before with
    | nil =>
      rcases List.cons.inj h with ⟨rfl, -⟩
      simp at hyes
    | cons d before => simp [fan] at h
  | some j =>
    cases before with
    | nil =>
      rcases List.cons.inj h with ⟨rfl, rfl⟩
      exact ⟨idAt j, [], rfl⟩
    | cons d before =>
      rcases List.cons.inj h with ⟨-, hrest⟩
      cases before with
      | nil =>
        rcases List.cons.inj hrest with ⟨rfl, -⟩
        simp at hyes
      | cons d before => simp at hrest

theorem yesThenNo_ladder : YesThenNo (ladder n answer) := by
  rw [ladder]
  induction List.range' 1 (n - 1) with
  | nil =>
    intro before e after h
    simp at h
  | cons i rest ih =>
    rw [List.flatMap_cons]
    exact (yesThenNo_fan (answer i)).append ih

end Edge

/-! ## Walks and circles -/

namespace Chart

variable {chart : Chart} {answer : Nat → Option Nat}

/-- Without the No edges, each position before the last leads to the next one. -/
theorem onward_iff (hedges : chart.edges = Edge.ladder chart.nodes.length answer) {a b : Text} :
    chart.Onward a b ↔
      ∃ i : Nat, 1 ≤ i ∧ i < chart.nodes.length ∧ a = idAt i ∧ b = idAt (i + 1 : Nat) := by
  unfold Onward
  rw [hedges]
  constructor
  · rintro ⟨e, he, rfl, rfl, hlabel⟩
    rcases Edge.mem_ladder.mp he with ⟨i, hlo, hhi, hfan⟩
    rcases Edge.filter_ne_no_fan (i := i) (answer i) with ⟨label, -, hfilter⟩
    have hmem : e ∈ (Edge.fan i (answer i)).filter (·.label ≠ some Edge.no) :=
      List.mem_filter.mpr ⟨hfan, by simpa using hlabel⟩
    rw [hfilter, List.mem_singleton] at hmem
    exact ⟨i, hlo, hhi, by rw [hmem]; rfl, by rw [hmem]; rfl⟩
  · rintro ⟨i, hlo, hhi, rfl, rfl⟩
    rcases Edge.filter_ne_no_fan (i := i) (answer i) with ⟨label, hlabel, hfilter⟩
    have hmem : Edge.between i (i + 1) label ∈
        (Edge.fan i (answer i)).filter (·.label ≠ some Edge.no) := by
      rw [hfilter]
      exact List.mem_singleton_self _
    exact ⟨_, Edge.mem_ladder.mpr ⟨i, hlo, hhi, (List.mem_filter.mp hmem).1⟩, rfl, rfl, hlabel⟩

/-- A walk that starts at a position and can not be continued visits all
positions from there on. The induction is on the walk. -/
theorem eq_ids_of_walk (hedges : chart.edges = Edge.ladder chart.nodes.length answer) :
    ∀ (path : List Text) (i : Nat), 1 ≤ i → i ≤ chart.nodes.length →
      path.head? = some (idAt i) → path.IsChain chart.Onward →
      (∀ a ∈ path.getLast?, ∀ b, ¬ chart.Onward a b) →
      path = (List.range' i (chart.nodes.length + 1 - i)).map fun i : Nat => idAt i := by
  intro path
  induction path with
  | nil => intro i _ _ hhead; cases hhead
  | cons a path ih =>
    intro i hlo hhi hhead hwalk hends
    obtain rfl : a = idAt i := Option.some.inj hhead
    cases path with
    | nil =>
      -- the walk stops here, so this is the last position
      have hlast : i = chart.nodes.length := by
        by_contra hne
        refine hends (idAt i) rfl (idAt (i + 1 : Nat)) ?_
        exact (onward_iff hedges).mpr ⟨i, hlo, by omega, rfl, rfl⟩
      have hone : chart.nodes.length + 1 - i = 1 := by omega
      rw [hone]
      rfl
    | cons b path =>
      rcases List.isChain_cons_cons.mp hwalk with ⟨hstep, hrest⟩
      rcases (onward_iff hedges).mp hstep with ⟨k, -, hk, hik, hb⟩
      obtain rfl : i = k := Node.idAt_inj.mp hik
      have hnext := ih (i + 1) (by omega) hk (by rw [hb]; rfl) hrest
        (fun c hc => hends c (by simpa using hc))
      have hlen : chart.nodes.length + 1 - i = chart.nodes.length + 1 - (i + 1) + 1 := by omega
      rw [hnext, hlen, List.range'_succ]
      rfl

theorem fullWalk_iff (hnum : Numbered chart.nodes)
    (hedges : chart.edges = Edge.ladder chart.nodes.length answer) (hne : chart.nodes ≠ [])
    (path : List Text) : chart.FullWalk path ↔ path = chart.nodes.map Node.id := by
  have hpos : 0 < chart.nodes.length := List.length_pos_of_ne_nil hne
  rw [hnum]
  constructor
  · rintro ⟨hstart, hwalk, hends⟩
    exact eq_ids_of_walk hedges path 1 (by omega) hpos hstart hwalk hends
  · rintro rfl
    refine ⟨?_, ?_, ?_⟩
    · rw [List.head?_map, List.head?_range', if_neg (by omega)]
      rfl
    · rw [List.isChain_iff_getElem]
      intro k hk
      rw [List.length_map, List.length_range'] at hk
      refine (onward_iff hedges).mpr ⟨1 + k, by omega, by omega, ?_, ?_⟩
      · simp
      · simp [Nat.add_assoc]
    · intro a ha b hab
      rw [List.getLast?_map, List.getLast?_range', if_neg (by omega)] at ha
      obtain rfl : idAt (1 + chart.nodes.length - 1 : Nat) = a := Option.some.inj ha
      rcases (onward_iff hedges).mp hab with ⟨k, -, hk, hak, -⟩
      have hlast := Node.idAt_inj.mp hak
      omega

/-- An edge leads to a higher position. -/
theorem exists_lt_of_arrow (hahead : Edge.AnswersAhead chart.nodes.length answer)
    (hedges : chart.edges = Edge.ladder chart.nodes.length answer) {a b : Text}
    (h : chart.Arrow a b) : ∃ i j : Nat, i < j ∧ a = idAt i ∧ b = idAt j := by
  rcases h with ⟨e, he, rfl, rfl⟩
  rw [hedges] at he
  rcases Edge.positions_of_mem_ladder hahead he with ⟨i, j, -, hij, -, heq⟩
  exact ⟨i, j, hij, by rw [heq]; rfl, by rw [heq]; rfl⟩

/-- A chain of edges leads to a higher position. -/
theorem exists_lt_of_transGen (hahead : Edge.AnswersAhead chart.nodes.length answer)
    (hedges : chart.edges = Edge.ladder chart.nodes.length answer) {a b : Text}
    (h : Relation.TransGen chart.Arrow a b) :
    ∃ i j : Nat, i < j ∧ a = idAt i ∧ b = idAt j := by
  induction h with
  | single hstep => exact exists_lt_of_arrow hahead hedges hstep
  | tail _ hstep ih =>
    rcases ih with ⟨i, j, hij, ha, hb⟩
    rcases exists_lt_of_arrow hahead hedges hstep with ⟨j', k, hjk, hb', hc⟩
    -- the chain so far ends where the last edge starts
    have hjj : j = j' := Node.idAt_inj.mp (by rw [← hb, hb'])
    exact ⟨i, k, by omega, ha, hc⟩

/-- Edges leave every position before the last, and no other. -/
theorem no_source_iff (hedges : chart.edges = Edge.ladder chart.nodes.length answer) {i : Nat}
    (hlo : 1 ≤ i) (hhi : i ≤ chart.nodes.length) :
    (∀ e ∈ chart.edges, e.source ≠ idAt i) ↔ i = chart.nodes.length := by
  constructor
  · intro hnone
    by_contra hne
    rcases (onward_iff hedges).mpr ⟨i, hlo, by omega, rfl, rfl⟩ with ⟨e, he, hsource, -⟩
    exact hnone e he hsource
  · intro hlast e he hsource
    rw [hedges] at he
    rcases Edge.mem_ladder.mp he with ⟨k, -, hk, hfan⟩
    have hki : k = i := Node.idAt_inj.mp (by rw [← Edge.source_of_mem_fan hfan, hsource])
    omega

/-! ## Every chart is orderly -/

/-- The ids of the nodes are those of the positions. -/
theorem mem_ids_iff (hnum : Numbered chart.nodes) {a : Text} :
    a ∈ chart.nodes.map Node.id ↔ ∃ i : Nat, 1 ≤ i ∧ i ≤ chart.nodes.length ∧ a = idAt i := by
  rw [hnum, List.mem_map]
  constructor
  · rintro ⟨i, hi, rfl⟩
    rw [List.mem_range'_1] at hi
    exact ⟨i, hi.1, by omega, rfl⟩
  · rintro ⟨i, hlo, hhi, rfl⟩
    exact ⟨i, List.mem_range'_1.mpr (by omega), rfl⟩

theorem orderly_of_ladder (hnum : Numbered chart.nodes)
    (hahead : Edge.AnswersAhead chart.nodes.length answer)
    (hedges : chart.edges = Edge.ladder chart.nodes.length answer) : chart.Orderly where
  numbered := hnum
  ids_nodup := hnum.nodup_ids
  ends := by
    intro e he
    rw [hedges] at he
    rcases Edge.positions_of_mem_ladder hahead he with ⟨i, j, hlo, hij, hj, heq⟩
    rw [heq]
    constructor
    · exact (mem_ids_iff hnum).mpr ⟨i, hlo, by omega, rfl⟩
    · exact (mem_ids_iff hnum).mpr ⟨j, by omega, hj, rfl⟩
  forward := by
    intro e he
    exact exists_lt_of_arrow hahead hedges ⟨e, he, rfl, rfl⟩
  acyclic := by
    intro a hcircle
    rcases exists_lt_of_transGen hahead hedges hcircle with ⟨i, j, hij, hi, hj⟩
    -- a circle would come back to its own position
    have heq : i = j := Node.idAt_inj.mp (by rw [← hi, hj])
    omega
  onward := by
    intro i hlo hhi
    rcases Edge.filter_ne_no_fan (i := i) (answer i) with ⟨label, -, hfilter⟩
    refine ⟨label, ?_⟩
    rw [← hfilter, ← Edge.filter_source_ladder hlo hhi, ← hedges, List.filter_filter]
    apply List.filter_congr
    intro e _
    simp [Bool.and_comm]
  walk := fullWalk_iff hnum hedges
  sink := by
    intro node hnode
    rcases (mem_ids_iff hnum).mp (List.mem_map_of_mem hnode) with ⟨i, hlo, hhi, hid⟩
    rw [hid, Node.idAt_inj]
    exact no_source_iff hedges hlo hhi
  edges_nodup := by
    rw [hedges]
    exact Edge.nodup_ladder
  balanced := by
    rw [hedges]
    exact Edge.countP_yes_ladder
  paired := by
    rw [hedges]
    exact Edge.yesThenNo_ladder
  no_unique := by
    intro e he e' he' hno hno' hsource
    rw [hedges] at he he'
    rcases Edge.mem_ladder_no.mp ⟨he, hno⟩ with ⟨i, j, -, -, hanswer, rfl⟩
    rcases Edge.mem_ladder_no.mp ⟨he', hno'⟩ with ⟨i', j', -, -, hanswer', rfl⟩
    obtain rfl : i = i' := Node.idAt_inj.mp hsource
    rw [hanswer] at hanswer'
    rw [Option.some.inj hanswer']
  size := by
    rw [hedges]
    exact Edge.length_ladder
  sorted := by
    rw [hedges]
    exact Edge.sorted_ladder

/-- Every chart of a description is a line of steps with side branches that
point forward. -/
theorem orderly_ofDescription (description : Text) :
    (Chart.ofDescription description).Orderly :=
  orderly_of_ladder (Node.numbered_ofSteps _) (Edge.answersAhead_answerAt? _)
    (Edge.connect_eq_ladder (Node.numbered_ofSteps _))

end Chart

end ProseChart

import Mathlib.Order.Bounds.Basic
import ProseChart.Chart
import ProseChart.Proofs.Lookup

/-!
# ProseChart.Proofs.Chart.Position — charts read by position

Edges name their ends by node ids, and an id is the word `step` with a position
in decimal. Positions are therefore recovered from ids (`Node.positionOf`), and a
list of nodes whose ids run `step1`, `step2`, … (`Node.Numbered`, which holds of
`Node.ofSteps`) can be read by position alone.

* `Node.at?`, `Node.decisionAt`, `Node.alternativeAt` — what stands at a position.
* `Node.answerAt?` — the position that answers the decision at a position: the
  first alternative after it (`Node.answerAt?_eq_some_iff`).
* `Node.Numbered.answer?_map_id` — the answer found among the nodes is the node
  at that position.
-/

namespace ProseChart

namespace Node

/-! ## Ids -/

/-- The position that an id names: its digits, read back. -/
def positionOf (id : Text) : Nat := Nat.ofDigitChars 10 (id.drop 4) 0

@[simp] theorem positionOf_idAt (i : Nat) : positionOf (idAt i) = i := by
  have hdigits : List.drop 4 (idAt (i : Int)) = Nat.toDigits 10 i := rfl
  rw [positionOf, hdigits]
  simp

/-- An id determines its position. -/
theorem idAt_injective : Function.Injective fun i : Nat => idAt i :=
  Function.LeftInverse.injective positionOf_idAt

@[simp] theorem idAt_inj {i j : Nat} : idAt i = idAt j ↔ i = j :=
  idAt_injective.eq_iff

/-- The ids of the nodes are `step1`, `step2`, … in this order. -/
def Numbered (nodes : List Node) : Prop :=
  nodes.map Node.id = (List.range' 1 nodes.length).map fun i : Nat => idAt i

instance (nodes : List Node) : Decidable (Numbered nodes) :=
  inferInstanceAs (Decidable (_ = _))

/-- The nodes of given steps are numbered. -/
theorem numbered_ofSteps (steps : List Text) : Numbered (ofSteps steps) := by
  apply List.ext_getElem
  · simp
  · intro k hk hk'
    have hcast : (k : Int) + 1 = 1 + k := by omega
    simp [ofSteps, hcast]

theorem Numbered.nodup_ids {nodes : List Node} (hn : Numbered nodes) :
    (nodes.map Node.id).Nodup := by
  rw [hn]
  exact (List.nodup_range' (s := 1) (n := nodes.length)).map idAt_injective

/-- Among distinct ids, a node is found by its id. -/
theorem Numbered.find?_id {nodes : List Node} (hn : Numbered nodes) {node : Node}
    (hnode : node ∈ nodes) : nodes.find? (·.id == node.id) = some node :=
  (find?_key_eq_some_iff hn.nodup_ids).mpr ⟨hnode, rfl⟩

/-! ## What stands at a position -/

/-- The node at a position; the first node has position 1. -/
def at? (nodes : List Node) : Nat → Option Node
  | 0 => none
  | k + 1 => nodes[k]?

/-- Whether a decision stands at the position. -/
def decisionAt (nodes : List Node) (i : Nat) : Bool := (at? nodes i).any isDecision

/-- Whether an alternative stands at the position. -/
def alternativeAt (nodes : List Node) (i : Nat) : Bool := (at? nodes i).any isAlternative

/-- The position that answers the decision at a position: the first alternative
after it. Where no decision stands, nothing is answered. -/
def answerAt? (nodes : List Node) (i : Nat) : Option Nat :=
  if decisionAt nodes i then
    (List.range' (i + 1) (nodes.length - i)).find? (alternativeAt nodes)
  else none

variable {nodes : List Node} {i j k : Nat}

/-- Positions run from 1 to the number of nodes. -/
theorem bounds_of_at? {node : Node} (h : at? nodes i = some node) :
    1 ≤ i ∧ i ≤ nodes.length := by
  cases i with
  | zero => cases h
  | succ k =>
    rcases List.getElem?_eq_some_iff.mp h with ⟨hk, -⟩
    omega

theorem bounds_of_decisionAt (h : decisionAt nodes i = true) : 1 ≤ i ∧ i ≤ nodes.length := by
  rcases (Option.any_eq_true _ _).mp h with ⟨node, hnode, -⟩
  exact bounds_of_at? hnode

theorem bounds_of_alternativeAt (h : alternativeAt nodes i = true) :
    1 ≤ i ∧ i ≤ nodes.length := by
  rcases (Option.any_eq_true _ _).mp h with ⟨node, hnode, -⟩
  exact bounds_of_at? hnode

/-- A decision is answered by the least position after it where an alternative
stands. -/
theorem answerAt?_eq_some_iff :
    answerAt? nodes i = some j ↔
      decisionAt nodes i = true ∧ IsLeast {k | i < k ∧ alternativeAt nodes k = true} j := by
  unfold answerAt?
  by_cases hd : decisionAt nodes i = true
  · rw [if_pos hd, List.find?_range'_eq_some, List.mem_range'_1]
    constructor
    · rintro ⟨hj, ⟨hlo, -⟩, hmin⟩
      refine ⟨hd, ⟨hlo, hj⟩, ?_⟩
      rintro k ⟨hk, halt⟩
      -- the scan passed over every position before `j`
      by_contra hlt
      have hnot := hmin k hk (by omega)
      simp [halt] at hnot
    · rintro ⟨-, ⟨hlo, hj⟩, hmin⟩
      have hle : j ≤ nodes.length := (bounds_of_alternativeAt hj).2
      refine ⟨hj, ⟨hlo, by omega⟩, ?_⟩
      intro k hk hkj
      by_contra halt
      have hjk : j ≤ k := hmin ⟨hk, by simpa using halt⟩
      omega
  · simp [hd]

/-- An answer lies after its decision. -/
theorem answerAt?_ahead (h : answerAt? nodes i = some j) : i < j ∧ j ≤ nodes.length := by
  rcases answerAt?_eq_some_iff.mp h with ⟨-, ⟨hij, hj⟩, -⟩
  exact ⟨hij, (bounds_of_alternativeAt hj).2⟩

/-! ## Reading a tail of the nodes -/

/-- The node at the head of a tail stands one position after the dropped ones. -/
theorem at?_succ_of_drop {node : Node} {rest : List Node} (h : nodes.drop k = node :: rest) :
    at? nodes (k + 1) = some node := by
  have hhead : (nodes.drop k)[0]? = some node := by rw [h]; rfl
  rwa [List.getElem?_drop, Nat.add_zero] at hhead

theorem drop_succ_of_drop {node : Node} {rest : List Node} (h : nodes.drop k = node :: rest) :
    nodes.drop (k + 1) = rest := by
  rw [← List.tail_drop, h, List.tail_cons]

/-- In a numbered list, ids are what their positions say. -/
theorem Numbered.id_eq (hn : Numbered nodes) {node : Node} (h : at? nodes i = some node) :
    node.id = idAt i := by
  cases i with
  | zero => cases h
  | succ k =>
    have hk : k < nodes.length := (bounds_of_at? h).2
    have hid : (nodes.map Node.id)[k]? = some node.id := by
      rw [List.getElem?_map, show nodes[k]? = some node from h, Option.map_some]
    rw [hn, List.getElem?_map, List.getElem?_range' hk] at hid
    simpa [Nat.add_comm] using hid.symm

/-- The first alternative in a tail of the nodes is the one at the first position
of the tail where an alternative stands. The induction is on the tail, one
position a node. -/
theorem Numbered.find?_map_id (hn : Numbered nodes) :
    ∀ (rest : List Node) (k : Nat), nodes.drop k = rest →
      (rest.find? isAlternative).map Node.id =
        ((List.range' (k + 1) rest.length).find? (alternativeAt nodes)).map
          fun j : Nat => idAt j := by
  intro rest
  induction rest with
  | nil => intro k _; rfl
  | cons node rest ih =>
    intro k h
    have hat := at?_succ_of_drop h
    have halt : alternativeAt nodes (k + 1) = node.isAlternative := by
      simp [alternativeAt, hat]
    rw [List.length_cons, List.range'_succ, List.find?_cons, List.find?_cons, halt]
    cases node.isAlternative with
    | true => simp [hn.id_eq hat]
    | false => exact ih (k + 1) (drop_succ_of_drop h)

/-- The answer to a decision, read from the nodes after it or from positions. -/
theorem Numbered.answer?_map_id (hn : Numbered nodes) {node : Node} {rest : List Node}
    (h : nodes.drop k = node :: rest) :
    (Edge.answer? node rest).map Node.id =
      (answerAt? nodes (k + 1)).map fun j : Nat => idAt j := by
  have hdec : decisionAt nodes (k + 1) = node.isDecision := by
    simp [decisionAt, at?_succ_of_drop h]
  have hrest := drop_succ_of_drop h
  have hlen : rest.length = nodes.length - (k + 1) := by rw [← hrest, List.length_drop]
  rw [Edge.answer?, answerAt?, hdec]
  cases node.isDecision with
  | true =>
    rw [if_pos rfl, if_pos rfl, ← hlen]
    exact hn.find?_map_id rest (k + 1) hrest
  | false => rfl

end Node

end ProseChart

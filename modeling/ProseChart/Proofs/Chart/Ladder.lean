import ProseChart.Proofs.Chart.Position

/-!
# ProseChart.Proofs.Chart.Ladder — the edges of a chart as fans of positions

Over numbered nodes the edges are a sequence of fans, one for each position
before the last: two edges where the position is answered, one edge where it is
not (`Edge.connect_eq_ladder`). Everything about the edges of a chart follows
from this equation, without looking at nodes again.

* `Edge.between`, `Edge.fan`, `Edge.ladder` — edges between positions.
* `Edge.mem_ladder` — an edge belongs to the fan of one position.
* `Edge.filter_source_ladder` — the edges out of a position are its fan.
-/

namespace ProseChart.Edge

open Node (idAt Numbered answerAt?)

/-! ## Edges between positions -/

/-- The edge from one position to another. -/
def between (i j : Nat) (label : Option Text) : Edge := ⟨idAt i, idAt j, label⟩

/-- The edges out of a position, given the position that answers it. -/
def fan (i : Nat) : Option Nat → List Edge
  | some j => [between i (i + 1) (some yes), between i j (some no)]
  | none => [between i (i + 1) none]

/-- The fans of the positions before the last of `n`, one after the other. -/
def ladder (n : Nat) (answer : Nat → Option Nat) : List Edge :=
  (List.range' 1 (n - 1)).flatMap fun i => fan i (answer i)

@[simp] theorem source_between {i j : Nat} {label : Option Text} :
    (between i j label).source = idAt i := rfl

@[simp] theorem label_between {i j : Nat} {label : Option Text} :
    (between i j label).label = label := rfl

@[simp] theorem between_inj {i j i' j' : Nat} {label label' : Option Text} :
    between i j label = between i' j' label' ↔ i = i' ∧ j = j' ∧ label = label' := by
  simp [between]

/-- The two marks differ. -/
@[simp] theorem yes_ne_no : yes ≠ no := by decide

@[simp] theorem no_ne_yes : no ≠ yes := by decide

/-! ## The edges over numbered nodes -/

variable {nodes : List Node} {k : Nat}

/-- The edges out of a numbered node are the fan of its position. -/
theorem leaving_eq_fan (hn : Numbered nodes) {node next : Node} {later : List Node}
    (h : nodes.drop k = node :: next :: later) :
    leaving node next later = fan (k + 1) (answerAt? nodes (k + 1)) := by
  have hnode : node.id = idAt (k + 1 : Nat) := hn.id_eq (Node.at?_succ_of_drop h)
  have hnext : next.id = idAt (k + 1 + 1 : Nat) :=
    hn.id_eq (Node.at?_succ_of_drop (Node.drop_succ_of_drop h))
  have hanswer := hn.answer?_map_id h
  rw [leaving]
  -- the node is answered exactly where its position is
  cases hf : answer? node (next :: later) with
  | none =>
    cases hp : answerAt? nodes (k + 1) with
    | none => simp [fan, between, hnode, hnext]
    | some j =>
      rw [hf, hp] at hanswer
      cases hanswer
  | some alternative =>
    cases hp : answerAt? nodes (k + 1) with
    | none =>
      rw [hf, hp] at hanswer
      cases hanswer
    | some j =>
      rw [hf, hp] at hanswer
      have hid : alternative.id = idAt j := Option.some.inj hanswer
      simp [fan, between, hnode, hnext, hid]

/-- The edges over a tail of numbered nodes are the fans of its positions. The
induction is on the tail, as in `connect`. -/
theorem connect_drop (hn : Numbered nodes) :
    ∀ (rest : List Node) (k : Nat), nodes.drop k = rest →
      connect rest =
        (List.range' (k + 1) (rest.length - 1)).flatMap fun i => fan i (answerAt? nodes i) := by
  intro rest
  induction rest with
  | nil => intro k _; rfl
  | cons node rest ih =>
    intro k h
    cases rest with
    | nil => rfl
    | cons next later =>
      have htail := ih (k + 1) (Node.drop_succ_of_drop h)
      rw [connect, htail, leaving_eq_fan hn h]
      rfl

/-- Over numbered nodes, the edges are the fans of the positions in order. -/
theorem connect_eq_ladder (hn : Numbered nodes) :
    connect nodes = ladder nodes.length (answerAt? nodes) :=
  connect_drop hn nodes 0 rfl

/-! ## What belongs to a fan, and to the ladder -/

variable {n i : Nat} {answer : Nat → Option Nat} {e : Edge}

/-- What an edge of a fan looks like. -/
theorem exists_between_of_mem_fan {answer? : Option Nat} (h : e ∈ fan i answer?) :
    ∃ j label, e = between i j label ∧ label ∈ [none, some yes, some no] := by
  cases answer? with
  | none =>
    rw [fan, List.mem_singleton] at h
    exact ⟨i + 1, none, h, by simp⟩
  | some j =>
    rw [fan, List.mem_pair] at h
    rcases h with h | h
    · exact ⟨i + 1, some yes, h, by simp⟩
    · exact ⟨j, some no, h, by simp⟩

theorem source_of_mem_fan {answer? : Option Nat} (h : e ∈ fan i answer?) :
    e.source = idAt i := by
  rcases exists_between_of_mem_fan h with ⟨j, label, rfl, -⟩
  rfl

theorem mem_ladder : e ∈ ladder n answer ↔ ∃ i, 1 ≤ i ∧ i < n ∧ e ∈ fan i (answer i) := by
  rw [ladder, List.mem_flatMap]
  constructor
  · rintro ⟨i, hi, he⟩
    rw [List.mem_range'_1] at hi
    exact ⟨i, hi.1, by omega, he⟩
  · rintro ⟨i, hlo, hhi, he⟩
    exact ⟨i, List.mem_range'_1.mpr (by omega), he⟩

/-- Among the fans of distinct positions, the edges out of one position are its
fan. -/
theorem filter_source_flatMap {positions : List Nat} (hnodup : positions.Nodup)
    (hi : i ∈ positions) :
    (positions.flatMap fun k => fan k (answer k)).filter (·.source = idAt i) =
      fan i (answer i) := by
  have hsame : (fan i (answer i)).filter (·.source = idAt i) = fan i (answer i) := by
    rw [List.filter_eq_self]
    intro e he
    simpa using source_of_mem_fan he
  have hother : ∀ k, k ≠ i → (fan k (answer k)).filter (·.source = idAt i) = [] := by
    intro k hk
    rw [List.filter_eq_nil_iff]
    intro e he
    simpa [source_of_mem_fan he] using hk
  induction positions with
  | nil => cases hi
  | cons k rest ih =>
    rw [List.flatMap_cons, List.filter_append]
    rcases List.nodup_cons.mp hnodup with ⟨hnot, hrest⟩
    rcases List.mem_cons.mp hi with rfl | hmem
    · -- the position itself: nothing later leaves it
      have hnone : (rest.flatMap fun k => fan k (answer k)).filter (·.source = idAt i) = [] := by
        rw [List.filter_flatMap, List.flatMap_eq_nil_iff]
        intro k hk
        exact hother k (fun hki => hnot (hki ▸ hk))
      rw [hsame, hnone, List.append_nil]
    · rw [hother k (fun hki => hnot (hki ▸ hmem)), List.nil_append, ih hrest hmem]

/-- The edges out of a position before the last are its fan. -/
theorem filter_source_ladder (hlo : 1 ≤ i) (hhi : i < n) :
    (ladder n answer).filter (·.source = idAt i) = fan i (answer i) :=
  filter_source_flatMap List.nodup_range' (List.mem_range'_1.mpr (by omega))

/-- The No edges lead from the answered positions to their answers. -/
theorem mem_ladder_no :
    (e ∈ ladder n answer ∧ e.label = some no) ↔
      ∃ i j, 1 ≤ i ∧ i < n ∧ answer i = some j ∧ e = between i j (some no) := by
  rw [mem_ladder]
  constructor
  · rintro ⟨⟨i, hlo, hhi, he⟩, hlabel⟩
    cases ha : answer i with
    | none =>
      rw [ha, fan, List.mem_singleton] at he
      rw [he] at hlabel
      cases hlabel
    | some j =>
      rw [ha, fan, List.mem_pair] at he
      rcases he with rfl | rfl
      · simp at hlabel
      · exact ⟨i, j, hlo, hhi, ha, rfl⟩
  · rintro ⟨i, j, hlo, hhi, ha, rfl⟩
    exact ⟨⟨i, hlo, hhi, by simp [ha, fan]⟩, rfl⟩

end ProseChart.Edge

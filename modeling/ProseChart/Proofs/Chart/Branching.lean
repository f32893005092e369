import Mathlib.Data.Nat.Find
import ProseChart.Proofs.Chart.Ladder

/-!
# ProseChart.Proofs.Chart.Branching — where the No edges go

The rule for a No edge is stated at its source: look ahead for the first
alternative. Seen from the alternative, its No edges come from one run of
positions, the ones from the previous alternative on, and seen from two
decisions, their No edges never cross.

* `Edge.no_mem_connect_iff` — the rule at the source.
* `Node.RunFrom` — where the run of positions answered at an alternative starts.
* `Edge.Branches`, `Edge.branches_of_numbered` — the three views of the same edges.
-/

namespace ProseChart

open Node (idAt Numbered answerAt? decisionAt alternativeAt)

namespace Node

variable {nodes : List Node} {i j p : Nat}

/-- The positions whose decisions are answered at `j` start at `p`: at the
closest alternative before `j`, or at the first position when there is none. -/
def RunFrom (nodes : List Node) (j p : Nat) : Prop :=
  IsGreatest {k | k < j ∧ alternativeAt nodes k = true} p ∨
    p = 1 ∧ ∀ k < j, alternativeAt nodes k = false

/-- Every position has a closest alternative before it, or none at all. -/
theorem exists_runFrom (nodes : List Node) (j : Nat) : ∃ p, RunFrom nodes j p := by
  induction j with
  | zero => exact ⟨1, Or.inr ⟨rfl, fun k hk => absurd hk (Nat.not_lt_zero k)⟩⟩
  | succ j ih =>
    by_cases halt : alternativeAt nodes j = true
    · refine ⟨j, Or.inl ⟨⟨Nat.lt_succ_self j, halt⟩, ?_⟩⟩
      rintro k ⟨hk, -⟩
      exact Nat.le_of_lt_succ hk
    · -- position `j` changes nothing, so the run starts where it did before
      have hstep : ∀ k, k < j + 1 → alternativeAt nodes k = true → k < j := by
        intro k hk hkalt
        have hne : k ≠ j := fun heq => halt (heq ▸ hkalt)
        omega
      rcases ih with ⟨p, ⟨⟨hp, hpalt⟩, hmax⟩ | ⟨rfl, hnone⟩⟩
      · refine ⟨p, Or.inl ⟨⟨Nat.lt_succ_of_lt hp, hpalt⟩, ?_⟩⟩
        rintro k ⟨hk, hkalt⟩
        exact hmax ⟨hstep k hk hkalt, hkalt⟩
      · refine ⟨1, Or.inr ⟨rfl, fun k hk => ?_⟩⟩
        by_contra hkalt
        rw [Bool.not_eq_false] at hkalt
        simp [hnone k (hstep k hk hkalt)] at hkalt

/-- An alternative answers exactly the decisions of its run. -/
theorem answerAt?_eq_some_iff_of_runFrom (hj : alternativeAt nodes j = true)
    (hp : RunFrom nodes j p) :
    answerAt? nodes i = some j ↔ decisionAt nodes i = true ∧ p ≤ i ∧ i < j := by
  rw [answerAt?_eq_some_iff]
  constructor
  · rintro ⟨hd, ⟨hij, -⟩, hleast⟩
    refine ⟨hd, ?_, hij⟩
    rcases hp with ⟨⟨hpj, hpalt⟩, -⟩ | ⟨rfl, -⟩
    · -- an alternative strictly between would answer earlier
      by_contra hlt
      have hjp : j ≤ p := hleast ⟨by omega, hpalt⟩
      omega
    · exact (bounds_of_decisionAt hd).1
  · rintro ⟨hd, hpi, hij⟩
    refine ⟨hd, ⟨hij, hj⟩, ?_⟩
    rintro k ⟨hik, hkalt⟩
    by_contra hlt
    -- an alternative inside the run contradicts the choice of its start
    rcases hp with ⟨-, hmax⟩ | ⟨-, hnone⟩
    · have hkp : k ≤ p := hmax ⟨by omega, hkalt⟩
      omega
    · simp [hnone k (by omega)] at hkalt

/-- A decision has an answer exactly when an alternative stands after it. -/
theorem exists_answerAt?_iff :
    (∃ j, answerAt? nodes i = some j) ↔
      decisionAt nodes i = true ∧ ∃ j, i < j ∧ alternativeAt nodes j = true := by
  constructor
  · rintro ⟨j, hj⟩
    rcases answerAt?_eq_some_iff.mp hj with ⟨hd, hmem, -⟩
    exact ⟨hd, j, hmem⟩
  · rintro ⟨hd, hex⟩
    refine ⟨Nat.find hex, answerAt?_eq_some_iff.mpr ⟨hd, Nat.find_spec hex, ?_⟩⟩
    intro k hk
    exact Nat.find_min' hex hk

/-- The answers to two decisions are the same, or the earlier one lies not
after the later decision. -/
theorem answers_never_cross {i' j' : Nat} (hii : i < i') (hj : answerAt? nodes i = some j)
    (hj' : answerAt? nodes i' = some j') : j = j' ∨ j ≤ i' := by
  rcases answerAt?_eq_some_iff.mp hj with ⟨-, ⟨-, halt⟩, hleast⟩
  rcases answerAt?_eq_some_iff.mp hj' with ⟨-, ⟨hij', halt'⟩, hleast'⟩
  by_cases h : j ≤ i'
  · exact Or.inr h
  · -- both alternatives lie after both decisions
    have hle : j ≤ j' := hleast ⟨by omega, halt'⟩
    have hge : j' ≤ j := hleast' ⟨by omega, halt⟩
    exact Or.inl (Nat.le_antisymm hle hge)

end Node

namespace Edge

variable {nodes : List Node} {i j : Nat}

/-- The edges out of a position. -/
def outOf (nodes : List Node) (i : Nat) : List Edge :=
  (connect nodes).filter (·.source = idAt i)

/-- The two edges of a branch: Yes to the next position, No to the alternative. -/
def branch (i j : Nat) : List Edge := [between i (i + 1) (some yes), between i j (some no)]

theorem outOf_eq_branch_iff (hn : Numbered nodes) (hlo : 1 ≤ i) (hhi : i < nodes.length) :
    outOf nodes i = branch i j ↔ answerAt? nodes i = some j := by
  rw [outOf, connect_eq_ladder hn, filter_source_ladder hlo hhi]
  cases answerAt? nodes i with
  | none => simp [fan, branch]
  | some k => simp [fan, branch]

/-- The No edges of numbered nodes lead from decisions to their answers. -/
theorem no_mem_connect_iff (hn : Numbered nodes) {e : Edge} :
    (e ∈ connect nodes ∧ e.label = some no) ↔
      ∃ i j, answerAt? nodes i = some j ∧ e = between i j (some no) := by
  rw [connect_eq_ladder hn, mem_ladder_no]
  constructor
  · rintro ⟨i, j, -, -, hanswer, rfl⟩
    exact ⟨i, j, hanswer, rfl⟩
  · rintro ⟨i, j, hanswer, rfl⟩
    rcases Node.answerAt?_ahead hanswer with ⟨hij, hj⟩
    rcases Node.answerAt?_eq_some_iff.mp hanswer with ⟨hd, -⟩
    exact ⟨i, j, (Node.bounds_of_decisionAt hd).1, by omega, hanswer, rfl⟩

theorem between_no_mem_connect (hn : Numbered nodes) :
    between i j (some no) ∈ connect nodes ↔ answerAt? nodes i = some j := by
  have h := no_mem_connect_iff hn (e := between i j (some no))
  simpa [eq_comm] using h

/-- Where the nodes of a list branch, and to which alternatives. -/
structure Branches (nodes : List Node) : Prop where
  /-- From the source: a node before the last branches exactly when it is a
  decision and an alternative stands after it. -/
  branches_iff : ∀ i, 1 ≤ i → i < nodes.length →
    ((∃ j, outOf nodes i = branch i j) ↔
      decisionAt nodes i = true ∧ ∃ j, i < j ∧ alternativeAt nodes j = true)
  /-- The No edge of a node that branches leads to the first alternative after it. -/
  first : ∀ i j, 1 ≤ i → i < nodes.length → outOf nodes i = branch i j →
    IsLeast {k | i < k ∧ alternativeAt nodes k = true} j
  /-- From the target: the No edges into an alternative come exactly from the
  decisions of its run. -/
  sources : ∀ j, alternativeAt nodes j = true → ∃ p, Node.RunFrom nodes j p ∧
    ∀ id, (∃ e ∈ connect nodes, e.source = id ∧ e.target = idAt j ∧ e.label = some no) ↔
      ∃ i : Nat, p ≤ i ∧ i < j ∧ decisionAt nodes i = true ∧ id = idAt i
  /-- From two sources: No edges never cross. -/
  noncrossing : ∀ i i' j j', i < i' → between i j (some no) ∈ connect nodes →
    between i' j' (some no) ∈ connect nodes → j = j' ∨ j ≤ i'

theorem branches_of_numbered (nodes : List Node) (hn : Numbered nodes) : Branches nodes where
  branches_iff := by
    intro i hlo hhi
    simp only [outOf_eq_branch_iff hn hlo hhi]
    exact Node.exists_answerAt?_iff
  first := by
    intro i j hlo hhi hbranch
    rw [outOf_eq_branch_iff hn hlo hhi] at hbranch
    exact (Node.answerAt?_eq_some_iff.mp hbranch).2
  sources := by
    intro j hj
    rcases Node.exists_runFrom nodes j with ⟨p, hp⟩
    refine ⟨p, hp, fun id => ?_⟩
    constructor
    · rintro ⟨e, he, rfl, htarget, hno⟩
      rcases (no_mem_connect_iff hn).mp ⟨he, hno⟩ with ⟨i, j', hanswer, rfl⟩
      obtain rfl : j' = j := Node.idAt_inj.mp htarget
      rcases (Node.answerAt?_eq_some_iff_of_runFrom hj hp).mp hanswer with ⟨hd, hpi, hij⟩
      exact ⟨i, hpi, hij, hd, rfl⟩
    · rintro ⟨i, hpi, hij, hd, rfl⟩
      have hanswer := (Node.answerAt?_eq_some_iff_of_runFrom hj hp).mpr ⟨hd, hpi, hij⟩
      exact ⟨_, (between_no_mem_connect hn).mpr hanswer, rfl, rfl, rfl⟩
  noncrossing := by
    intro i i' j j' hii hj hj'
    rw [between_no_mem_connect hn] at hj hj'
    exact Node.answers_never_cross hii hj hj'

/-- Two decisions, an alternative that is a decision itself, an alternative, and
a decision after the last alternative. -/
def orderCheck : List Node :=
  Node.ofSteps ["check stock", "if sold out", "otherwise check again", "or else stop", "decide"]

theorem branches_orderCheck : Numbered orderCheck ∧ Branches orderCheck :=
  ⟨by decide, branches_of_numbered orderCheck (by decide)⟩

example : connect orderCheck =
    branch 1 3 ++ branch 2 3 ++ branch 3 4 ++ [between 4 5 none] := by decide

end Edge

end ProseChart

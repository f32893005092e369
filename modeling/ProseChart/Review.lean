import ProseChart.Keyword
import ProseChart.Step
import ProseChart.Text.Quotes

/-!
# ProseChart.Review — is a description complete?

A review reports which of three elements a description lacks and previews the
steps that a chart would show. The three checks are independent keyword
searches in the whole text; quote characters and delimiters are part of it.

* `Gap` — an element that can be missing, with its wording.
* `Review.gaps` — the missing elements, in the order start, connections,
  decisions.
* `Review.previewOf` — the numbered steps.
* `Review.ofDescription` — the review of a description.
-/

namespace ProseChart

/-- An element that a description can lack. -/
inductive Gap where
  | start
  | connections
  | decisions
deriving DecidableEq, Repr

namespace Gap

/-- All elements, in reporting order. -/
def all : List Gap := [.start, .connections, .decisions]

/-- The keywords that supply the element. -/
def family : Gap → List Text
  | .start => Keyword.start
  | .connections => Keyword.connection
  | .decisions => Keyword.condition

/-- How a report names the missing element. The last one is advice: many charts
never branch. -/
def wording : Gap → Text
  | .start => "Starting point of the flowchart"
  | .connections => "Connections between steps (use words like 'then', 'next', 'after', etc.)"
  | .decisions => "Decision points (if any are needed in this flowchart)"

end Gap

/-- The outcome of a review. -/
structure Review where
  isComplete : Bool
  missing : List Text
  preview : Text
deriving DecidableEq, Repr

namespace Review

/-- The elements that a description lacks. -/
def gaps (description : Text) : List Gap :=
  Gap.all.filter fun gap => !Keyword.occurs gap.family description

/-- The first line of every preview. -/
def header : Text := "Flow preview:"

/-- A line of the preview: number and step, without quote characters. -/
def previewLine (number : Nat) (step : Text) : Text :=
  Text.ofNat number ++ ". " ++ step.unquote

/-- The header and one numbered line a step. -/
def previewOf (steps : List Text) : Text :=
  Text.unlines (header :: steps.mapIdx fun index step => previewLine (index + 1) step)

/-- The review of a description. -/
def ofDescription (description : Text) : Review where
  isComplete := (gaps description).isEmpty
  missing := (gaps description).map Gap.wording
  preview := previewOf (Step.extract description)

/-- An element is reported exactly when none of its keywords occurs. -/
theorem mem_gaps {gap : Gap} {description : Text} :
    gap ∈ gaps description ↔ Keyword.occurs gap.family description = false := by
  cases gap <;> simp [gaps, Gap.all]

end Review

end ProseChart

import ProseChart.Chart.Mermaid
import ProseChart.Tool

/-!
# ProseChart.Tool.Catalog — the tools that are served

Three tools work on a description: one reviews it, one draws it, one normalizes
its quotes. They are offered in two sets, the full one and a core set without
quotes.

* `Tool.descriptionOf` — takes the description out of the arguments of a call,
  whatever their kind.
* `ToolSet.tools` — the tools of a set, in listing order.
* `ToolSet.named` — a set by its exact name.
-/

namespace ProseChart

namespace Tool

/-! ## Arguments -/

/-- The name of the one argument. -/
def argumentName : Text := "description"

/-- Whether an item of an array is the argument's name. -/
def isArgumentName : Json.Value → Bool
  | .text t => t == LooseText.ofText argumentName
  | _ => false

/-- The description in the arguments of a call, with the replacement character
for surrogates. Arguments that are no object hold none; where they seem to name
it, or can name nothing, the look-up itself goes wrong. -/
def descriptionOf : Handler
  | .object members =>
    match Json.Value.find? argumentName members with
    | none => .error .missingArgument
    | some (.text t) => .ok t.toText
    | some other => .error (.argumentKind other.kind)
  | .array items =>
    .error (if items.any isArgumentName then .namedInArray else .missingArgument)
  | .text t => .error (if Text.mentions argumentName t.toText then .namedInText else .missingArgument)
  | other => .error (.unsearchable other.kind)

/-- The schema of a tool that takes a description to do something with it. -/
def descriptionSchema (purpose : Text) : Json.Value :=
  .object
    [("type", .text "object"),
      ("properties", .object
        [(argumentName, .object
          [("type", .text "string"),
            ("description", .text ("The text description of the flowchart to " ++ purpose))])]),
      ("required", .array [.text argumentName])]

/-! ## The tools -/

/-- Reviews a description. -/
def analyze : Tool where
  name := "analyze-flowchart"
  description := "Analyze a flowchart description for completeness and provide a preview"
  inputSchema := descriptionSchema "analyze"
  handler arguments :=
    (descriptionOf arguments).map fun d => Answer.ofReview (Review.ofDescription d)

/-- Draws a description. -/
def generate : Tool where
  name := "generate-flowchart"
  description := "Generate a Mermaid flowchart from a text description"
  inputSchema := descriptionSchema "generate"
  handler arguments := (descriptionOf arguments).map fun d => Answer.ofSource (Chart.source d)
  failureMessage := some "Error generating flowchart"

/-- Normalizes the quotes of a description. -/
def normalizeQuotes : Tool where
  name := "normalize-quotes"
  description :=
    "Strip quote characters from a description and wrap it in a single pair of double " ++
      "quotes. Reports how many quote characters were removed."
  inputSchema := descriptionSchema "normalize"
  handler arguments :=
    (descriptionOf arguments).map fun d => Answer.ofQuotation (Quotation.normalize d)

/-- The tool of the catalog with a name. -/
def named? (name : Text) : Option Tool :=
  [analyze, generate, normalizeQuotes].find? fun tool => tool.name == name

end Tool

/-! ## Tool sets -/

/-- The sets in which the tools are offered. -/
inductive ToolSet where
  | full
  | core
deriving DecidableEq, Repr

namespace ToolSet

/-- All sets. -/
def all : List ToolSet := [.full, .core]

/-- The name of a set. -/
def name : ToolSet → Text
  | .full => "full"
  | .core => "core"

/-- The tools of a set. -/
def tools : ToolSet → List Tool
  | .full => [.analyze, .generate, .normalizeQuotes]
  | .core => [.analyze, .generate]

/-- The set with a name, if there is one. -/
def ofName? (name : Text) : Option ToolSet := all.find? fun set => set.name == name

/-- The set with a name. -/
def named (name : Text) : Except Fault ToolSet :=
  match ofName? name with
  | some set => .ok set
  | none => .error (.unknownToolSet name)

/-- Every set is found under its name. -/
theorem ofName?_name (set : ToolSet) : ofName? set.name = some set := by
  cases set <;> decide

end ToolSet

end ProseChart

import ProseChart.Assistant.Remote
import ProseChart.Json.Printer
import ProseChart.Record

/-!
# ProseChart.Assistant.Tool — the tools of an assistant

An assistant has three tools that work on a description at once, and one that
reaches the server's tools. Each takes an object of texts; an object in which one
of them is missing or of another kind is refused. Only the tool that reaches the
server can fail: when the arguments that it is to pass on are too large.

* `AssistantTool.guide` — what the assistant is told about a tool.
* `AssistantTool.invoke` — runs a tool on an object.
-/

namespace ProseChart

/-- A tool of an assistant. -/
inductive AssistantTool where
  | analyze
  | generate
  | normalize
  | remote
deriving DecidableEq, Repr

namespace AssistantTool

/-- All tools. -/
def all : List AssistantTool := [.analyze, .generate, .normalize, .remote]

/-- The name of a tool. -/
def name : AssistantTool → Text
  | .analyze => "analyze_flowchart"
  | .generate => "generate_flowchart"
  | .normalize => "normalize_quotes"
  | .remote => "mermaid_mcp"

/-- The tool with a name. -/
def ofName? (name : Text) : Option AssistantTool := all.find? fun tool => tool.name == name

/-- The lines of a guide after the first one are indented. -/
def guideOf (summary : Text) (details : List Text) : Text :=
  List.intercalate ['\n']
    (summary :: details.map fun line => if line.isEmpty then [] else "    " ++ line)

/-- What the assistant is told about a tool. -/
def guide : AssistantTool → Text
  | .analyze =>
    guideOf "Check a process description for a start, step connectors and decisions."
      ["",
        "- description: free text describing the steps of a process.",
        "",
        "Returns a numbered preview of the detected steps followed by any missing",
        "elements the description should mention."]
  | .generate =>
    guideOf "Generate Mermaid flowchart code from a process description."
      ["",
        "Steps are split on periods, commas and newlines. Steps mentioning",
        "'if', 'decide' or 'check' branch Yes/No towards the next step and the",
        "next step mentioning 'else' or 'otherwise'."]
  | .normalize =>
    guideOf "Remove quote characters from text and wrap it in one pair of double quotes."
      ["",
        "Returns JSON with `convertedDescription` and `replacementCount`."]
  | .remote =>
    guideOf "Call a Mermaid flowchart MCP action."
      ["",
        "Parameters:",
        "- action: One of 'analyze-flowchart', 'generate-flowchart', 'normalize-quotes'.",
        "- args_json: JSON string of the action's arguments, e.g.",
        "  '\x7b\"description\": \"Start the order. Then check stock. Otherwise cancel.\"\x7d'.",
        "",
        "Returns the server's text response."]

/-- A text among the members of an object. -/
def textArgument? (input : Json.Value) (key : Text) : Option Text :=
  match input.get? key with
  | some (.text t) => some t.toText
  | _ => none

/-- Runs a tool that works on a description at once. -/
def onDescription (input : Json.Value) (answer : Text → Text) : Option (Except Fault Reply) :=
  (textArgument? input Tool.argumentName).map fun description => .ok ⟨answer description, []⟩

/-- Runs a tool on an object; none when the object is refused. -/
def invoke (environment : Environment) (link : Link) (input : Json.Value) :
    AssistantTool → Option (Except Fault Reply)
  | .analyze => onDescription input fun d => Answer.ofReview (Review.ofDescription d)
  | .generate => onDescription input fun d => Answer.ofSource (Chart.source d)
  | .normalize => onDescription input fun d => (Quotation.normalize d).record.print .inline
  | .remote =>
    match textArgument? input "action", textArgument? input "args_json" with
    | some action, some written => some (Remote.call environment link action written)
    | _, _ => none

end AssistantTool

end ProseChart

import ProseChart.Assistant.Tool

/-!
# ProseChart.Assistant.Supervisor — the documentation supervisor

The supervisor is an assistant that turns process descriptions into charts. It
either uses the tools directly or reaches them through the server; its
instructions differ accordingly.

* `Supervisor.toolsFor` — the tools it gets.
* `Supervisor.build` — how it is set up, from the caller's wishes and the
  environment.
-/

namespace ProseChart

/-- What a caller may wish for. -/
structure SupervisorWish where
  model : Option Text := none
  temperature : Json.Value := .decimal (Binary64.ofDecimal false 2 (-1))
  apiKey : Option Text := none
  useServer : Bool := false

/-- The set-up of a supervisor. -/
structure Supervisor where
  tools : List AssistantTool
  instructions : Text
  model : Text
  temperature : Text
  apiKey : Option Text
deriving DecidableEq, Repr

namespace Supervisor

/-- The instructions for the tools themselves. -/
def directInstructions : Text :=
  List.intercalate ['\n']
    ["You are the Documentation Supervisor. You turn process descriptions into " ++
        "Mermaid flowcharts.",
      "1. Call `analyze_flowchart` first. If it reports missing elements, ask the user " ++
        "for them before drawing.",
      "2. Call `generate_flowchart` with a description written as short sentences: " ++
        "one step per sentence, decisions phrased with 'if' or 'check', and the " ++
        "alternative branch phrased with 'otherwise'.",
      "3. Use `normalize_quotes` when the user wants quoted text cleaned up for a label.",
      "Return the Mermaid code block unchanged."]

/-- The instructions for the tools behind the server. -/
def remoteInstructions : Text :=
  List.intercalate ['\n']
    ["You are the Documentation Supervisor. You turn process descriptions into " ++
        "Mermaid flowcharts through the `mermaid_mcp` tool.",
      "1. Call it with action 'analyze-flowchart' first. If it reports missing elements, " ++
        "ask the user for them before drawing.",
      "2. Call it with action 'generate-flowchart' and a description written as short " ++
        "sentences: one step per sentence, decisions phrased with 'if' or 'check', and the " ++
        "alternative branch phrased with 'otherwise'.",
      "3. Use action 'normalize-quotes' when the user wants quoted text cleaned up.",
      "Always pass args_json as a JSON object with a 'description' string. " ++
        "Return the Mermaid code block unchanged."]

/-- The tools of a supervisor. -/
def toolsFor (useServer : Bool) : List AssistantTool :=
  if useServer then [.remote] else [.analyze, .generate, .normalize]

/-- A wish that is not empty. -/
def given (wish : Option Text) : Option Text := wish.filter fun t => !t.isEmpty

/-- The set-up of a supervisor. A wish that is empty counts as none; then the
environment decides. -/
def build (environment : Environment) (wish : SupervisorWish) : Supervisor where
  tools := toolsFor wish.useServer
  instructions := if wish.useServer then remoteInstructions else directInstructions
  model := (given wish.model).getD (Settings.modelOf environment)
  temperature := wish.temperature.literal
  apiKey := (given wish.apiKey).or (List.lookup "OPENAI_API_KEY".toList environment)

end Supervisor

end ProseChart

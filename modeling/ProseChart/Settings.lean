import ProseChart.Text.Blank
import ProseChart.Text.Fold
import ProseChart.Tool.Catalog

/-!
# ProseChart.Settings — settings of the server

The settings come from environment variables; a variable that is set to the
empty text is set. The tool set can also be given as an argument, which wins
unless it is empty. Blanks around the name of a tool set and the case of its
letters do not matter.

* `Environment` — the variables with their values.
* `Settings.toolSetName` — the check of a name.
* `Settings.load` — the settings, or the fault that the tool set is unknown.
-/

namespace ProseChart

/-- Environment variables with their values. -/
abbrev Environment := List (Text × Text)

/-- The value of a variable, or a default when it is not set. -/
def Environment.getD (environment : Environment) (name default : Text) : Text :=
  (List.lookup name environment).getD default

/-- Settings of the server. -/
structure Settings where
  serverName : Text
  serverVersion : Text
  toolSet : ToolSet
  model : Text
deriving DecidableEq, Repr

namespace Settings

/-- The model of the assistant when none is named. -/
def defaultModel : Text := "gpt-4o-mini"

/-- The model that the environment names. -/
def modelOf (environment : Environment) : Text := environment.getD "OPENAI_MODEL" defaultModel

/-- The names of tool sets that settings accept. -/
def toolSetNames : List Text := ["full", "core"]

/-- The name that a text gives, without the blanks around it and in lower case. -/
def toolSetName (given : Text) : Except Fault Text :=
  let name := Text.fold given.trimBlank
  if toolSetNames.contains name then .ok name else .error (.unexpectedToolSet given)

/-- The tool set that a text names. -/
def toolSetOf (given : Text) : Except Fault ToolSet := (toolSetName given).bind ToolSet.named

/-- The name of the tool set to use: the argument, unless it is empty, or else
the variable, or else the full set. -/
def chosenToolSet (environment : Environment) (argument : Option Text) : Text :=
  match argument.getD [] with
  | [] => environment.getD "MERMAID_MCP_TOOL_SET" ToolSet.full.name
  | c :: rest => c :: rest

/-- The settings with a given tool set. -/
def withToolSet (environment : Environment) (set : ToolSet) : Settings where
  serverName := environment.getD "MERMAID_MCP_SERVER_NAME" "mermaid-mcp"
  serverVersion := environment.getD "MERMAID_MCP_SERVER_VERSION" "1.0.0"
  toolSet := set
  model := modelOf environment

/-- Loads the settings. -/
def load (environment : Environment) (argument : Option Text) : Except Fault Settings :=
  (toolSetOf (chosenToolSet environment argument)).map (withToolSet environment)

end Settings

end ProseChart

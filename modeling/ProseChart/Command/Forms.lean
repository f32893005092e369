import ProseChart.Arguments
import ProseChart.Tool.Catalog

/-!
# ProseChart.Command.Forms — the forms of the commands

The command line has four commands, each with a form of its own, and the server
can be started alone as well. Help texts are laid out for 80 columns.
-/

namespace ProseChart.Command

open Arguments

/-- The flag that asks for JSON output. -/
def jsonFlag : Flag := { long := "--json", effect := .switch }

/-- The flag that chooses a tool set. -/
def toolSetFlag : Flag :=
  { long := "--tool-set", effect := .choice (ToolSet.all.map ToolSet.name) }

/-- The commands. -/
inductive Name where
  | analyze
  | generate
  | quotes
  | serve
deriving DecidableEq, Repr

namespace Name

/-- All commands, in the order of the help text. -/
def all : List Name := [.analyze, .generate, .quotes, .serve]

/-- The word for a command. -/
def word : Name → Text
  | .analyze => "analyze"
  | .generate => "generate"
  | .quotes => "quotes"
  | .serve => "serve"

/-- The command of a word. -/
def ofWord? (word : Text) : Option Name := all.find? fun name => name.word == word

end Name

/-- The name of the program. -/
def program : Text := "mermaid-flow"

/-- The name of the server program. -/
def serverProgram : Text := "mermaid-mcp"

/-- How messages call the operand that names a command. -/
def commandTitle : Text := "command"

/-- The form of the whole command line. -/
def mainForm : Form where
  program := program
  synopsis := "[-h] \x7banalyze,generate,quotes,serve\x7d ..."
  explanation :=
    Text.unlines
      ["",
        "Analyze and draw process descriptions as Mermaid flowcharts",
        "",
        "positional arguments:",
        "  \x7banalyze,generate,quotes,serve\x7d",
        "    analyze             Check a description for a start, connectors and",
        "                        decisions",
        "    generate            Print Mermaid flowchart code for a description",
        "    quotes              Strip quote characters and wrap the text in double",
        "                        quotes",
        "    serve               Run the MCP server over stdio",
        "",
        "options:",
        "  -h, --help            show this help message and exit"]
  flags := [helpFlag]
  operand := .command commandTitle (Name.all.map Name.word)

/-- The help on the description, and on further flags. -/
def descriptionHelp (flags : List Text) : Text :=
  Text.unlines
    ("" ::
      "positional arguments:" ::
      "  description  Process description (read from stdin when omitted or '-')" ::
      "" ::
      "options:" ::
      "  -h, --help   show this help message and exit" :: flags)

/-- The help on the choice of a tool set. -/
def toolSetHelp : List Text :=
  ["",
    "options:",
    "  -h, --help            show this help message and exit",
    "  --tool-set \x7bfull,core\x7d",
    "                        Which tools to expose (defaults to",
    "                        MERMAID_MCP_TOOL_SET or 'full')"]

/-- The usage of a command that only chooses a tool set. -/
def toolSetSynopsis : Text := "[-h] [--tool-set \x7bfull,core\x7d]"

/-- The form of a command. -/
def formOf (name : Name) : Form :=
  let program := program ++ " " ++ name.word
  match name with
  | .analyze =>
    { program, synopsis := "[-h] [--json] [description]",
      explanation := descriptionHelp ["  --json       Print the analysis as JSON"],
      flags := [helpFlag, jsonFlag], operand := .optional }
  | .generate =>
    { program, synopsis := "[-h] [description]", explanation := descriptionHelp [],
      flags := [helpFlag], operand := .optional }
  | .quotes =>
    { program, synopsis := "[-h] [--json] [description]",
      explanation := descriptionHelp ["  --json       Print the result as JSON"],
      flags := [helpFlag, jsonFlag], operand := .optional }
  | .serve =>
    { program, synopsis := toolSetSynopsis, explanation := Text.unlines toolSetHelp,
      flags := [helpFlag, toolSetFlag], operand := .nothing }

/-- The form of the server program. -/
def serverForm : Form where
  program := serverProgram
  synopsis := toolSetSynopsis
  explanation := Text.unlines ("" :: "Mermaid flowchart MCP server (stdio)" :: toolSetHelp)
  flags := [helpFlag, toolSetFlag]
  operand := .nothing

end ProseChart.Command

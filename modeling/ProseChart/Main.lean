import ProseChart.Command

/-!
# ProseChart.Main — the program

Reads the command line, the environment and, where the command needs it, standard
input; everything else is `ProseChart.Command`.
-/

namespace ProseChart

/-- The environment variables that the program looks at. -/
def environmentNames : List String :=
  ["MERMAID_MCP_SERVER_NAME", "MERMAID_MCP_SERVER_VERSION", "MERMAID_MCP_TOOL_SET",
    "OPENAI_MODEL", "OPENAI_API_KEY"]

/-- The variables that are set. -/
def readEnvironment : IO Environment :=
  environmentNames.filterMapM fun name => do
    return (← IO.getEnv name).map fun value => (name.toList, value.toList)

/-- The whole of standard input. -/
partial def readInput : IO Text := do
  let stdin ← IO.getStdin
  let rec more (read : String) : IO String := do
    let line ← stdin.getLine
    if line.isEmpty then return read else more (read ++ line)
  return (← more "").toList

/-- Writes an outcome and returns its exit code. -/
def finish (outcome : Outcome) : IO UInt32 := do
  IO.print (String.ofList outcome.output)
  IO.eprint (String.ofList outcome.errors)
  return UInt32.ofNat outcome.exitCode

end ProseChart

/-- Runs the command line. -/
def main (args : List String) : IO UInt32 := do
  let environment ← ProseChart.readEnvironment
  match ProseChart.Command.parse (args.map String.toList) with
  | .error outcome => ProseChart.finish outcome
  | .ok command =>
    let input ← if command.readsInput then ProseChart.readInput else pure []
    match command.run environment input with
    | .ok outcome => ProseChart.finish outcome
    | .error fault =>
      ProseChart.finish
        { exitCode := 1
          errors := ProseChart.Text.line (fault.kind.name ++ ": ".toList ++ fault.text) }

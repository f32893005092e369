import ProseChart.Fault

/-!
# ProseChart.Log — the lines on standard error

What the tools and the server report beside their answers is a list of entries;
`Log.render` writes them one after the other.
-/

namespace ProseChart

/-- An entry of the log. -/
inductive LogEntry where
  /-- A tool is called. -/
  | calling (tool : Text)
  /-- A tool failed for a reason that does not blame the request. -/
  | failed (tool : Text) (fault : Fault)
  /-- The place where the calls that led to a failure are listed. -/
  | trace
  /-- The server starts with a tool set and its tools. -/
  | starting (server toolSet : Text) (tools : List Text)
  /-- The user interrupts the server. -/
  | stopped
  /-- The server fails. -/
  | crashed (reason : Text)
  /-- A call over the wire fails and is answered in the same process. -/
  | fallback (reason : Text)
deriving DecidableEq, Repr

/-- The lines of an entry. -/
def LogEntry.render : LogEntry → Text
  | .calling tool => Text.line ("[DEBUG] Calling tool: " ++ tool)
  | .failed tool fault =>
    Text.line ("[ERROR] " ++ tool ++ " failed: " ++ fault.kind.name ++ ": " ++ fault.text)
  | .trace => Text.line "[TRACEBACK]"
  | .starting server toolSet tools =>
    Text.line ("[INFO] Starting " ++ server ++ " (" ++ toolSet ++ ": " ++
      List.intercalate ", ".toList tools ++ ")...")
  | .stopped => '\n' :: Text.line "[INFO] Server stopped by user"
  | .crashed reason => Text.line ("[ERROR] Server crashed: " ++ reason)
  | .fallback reason =>
    Text.line ("[ERROR] MCP call failed, using in-process tools: " ++ reason)

/-- A log: its entries in the order of writing. -/
abbrev Log := List LogEntry

/-- The text of a log. -/
def Log.render (log : Log) : Text := log.flatMap LogEntry.render

/-- The text of two logs in a row. -/
theorem Log.render_append (a b : Log) : Log.render (a ++ b) = a.render ++ b.render := by
  simp [Log.render]

end ProseChart

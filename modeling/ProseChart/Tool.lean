import ProseChart.Answer
import ProseChart.Log

/-!
# ProseChart.Tool — tools and their calls

A tool has a name, a description for its callers, a schema of its arguments and
a handler that turns arguments into text or fails. `Tool.call` always answers
with one text: the handler's text as it is, or a report of the failure.

* A fault that blames the request is reported to the caller alone.
* Any other fault is logged too, and the tool's own failure message, if it has
  one that is not empty, introduces the report.
-/

namespace ProseChart

/-- What a tool does with the arguments of a call. -/
abbrev Handler := Json.Value → Except Fault Text

/-- A tool. -/
structure Tool where
  name : Text
  description : Text
  inputSchema : Json.Value
  handler : Handler
  failureMessage : Option Text := none

/-- The answer to a call, with what is logged on the way. -/
structure Reply where
  text : Text
  log : Log
deriving DecidableEq, Repr

namespace Tool

/-- How a tool is listed. -/
def listing (tool : Tool) : Json.Value :=
  .object
    [("name", .text tool.name), ("description", .text tool.description),
      ("inputSchema", tool.inputSchema)]

/-- The arguments that a handler gets: a value that does not count as given
stands for no arguments. -/
def given (arguments : Json.Value) : Json.Value :=
  if arguments.isTruthy then arguments else .object []

/-- The report of a fault that does not blame the request. -/
def failureReport (tool : Tool) (fault : Fault) : Text :=
  match tool.failureMessage.getD [] with
  | [] => Answer.unexpectedError fault
  | c :: rest => (c :: rest) ++ ": " ++ fault.text

/-- Calls a tool. -/
def call (tool : Tool) (arguments : Json.Value) : Reply :=
  match tool.handler (given arguments) with
  | .ok text => ⟨text, [.calling tool.name]⟩
  | .error fault =>
    if fault.kind.blamesRequest then ⟨Answer.invalidRequest fault, [.calling tool.name]⟩
    else ⟨tool.failureReport fault, [.calling tool.name, .failed tool.name fault, .trace]⟩

end Tool

end ProseChart

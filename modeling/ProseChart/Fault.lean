import ProseChart.Json
import ProseChart.Json.Bounds

/-!
# ProseChart.Fault — what can go wrong

A fault is the reason why an operation gives no result. Every fault has a class;
the class says whether the request is to blame (then the caller is told so and
nothing is logged as an error) and how the fault is worded.

* `Fault` — the causes. Tools may also raise faults of any class, with a message
  of their own.
* `Fault.kind` — the class of a cause.
* `Fault.text` — its wording.
-/

namespace ProseChart

/-- A class of faults: its name, whether it blames the request, and whether it
shows its message as a literal. -/
structure FaultClass where
  name : Text
  blamesRequest : Bool := false
  showsLiteral : Bool := false
deriving DecidableEq, Repr

namespace FaultClass

/-- A value that is not allowed. -/
def value : FaultClass := { name := "ValueError", blamesRequest := true }

/-- A tool argument that is missing or of the wrong kind. -/
def argument : FaultClass := { name := "ToolArgumentError", blamesRequest := true }

/-- A value of the wrong kind. -/
def type : FaultClass := { name := "TypeError" }

/-- A key that is not there; the message is the key. -/
def key : FaultClass := { name := "KeyError", showsLiteral := true }

/-- Values nested too deeply. -/
def nesting : FaultClass := { name := "RecursionError" }

/-- The classes that have a name here. -/
def all : List FaultClass := [value, argument, type, key, nesting]

/-- The class of a name. -/
def ofName? (name : Text) : Option FaultClass := all.find? fun cls => cls.name == name

end FaultClass

/-- The causes of a failure. -/
inductive Fault where
  /-- A description is of another kind than text. -/
  | descriptionKind (found : Json.Kind)
  /-- Quotes are to be removed from something else than text. -/
  | quotedKind (found : Json.Kind)
  /-- A tool call does not give the description. -/
  | missingArgument
  /-- A tool call gives a description of another kind than text. -/
  | argumentKind (found : Json.Kind)
  /-- The arguments of a call are an array that holds the argument's name. -/
  | namedInArray
  /-- The arguments of a call are a text that holds the argument's name. -/
  | namedInText
  /-- The arguments of a call are of a kind in which no name can be looked up. -/
  | unsearchable (found : Json.Kind)
  /-- No tool has the name. -/
  | unknownTool (name : Text)
  /-- Two tools have the same name. -/
  | duplicateTool (name : Text)
  /-- No tool set has the name. -/
  | unknownToolSet (name : Text)
  /-- The settings name a tool set that there is not. -/
  | unexpectedToolSet (given : Text)
  /-- A value that is to be read exceeds a bound. -/
  | excess (found : Json.Excess)
  /-- A tool raises a fault of its own. -/
  | raised (cls : FaultClass) (message : Text)
deriving DecidableEq, Repr

namespace Fault

/-- The class of a fault. -/
def kind : Fault → FaultClass
  | .descriptionKind _ | .quotedKind _ => .type
  | .missingArgument | .argumentKind _ => .argument
  | .namedInArray | .namedInText | .unsearchable _ => .type
  | .unknownTool _ | .duplicateTool _ | .unknownToolSet _ | .unexpectedToolSet _ => .value
  | .excess (.digits ..) => .value
  | .excess (.nesting _) => .nesting
  | .raised cls _ => cls

/-- The message of a fault. -/
def message : Fault → Text
  | .descriptionKind found => "description must be a string, got " ++ found.name
  | .quotedKind found => "expected string or bytes-like object, got '" ++ found.name ++ "'"
  | .missingArgument => "Missing required argument: description"
  | .argumentKind found => "Argument 'description' must be a string, got " ++ found.name
  | .namedInArray => "list indices must be integers or slices, not str"
  | .namedInText => "string indices must be integers, not 'str'"
  | .unsearchable found => "argument of type '" ++ found.name ++ "' is not iterable"
  | .unknownTool name => "Unknown tool: " ++ name
  | .duplicateTool name => "Duplicate tool name: " ++ name
  | .unknownToolSet name => "Unknown tool set: " ++ name
  | .unexpectedToolSet given =>
    "Unknown tool set '" ++ given ++ "'. Expected one of: full, core"
  | .excess found => found.message
  | .raised _ message => message

/-- The wording of a fault: its message, as a literal where the class says so. -/
def text (fault : Fault) : Text :=
  if fault.kind.showsLiteral then fault.message.literal else fault.message

end Fault

end ProseChart

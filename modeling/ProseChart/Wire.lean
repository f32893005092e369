import ProseChart.Json.Shape

/-!
# ProseChart.Wire — the arguments of a call on their way to a server

A client hands the arguments of a call over to the server in the terms of
standard JSON, and refuses those that it cannot hand over.

* `Wire.accepts` — what the client hands over: no arguments, or an object of at
  most `Wire.maxLevels` levels in which no surrogate stands alone in a key below
  the top level.
* `Wire.standardized` — a value in the terms of standard JSON.
* `Wire.arriving` — the arguments as they arrive.
-/

namespace ProseChart.Wire

/-- The most levels of the arguments of a call. -/
def maxLevels : Nat := 255

/-- Whether the client hands arguments over. -/
def accepts : Json.Value → Bool
  | .null => true
  | .object members =>
    decide ((Json.Value.object members).levels ≤ maxLevels) &&
      members.all fun member => member.2.keys.all LooseText.isText
  | _ => false

mutual

/-- A value in the terms of standard JSON: infinities and what is no number become
null, since standard JSON has no text for them. -/
def standardized : Json.Value → Json.Value
  | .decimal .undefined => .null
  | .decimal (.infinite _) => .null
  | .array items => .array (itemsStandardized items)
  | .object members => .object (membersStandardized members)
  | other => other

/-- The items of an array in the terms of standard JSON. -/
def itemsStandardized : List Json.Value → List Json.Value
  | [] => []
  | item :: rest => standardized item :: itemsStandardized rest

/-- The members of an object in the terms of standard JSON. -/
def membersStandardized : List (LooseText × Json.Value) → List (LooseText × Json.Value)
  | [] => []
  | (key, value) :: rest => (key, standardized value) :: membersStandardized rest

end

/-- The arguments of a call as they arrive. A call without arguments has the empty
object. -/
def arriving : Json.Value → Json.Value
  | .null => .object []
  | arguments => standardized arguments

end ProseChart.Wire

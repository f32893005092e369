import ProseChart.Json.Literal

/-!
# ProseChart.Schema — what is wrong with a value by its schema

A schema is a value itself: an object with keywords. The keywords that the schemas of
tools have name the type of a value, the members that an object has to have, and the
schemas of its members. A complaint is what a caller is told about one violation.

* `Schema.wrongType`, `Schema.lacking` — the two complaints.
* `Schema.complaints` — all complaints about a value, keyword by keyword.
-/

namespace ProseChart.Schema

/-- Whether a value is of a type. Tools take objects and texts only, so no other type
has values here. -/
def isOfType (type : LooseText) : Json.Value → Bool
  | .object _ => type == "object"
  | .text _ => type == "string"
  | _ => false

/-- The complaint about a value that is of another type. -/
def wrongType (value : Json.Value) (type : LooseText) : Text :=
  value.literal ++ " is not of type " ++ type.literal

/-- The complaint about a member that is not there. -/
def lacking (name : LooseText) : Text := name.literal ++ " is a required property"

/-- The complaint about a value by the name of a required member. What is no object
needs none. -/
def lacking? : (value name : Json.Value) → Option Text
  | .object members, .text name =>
    if (Json.Value.find? name members).isNone then some (lacking name) else none
  | _, _ => none

mutual

/-- The complaints about a value. -/
def complaints : (schema value : Json.Value) → List Text
  | .object keywords, value => keywordComplaints keywords value
  | _, _ => []
termination_by structural schema => schema

/-- The complaints of several keywords. -/
def keywordComplaints : List (LooseText × Json.Value) → Json.Value → List Text
  | [], _ => []
  | (keyword, operand) :: rest, value =>
    operandComplaints keyword operand value ++ keywordComplaints rest value
termination_by structural keywords => keywords

/-- The complaints of a keyword with what it is set to. -/
def operandComplaints (keyword : LooseText) : (operand value : Json.Value) → List Text
  | .text type, value =>
    if keyword = "type" ∧ isOfType type value = false then [wrongType value type] else []
  | .array names, value =>
    if keyword = "required" then names.filterMap (lacking? value) else []
  | .object properties, value =>
    if keyword = "properties" then propertyComplaints properties value else []
  | _, _ => []
termination_by structural operand => operand

/-- The complaints about the members for which there are schemas. -/
def propertyComplaints : List (LooseText × Json.Value) → Json.Value → List Text
  | [], _ => []
  | (name, schema) :: rest, value =>
    ((value.get? name).map (complaints schema)).getD [] ++ propertyComplaints rest value
termination_by structural properties => properties

end

end ProseChart.Schema

import ProseChart.Decimal.Binary64
import ProseChart.Text.Loose

/-!
# ProseChart.Json — JSON values

Tool arguments arrive as JSON, so a value of any kind can stand where a
description is expected. Integers are exact and of any size; every other number
is a double. In a text, and in a key, a surrogate may stand without its partner.

* `Json.Value` — the values. An object keeps its members in the order in which
  their keys first came.
* `Value.isTruthy` — null, false, zeros and empty texts, arrays and objects
  stand for an argument that is not given.
* `Value.kind` — the name of a value's kind in messages.
-/

namespace ProseChart.Json

/-- A JSON value. -/
inductive Value where
  | null
  | bool (b : Bool)
  | integer (n : Int)
  | decimal (x : Binary64)
  | text (t : LooseText)
  | array (items : List Value)
  | object (members : List (LooseText × Value))
deriving Repr, Inhabited

/-- The kinds of values that messages tell apart. -/
inductive Kind where
  | none | bool | integer | decimal | text | array | object
deriving DecidableEq, Repr

/-- The name of a kind. -/
def Kind.name : Kind → Text
  | .none => "NoneType"
  | .bool => "bool"
  | .integer => "int"
  | .decimal => "float"
  | .text => "str"
  | .array => "list"
  | .object => "dict"

namespace Value

/-- The kind of a value. -/
def kind : Value → Kind
  | .null => .none
  | .bool _ => .bool
  | .integer _ => .integer
  | .decimal _ => .decimal
  | .text _ => .text
  | .array _ => .array
  | .object _ => .object

/-- Whether a value counts as given. -/
def isTruthy : Value → Bool
  | .null => false
  | .bool b => b
  | .integer n => n != 0
  | .decimal x => !x.isZero
  | .text t => !t.isEmpty
  | .array items => !items.isEmpty
  | .object members => !members.isEmpty

/-! ## Members of objects -/

/-- The value of a key in a list of members. -/
def find? (key : LooseText) (members : List (LooseText × Value)) : Option Value :=
  (members.find? fun member => member.1 == key).map Prod.snd

/-- The value of a key, if the value is an object that has it. -/
def get? (key : LooseText) : Value → Option Value
  | .object members => find? key members
  | _ => none

/-- Sets a key: a known key keeps its place and gets the new value, a new key
goes to the end. -/
def put (members : List (LooseText × Value)) (member : LooseText × Value) :
    List (LooseText × Value) :=
  match members with
  | [] => [member]
  | first :: rest => if first.1 = member.1 then member :: rest else first :: put rest member

/-- The object of a list of members; of two members with one key the later one
counts. -/
def ofMembers (members : List (LooseText × Value)) : Value := .object (members.foldl put [])

/-- What a key is set to is found under it. -/
theorem find?_put (members : List (LooseText × Value)) (key : LooseText) (value : Value) :
    find? key (put members (key, value)) = some value := by
  induction members with
  | nil => simp [put, find?]
  | cons first rest ih =>
    by_cases h : first.1 = key
    · simp [put, find?, h]
    · simpa [put, find?, h] using ih

end Value

end ProseChart.Json

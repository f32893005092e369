import ProseChart.Decimal.Shortest
import ProseChart.Json

/-!
# ProseChart.Json.Literal — values in messages

How a message shows a value: `None`, `True` and `False`, numbers in decimal,
texts as literals, and brackets around the shown parts of arrays and objects.
-/

namespace ProseChart.Json.Value

mutual

/-- The value as a message shows it. -/
def literal : Value → Text
  | .null => "None"
  | .bool true => "True"
  | .bool false => "False"
  | .integer n => Text.ofInt n
  | .decimal x => x.text
  | .text t => t.literal
  | .array items => '[' :: (List.intercalate ", ".toList (literals items) ++ [']'])
  | .object members => '{' :: (List.intercalate ", ".toList (memberLiterals members) ++ ['}'])

/-- The items of an array, each as a message shows it. -/
def literals : List Value → List Text
  | [] => []
  | item :: rest => literal item :: literals rest

/-- The members of an object, key and value as a message shows them. -/
def memberLiterals : List (LooseText × Value) → List Text
  | [] => []
  | (key, value) :: rest => (key.literal ++ ": " ++ literal value) :: memberLiterals rest

end

/-- The value as running text: a text stands for itself, with the replacement
character for surrogates. -/
def display : Value → Text
  | .text t => t.toText
  | value => literal value

end ProseChart.Json.Value

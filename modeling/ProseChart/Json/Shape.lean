import ProseChart.Json

/-!
# ProseChart.Json.Shape — levels and keys of values

* `Value.levels` — how many levels a value has: what stands inside an array or an
  object is one level below it.
* `Value.keys` — the keys of all objects in a value, at any level.
-/

namespace ProseChart.Json.Value

mutual

/-- The number of levels of a value. -/
def levels : Value → Nat
  | .array items => itemLevels items + 1
  | .object members => memberLevels members + 1
  | _ => 1

/-- The most levels of an item. -/
def itemLevels : List Value → Nat
  | [] => 0
  | item :: rest => max (levels item) (itemLevels rest)

/-- The most levels of a member's value. -/
def memberLevels : List (LooseText × Value) → Nat
  | [] => 0
  | (_, value) :: rest => max (levels value) (memberLevels rest)

end

mutual

/-- The keys of all objects in a value. -/
def keys : Value → List LooseText
  | .array items => itemKeys items
  | .object members => memberKeys members
  | _ => []

/-- The keys of all objects in items. -/
def itemKeys : List Value → List LooseText
  | [] => []
  | item :: rest => keys item ++ itemKeys rest

/-- The keys of members and of all objects in their values. -/
def memberKeys : List (LooseText × Value) → List LooseText
  | [] => []
  | (key, value) :: rest => key :: (keys value ++ memberKeys rest)

end

end ProseChart.Json.Value

import ProseChart.Text

/-!
# ProseChart.Json.Bounds — how large a value may be

Whoever reads JSON from others bounds what a value may cost: the digits of an
integer and the nesting of arrays and objects. A text beyond a bound may be good
JSON all the same, so exceeding a bound is no complaint about the text.

* `Bounds` — the bounds; one that is not set does not hold.
* `Excess` — what exceeds a bound, with its wording.
-/

namespace ProseChart.Json

/-- The values that hold other values. -/
inductive Container where
  | array
  | object
deriving DecidableEq, Repr

/-- The name of a container. -/
def Container.name : Container → Text
  | .array => "array"
  | .object => "object"

/-- What exceeds a bound. -/
inductive Excess where
  /-- An integer has more digits than are allowed. -/
  | digits (allowed found : Nat)
  /-- A container stands inside more containers than are allowed. -/
  | nesting (container : Container)
deriving DecidableEq, Repr

/-- The wording of an excess. -/
def Excess.message : Excess → Text
  | .digits allowed found =>
    "Exceeds the limit (" ++ Text.ofNat allowed ++
      " digits) for integer string conversion: value has " ++ Text.ofNat found ++
      " digits; use sys.set_int_max_str_digits() to increase the limit"
  | .nesting container =>
    "maximum recursion depth exceeded while decoding a JSON " ++ container.name ++
      " from a unicode string"

/-- The bounds of a reader. -/
structure Bounds where
  /-- The most digits of an integer. -/
  digits : Option Nat := none
  /-- The most containers inside one another. -/
  nesting : Option Nat := none
deriving DecidableEq, Repr

/-- What an integer of so many digits exceeds, if anything. -/
def Bounds.digitExcess? (bounds : Bounds) (found : Nat) : Option Excess :=
  match bounds.digits with
  | none => none
  | some allowed => if allowed < found then some (.digits allowed found) else none

end ProseChart.Json

import ProseChart.Decimal.Binary64

/-!
# ProseChart.Decimal.Shortest — the fewest digits that read back

A double is written with the fewest significant digits that still round to it;
of several such decimals the nearest is taken. The search walks the decimal
grids from one digit to seventeen and tests on each grid the two neighbours of
the value, in exact arithmetic.

* `Binary64.readsBack` — whether a decimal lies in the interval of reals that
  round to a double.
* `Binary64.shortest` — the digits and the place of the point.
* `Binary64.text` — positional below 10^16 and down to 10^-4, with an exponent
  otherwise.
-/

namespace ProseChart.Binary64

/-- Whether `digits · 10 ^ power` rounds to the double
`significand · 2 ^ exponent`: it is at most half a unit away (a quarter below a
power of two, where the doubles lie closer), ends included for an even
significand. -/
def readsBack (significand : Nat) (exponent : Int) (digits : Nat) (power : Int) : Bool :=
  let r := (Ratio.ofDecimal digits power).shift (exponent - 2)
  let below := if significand = Nat.pow 2 52 ∧ minExponent < exponent then 1 else 2
  let low := (4 * significand - below) * r.den
  let high := (4 * significand + 2) * r.den
  if significand % 2 = 0 then decide (low ≤ r.num ∧ r.num ≤ high)
  else decide (low < r.num ∧ r.num < high)

/-- The value as a fraction. -/
def ratio (significand : Nat) (exponent : Int) : Ratio :=
  (⟨significand, 1⟩ : Ratio).shift (-exponent)

/-- The number of digits before the decimal point; for values below one, the
negated number of zeros after it. -/
def Ratio.magnitude (r : Ratio) : Int :=
  if r.den ≤ r.num then (Text.ofNat (r.num / r.den)).length
  else 1 - ((Text.ofNat ((r.den - 1) / r.num)).length : Int)

/-- The decimal with the given power that is nearest to the double, if one of
the value's neighbours on that grid reads back. -/
def nearest? (significand : Nat) (exponent power : Int) : Option Nat :=
  let v := ratio significand exponent
  let scaled : Ratio := ⟨v.num * Nat.pow 10 (-power).toNat, v.den * Nat.pow 10 power.toNat⟩
  let low := scaled.num / scaled.den
  match readsBack significand exponent low power, readsBack significand exponent (low + 1) power with
  | true, true => some scaled.round
  | true, false => some low
  | false, true => some (low + 1)
  | false, false => none

/-- The first of the grids with `count`, `count + 1`, … digits that holds a
decimal which reads back; digits and power of ten. -/
def search (significand : Nat) (exponent magnitude : Int) : Nat → Nat → Nat × Int
  | 0, _ => (0, 0)
  | fuel + 1, count =>
    let power := magnitude - count
    match nearest? significand exponent power with
    | some digits => (digits, power)
    | none => search significand exponent magnitude fuel (count + 1)

/-- The shortest decimal that reads back as the double; seventeen digits always
do. -/
def shortest (significand : Nat) (exponent : Int) : Nat × Int :=
  search significand exponent (ratio significand exponent).magnitude 17 1

/-- Drops the zeros at the end of a digit string. -/
def dropZeros (digits : Text) : Text := Text.trimEnd (· == '0') digits

/-- An exponent with its sign and at least two digits. -/
def exponentText (e : Int) : Text :=
  let digits := Text.ofNat e.natAbs
  let padded := if digits.length < 2 then '0' :: digits else digits
  (if e < 0 then '-' else '+') :: padded

/-- Digits with the point after the first `point` of them: positional for
`-4 < point ≤ 16`, otherwise with an exponent. A positional whole number keeps
one zero after the point. -/
def layout (digits : Text) (point : Int) : Text :=
  if point ≤ -4 ∨ 16 < point then
    let fraction := digits.drop 1
    digits.take 1 ++ (if fraction.isEmpty then [] else '.' :: fraction) ++
      'e' :: exponentText (point - 1)
  else if point ≤ 0 then "0." ++ List.replicate (-point).toNat '0' ++ digits
  else
    let whole := digits.take point.toNat
    let fraction := digits.drop point.toNat
    whole ++ List.replicate (point.toNat - digits.length) '0' ++
      '.' :: (if fraction.isEmpty then ['0'] else fraction)

/-- The shortest text of a double. -/
def text : Binary64 → Text
  | .undefined => "nan"
  | .infinite negative => if negative then "-inf" else "inf"
  | .finite negative significand exponent =>
    let magnitude : Text :=
      if significand = 0 then "0.0"
      else
        let (digits, power) := shortest significand exponent
        let written := Text.ofNat digits
        layout (dropZeros written) (written.length + power)
    if negative then '-' :: magnitude else magnitude

end ProseChart.Binary64

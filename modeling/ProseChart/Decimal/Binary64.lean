import ProseChart.Text

/-!
# ProseChart.Decimal.Binary64 — double-precision numbers

A number with a fraction or an exponent is held as the double nearest to it. A
finite double is a sign, a significand below 2^53 and a power of two, so all
work on it is exact arithmetic on naturals.

* `Binary64.ofDecimal` — the double nearest to a decimal, halfway cases to the
  even significand, beyond the largest double an infinity.
* `Binary64.isZero` — either zero.
-/

namespace ProseChart

/-- A double: `± significand · 2 ^ exponent`, an infinity, or no number. -/
inductive Binary64 where
  | finite (negative : Bool) (significand : Nat) (exponent : Int)
  | infinite (negative : Bool)
  | undefined
deriving DecidableEq, Repr, Inhabited

namespace Binary64

/-- The smallest exponent of a double. -/
def minExponent : Int := -1074

/-- The largest exponent of a double. -/
def maxExponent : Int := 971

/-- A positive fraction, given by numerator and denominator. -/
structure Ratio where
  num : Nat
  den : Nat

/-- The fraction `digits · 10 ^ power`. -/
def Ratio.ofDecimal (digits : Nat) (power : Int) : Ratio :=
  ⟨digits * Nat.pow 10 power.toNat, Nat.pow 10 (-power).toNat⟩

/-- The fraction divided by `2 ^ exponent`. -/
def Ratio.shift (r : Ratio) (exponent : Int) : Ratio :=
  ⟨r.num * Nat.pow 2 (-exponent).toNat, r.den * Nat.pow 2 exponent.toNat⟩

/-- The nearest natural number; halfway between two, the even one. -/
def Ratio.round (r : Ratio) : Nat :=
  let low := r.num / r.den
  let rest := 2 * (r.num % r.den)
  if rest < r.den then low
  else if r.den < rest then low + 1
  else if low % 2 = 0 then low
  else low + 1

/-- The exponent at which the fraction has a significand of 53 bits, or the
smallest one when it is too small for that. -/
def Ratio.exponent (r : Ratio) : Int :=
  let guess : Int := (Nat.log2 r.num : Int) - Nat.log2 r.den - 52
  let scaled := r.shift guess
  let fitting := if scaled.num < Nat.pow 2 52 * scaled.den then guess - 1 else guess
  max fitting minExponent

/-- Rounding up can reach 2^53; then the significand is halved. -/
def ofRounded (negative : Bool) (significand : Nat) (exponent : Int) : Binary64 :=
  let (m, e) :=
    if significand = Nat.pow 2 53 then (Nat.pow 2 52, exponent + 1) else (significand, exponent)
  if maxExponent < e then .infinite negative else .finite negative m e

/-- The double nearest to `± digits · 10 ^ power`. Decimals with more than 309
digits before the point are beyond every double, and those below `10 ^ -324` are
nearer to zero than to the smallest one. -/
def ofDecimal (negative : Bool) (digits : Nat) (power : Int) : Binary64 :=
  let magnitude : Int := (Text.ofNat digits).length + power
  if digits = 0 ∨ magnitude < -324 then .finite negative 0 minExponent
  else if 309 < magnitude then .infinite negative
  else
    let r := Ratio.ofDecimal digits power
    ofRounded negative (r.shift r.exponent).round r.exponent

/-- Whether the double is a zero of either sign. -/
def isZero : Binary64 → Bool
  | .finite _ significand _ => significand == 0
  | _ => false

end Binary64

end ProseChart

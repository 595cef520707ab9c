import CodeInventory.Decimal.Binary64

namespace CodeInventory.Decimal

/-- The reals that round to a number, all in units of one quarter of its last binary place over
`den`. -/
structure Interval where
  low : Nat
  value : Nat
  high : Nat
  den : Nat
  closed : Bool

/-- Half a place on each side, or a quarter below where the places become narrower. -/
def interval (significand : Nat) (exponent : Int) : Interval :=
  let below :=
    if significand = Binary64.leastNormal ∧ Binary64.leastExponent < exponent then 1 else 2
  let up := 1 <<< (exponent - 2).toNat
  { low := (4 * significand - below) * up
    value := 4 * significand * up
    high := (4 * significand + 2) * up
    den := 1 <<< (2 - exponent).toNat
    closed := significand % 2 = 0 }

namespace Interval

def scale (i : Interval) (power : Int) : Interval :=
  let times := Nat.pow 10 (-power).toNat
  { i with
    low := i.low * times
    value := i.value * times
    high := i.high * times
    den := i.den * Nat.pow 10 power.toNat }

def contains (i : Interval) (digits : Nat) : Bool :=
  let point := digits * i.den
  if i.closed then decide (i.low ≤ point) && decide (point ≤ i.high)
  else decide (i.low < point) && decide (point < i.high)

/-- The multiple of `10 ^ power` in the interval nearest to the value, the greater of two. -/
def nearest? (i : Interval) (power : Int) : Option Nat :=
  let i := i.scale power
  let down := i.value / i.den
  match i.contains down && decide (0 < down), i.contains (down + 1) with
  | true, true => some (if 2 * i.value < (2 * down + 1) * i.den then down else down + 1)
  | true, false => some down
  | false, true => some (down + 1)
  | false, false => none

def shortestFrom (i : Interval) (power : Int) : (steps : Nat) → Nat × Int
  | 0 => (0, 0)
  | steps + 1 =>
    match i.nearest? power with
    | some digits => (digits, power)
    | none => shortestFrom i (power - 1) steps

end Interval

/-- The digits and the power of ten of the shortest decimal. Every number lies between `10 ^ -340`
and `10 ^ 310`. -/
def shortest (significand : Nat) (exponent : Int) : Nat × Int :=
  if significand = 0 then (0, 0) else (interval significand exponent).shortestFrom 310 650

def positional (digits : Nat) (power : Int) : String :=
  let text := Nat.toDigits 10 digits
  if 0 ≤ power then String.ofList (text ++ List.replicate power.toNat '0') ++ ".0"
  else
    let places := (-power).toNat
    let padded := List.replicate (places + 1 - text.length) '0' ++ text
    let point := padded.length - places
    String.ofList (padded.take point ++ '.' :: padded.drop point)

def Binary64.text : Binary64 → String
  | notANumber => "NaN"
  | infinite negative => if negative then "-inf" else "inf"
  | finite negative significand exponent =>
    let (digits, power) := shortest significand exponent
    (if negative then "-" else "") ++ positional digits power

end CodeInventory.Decimal

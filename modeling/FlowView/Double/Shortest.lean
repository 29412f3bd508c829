import FlowView.Double
/-!
# Shortest decimal

The fewest decimal digits that lie nearer to a double than to its neighbours. A double owns the
interval of numbers halfway to the doubles around it, with its ends if its significand is even. For
one digit, two digits, and so on up to seventeen, the two grid points around the double are tested in
exact arithmetic; the first grid with a point inside the interval wins, and of two points the nearer.
-/

namespace FlowView.Double

/-- A positive double and the ends of its interval, over one denominator. -/
structure Interval where
  low : Nat
  value : Nat
  high : Nat
  den : Nat
  closed : Bool

/-- The interval of a positive finite double. Below a power of two the next double is half as far. -/
def interval (x : Double) : Interval :=
  let m := x.significand
  let e := x.exponent - 2
  let below := if x.fraction = 0 ∧ 1 < x.exponentField then 1 else 2
  let up := 1 <<< e.toNat
  ⟨(4 * m - below) * up, 4 * m * up, (4 * m + 2) * up, 1 <<< (-e).toNat, m % 2 = 0⟩

namespace Interval

/-- Over a grid of step ten to `p`: the value and the ends counted in units of `den`. -/
def onGrid (i : Interval) (p : Int) : Interval :=
  let up := Nat.pow 10 (-p).toNat
  ⟨i.low * up, i.value * up, i.high * up, i.den * Nat.pow 10 p.toNat, i.closed⟩

/-- Does the multiple `k` of the step lie in the interval? -/
def holds (i : Interval) (k : Nat) : Bool :=
  if i.closed then i.low ≤ k * i.den ∧ k * i.den ≤ i.high else i.low < k * i.den ∧ k * i.den < i.high

/-- The multiple of the step nearest to the value among the two around it that lie inside. -/
def nearest? (i : Interval) : Option Nat :=
  let k := i.value / i.den
  match i.holds k, i.holds (k + 1) with
  | true, true =>
    let down := i.value - k * i.den
    let up := (k + 1) * i.den - i.value
    some (if down < up ∨ (down = up ∧ k % 2 = 0) then k else k + 1)
  | true, false => some k
  | false, true => some (k + 1)
  | false, false => none

/-- How many digits stand before the point; for a value below one, less the zeros after it. -/
def magnitude (i : Interval) : Int :=
  if i.den ≤ i.value then (Nat.toDigits 10 (i.value / i.den)).length
  else
    let zeros := (List.range 400).findIdx fun j => i.den ≤ i.value * Nat.pow 10 (j + 1)
    0 - (zeros : Int)

end Interval

/-- A decimal: its digits as a whole number, and the power of ten it is multiplied by. -/
structure Decimal where
  digits : Nat
  exponent : Int
  deriving DecidableEq, Repr

/-- Moves trailing zeros of the digits into the exponent. -/
def Decimal.strip : Nat → Decimal → Decimal
  | 0, d => d
  | n + 1, d => if d.digits ≠ 0 ∧ d.digits % 10 = 0 then strip n ⟨d.digits / 10, d.exponent + 1⟩ else d

/-- The shortest decimal of a finite double, its sign left out. -/
def shortest (x : Double) : Decimal :=
  if x.isZero then ⟨0, 0⟩
  else
    let i := x.interval
    let k := i.magnitude
    let found := (List.range 17).findSome? fun n : Nat =>
      let p := k - (n + 1)
      (i.onGrid p).nearest?.map fun d => Decimal.mk d p
    (found.getD ⟨0, 0⟩).strip 20

/-! ## Layouts -/

/-- The digits of a decimal with the point put among them. -/
def Decimal.positional (d : Decimal) : List Char :=
  let digits := Nat.toDigits 10 d.digits
  let point : Int := digits.length + d.exponent
  if 0 ≤ d.exponent then digits ++ List.replicate d.exponent.toNat '0' ++ ['.', '0']
  else if 0 < point then digits.take point.toNat ++ '.' :: digits.drop point.toNat
  else '0' :: '.' :: (List.replicate (-point).toNat '0' ++ digits)

/-- The digits of a decimal with one digit before the point and a power of ten behind, which always has
a sign. -/
def Decimal.scientific (d : Decimal) : List Char :=
  let digits := Nat.toDigits 10 d.digits
  let power : Int := digits.length + d.exponent - 1
  let mantissa := match digits with
    | first :: second :: rest => first :: '.' :: second :: rest
    | short => short
  mantissa ++ 'e' :: (if power < 0 then '-' else '+') :: Nat.toDigits 10 power.natAbs

def signed (x : Double) (text : List Char) : List Char :=
  if x.isNegative then '-' :: text else text

/-- A double as JSON writes it: positional from 10^-5 to below 10^16, else with an exponent. -/
def compactText (x : Double) : List Char :=
  let d := x.shortest
  let point : Int := (Nat.toDigits 10 d.digits).length + d.exponent
  x.signed (if -5 < point ∧ point ≤ 16 then d.positional else d.scientific)

end FlowView.Double

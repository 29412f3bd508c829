/-!
# Doubles

A double is kept as its sixty-four bits, so that two of them can be compared and a zero keeps its
sign. `Double.ofDigits?` is the reading of a decimal number, `Double.parts` takes a finite double
apart into a whole number and a power of two.
-/

namespace FlowView

/-- A double by its bits: sign, eleven bits of exponent, fifty-two of fraction. -/
structure Double where
  bits : UInt64
  deriving DecidableEq, Repr, Inhabited

namespace Double

/-- The largest whole number that a reading gathers before it drops digits. -/
def gatherLimit : Nat := UInt64.size - 1

def ofFloat (x : Float) : Double := ⟨x.toBits⟩

def ofSigned (negative : Bool) (x : Float) : Double := ofFloat (if negative then -x else x)

/-- A whole number that fits sixty-four bits, rounded to the nearest double. -/
def ofNat (n : Nat) : Float := n.toUInt64.toFloat

/-- The double nearest to a power of ten. -/
def powerOfTen (n : Nat) : Float := Float.ofScientific 1 false n

/-- `whole` times ten to the `exponent`: one product or quotient with a power of ten, where a quotient
by more than 10^308 takes two steps. `none` is a number too large for a double. -/
def scale? (whole : Nat) (exponent : Int) : Option Float :=
  let x := ofNat whole
  if whole = 0 then some x
  else if 308 < exponent then none
  else if 0 ≤ exponent then
    let y := x * powerOfTen exponent.toNat
    if y.isInf then none else some y
  else if -308 ≤ exponent then some (x / powerOfTen (-exponent).toNat)
  else if -616 ≤ exponent then some (x / powerOfTen 308 / powerOfTen (-(exponent + 308)).toNat)
  else some 0.0

/-- Gathers digits while they stay within `gatherLimit`; the rest is handed back. -/
def gather (whole : Nat) : List Nat → Nat × List Nat
  | [] => (whole, [])
  | d :: ds => if whole * 10 + d ≤ gatherLimit then gather (whole * 10 + d) ds else (whole, d :: ds)

/-- The double that a decimal number with these digits before and after the point, and this
exponent, is read as. Digits that no longer fit are dropped. -/
def ofDigits? (negative : Bool) (before after : List Nat) (exponent : Int) : Option Double :=
  let (whole, dropped) := gather 0 before
  let (whole', rest) := gather whole after
  let used : Int := after.length - rest.length
  (scale? whole' (exponent + dropped.length - used)).map (ofSigned negative)

/-! ## Taking apart -/

def isNegative (x : Double) : Bool := x.bits >>> 63 = 1

def exponentField (x : Double) : Nat := (x.bits >>> 52 &&& 0x7FF).toNat

def fraction (x : Double) : Nat := (x.bits &&& 0xFFFFFFFFFFFFF).toNat

/-- A finite double is a whole number times two to `exponent`. -/
def significand (x : Double) : Nat :=
  if x.exponentField = 0 then x.fraction else 0x10000000000000 + x.fraction

def exponent (x : Double) : Int := (max x.exponentField 1 : Int) - 1075

def isFinite (x : Double) : Bool := x.exponentField < 2047

def isZero (x : Double) : Bool := x.exponentField = 0 ∧ x.fraction = 0

end Double
end FlowView

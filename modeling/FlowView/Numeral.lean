import FlowView.Text.Digits
/-!
# Numerals

Whole numbers below a bound, in ASCII digits with a plus sign before them or not. The first character at
fault decides which fault is told.
-/

namespace FlowView

/-- Why a text is no number below a bound. -/
inductive NumeralFault
  | empty
  | notDigit
  | tooLarge
  deriving DecidableEq, Repr

def NumeralFault.message : NumeralFault → String
  | .empty => "cannot parse integer from empty string"
  | .notDigit => "invalid digit found in string"
  | .tooLarge => "number too large to fit in target type"

namespace Numeral

/-- Reads on behind digits whose value is `n`. -/
def readFrom (bound n : Nat) : List Char → Except NumeralFault Nat
  | [] => .ok n
  | c :: cs =>
    if c.isDigit then
      let next := n * 10 + Text.digitValue c
      if next < bound then readFrom bound next cs else .error .tooLarge
    else .error .notDigit

/-- The number that a text is. -/
def read (bound : Nat) : List Char → Except NumeralFault Nat
  | [] => .error .empty
  | ['+'] => .error .notDigit
  | '+' :: cs => readFrom bound 0 cs
  | cs => readFrom bound 0 cs

end Numeral
end FlowView

import FlowView.Text.Digits
import FlowView.Text.Split
/-!
# Addresses of hosts

An address is four numbers below 256 with dots between them, or eight groups of digits of base sixteen
with colons between them. Two colons together stand for groups of zeros, once at most, and the last two
groups may be written as four numbers.
-/

namespace FlowView.Address

/-- Is this a number below 256 in as few digits as it needs? -/
def isOctet (cs : List Char) : Bool :=
  !cs.isEmpty && cs.length ≤ 3 && cs.all Char.isDigit && (cs.length = 1 || cs.head? ≠ some '0')
    && Text.ofDigits (cs.map Text.digitValue) < 256

/-- Is this an address of four numbers? -/
def isShort (cs : List Char) : Bool :=
  let numbers := Text.parts '.' cs
  numbers.length = 4 && numbers.all isOctet

/-- Makes one gap of two colons at the front; one colon alone may not stand there. -/
def openGap? : List (List Char) → Option (List (List Char))
  | [] :: [] :: rest => some ([] :: rest)
  | [] :: _ => none
  | groups => some groups

/-- Is this a group of digits, or a gap? -/
def isGroup (cs : List Char) : Bool :=
  cs.length ≤ 4 && cs.all fun c => (Text.hexValue? c).isSome

/-- Is this an address of eight groups? A gap stands for one group at least. -/
def isLong (cs : List Char) : Bool :=
  match (openGap? (Text.parts ':' cs)).bind fun groups => openGap? groups.reverse with
  | none => false
  | some groups =>
    let (size, others) := match groups with
      | last :: before => if isShort last then (2, before) else (0, groups)
      | [] => (0, [])
    let gaps := others.countP List.isEmpty
    let total := size + others.length
    others.all isGroup && if gaps = 0 then total = 8 else gaps = 1 && total ≤ 8

end FlowView.Address

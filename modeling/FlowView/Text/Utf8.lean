/-!
# UTF-8

The characters of a sequence of bytes. Where the bytes are no UTF-8, the longest start of a character
is one fault.
-/

namespace FlowView.Text

/-- How many bytes a character takes that starts with this byte, and the bits that the byte gives. -/
def leadByte? (b : Nat) : Option (Nat × Nat) :=
  if b < 0x80 then some (1, b)
  else if 0xc2 ≤ b ∧ b < 0xe0 then some (2, b % 32)
  else if 0xe0 ≤ b ∧ b < 0xf0 then some (3, b % 16)
  else if 0xf0 ≤ b ∧ b < 0xf5 then some (4, b % 8)
  else none

/-- The bytes that may come second: some would give a longer form than is needed, a half of a
surrogate pair, or a number beyond the last character. -/
def secondByte (lead b : Nat) : Bool :=
  if lead = 0xe0 then 0xa0 ≤ b ∧ b < 0xc0
  else if lead = 0xed then 0x80 ≤ b ∧ b < 0xa0
  else if lead = 0xf0 then 0x90 ≤ b ∧ b < 0xc0
  else if lead = 0xf4 then 0x80 ≤ b ∧ b < 0x90
  else 0x80 ≤ b ∧ b < 0xc0

/-- One step: a character, or a fault, with the number of its bytes. A fault at the very end of the
bytes may be a character that is cut off. -/
structure Utf8Step where
  char? : Option Char
  size : Nat
  cutOff : Bool

/-- The step at the front of some bytes, of which there is at least one. -/
def utf8Step (lead : Nat) (rest : List Nat) : Utf8Step :=
  match leadByte? lead with
  | none => ⟨none, 1, false⟩
  | some (size, bits) =>
    let follow := rest.take (size - 1)
    let good := match follow with
      | [] => []
      | b :: bs => if secondByte lead b then b :: bs.takeWhile (fun b => 0x80 ≤ b ∧ b < 0xc0) else []
    if good.length = size - 1 then
      ⟨some (Char.ofNat (good.foldl (fun n b => n * 64 + b % 64) bits)), size, false⟩
    else ⟨none, good.length + 1, good.length = rest.length⟩

/-- The steps of some bytes; `fuel` bounds their number. -/
def utf8Steps : (fuel : Nat) → List Nat → List Utf8Step
  | 0, _ => []
  | _ + 1, [] => []
  | fuel + 1, b :: rest =>
    let step := utf8Step b rest
    step :: utf8Steps fuel (rest.drop (step.size - 1))

/-- The text of some bytes, every fault replaced by one mark. -/
def decodeLossy (bytes : List Nat) : String :=
  String.ofList ((utf8Steps bytes.length bytes).map fun s => s.char?.getD '\ufffd')

/-- The text of some bytes, or where the first fault is and how many bytes it has; none if the bytes
end within a character. -/
def decodeUtf8 (bytes : List Nat) : Except (Nat × Option Nat) String :=
  let steps := utf8Steps bytes.length bytes
  let before := steps.takeWhile fun s => s.char?.isSome
  match steps.drop before.length with
  | [] => .ok (String.ofList (before.filterMap Utf8Step.char?))
  | fault :: _ =>
    .error (before.foldl (fun n s => n + s.size) 0, if fault.cutOff then none else some fault.size)

/-- The bytes of a text. -/
def utf8Bytes (s : String) : List Nat := s.toUTF8.toList.map UInt8.toNat

end FlowView.Text

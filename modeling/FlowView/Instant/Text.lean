import FlowView.Instant
/-!
# Instants as text

Tables hold an instant as `2025-01-01T00:00:00+00:00`, with the shortest fraction of three, six or nine
digits that is exact. Events may write it with any fraction and any offset; `Instant.ofText` reads that
notation and says what is wrong with a text that is not one.
-/

namespace FlowView

/-- Why a text is no date. -/
inductive DateFault
  /-- The text ends too early. -/
  | premature
  /-- A character stands where it must not. -/
  | invalid
  /-- The numbers name no date or time. -/
  | range
  /-- The text goes on after the date. -/
  | trailing
  deriving DecidableEq, Repr

def DateFault.message : DateFault → String
  | .premature => "premature end of input"
  | .invalid => "input contains invalid characters"
  | .range => "input is out of range"
  | .trailing => "trailing input"

namespace Instant

/-! ## Writing -/

/-- A number with zeros before it up to a width. -/
def padded (width n : Nat) : List Char :=
  let ds := Nat.toDigits 10 n
  List.replicate (width - ds.length) '0' ++ ds

/-- Four digits; a year outside of these has a sign. -/
def yearText (year : Int) : List Char :=
  if 0 ≤ year ∧ year ≤ 9999 then padded 4 year.toNat
  else if year < 0 then '-' :: padded 4 year.natAbs
  else '+' :: padded 4 year.natAbs

/-- The shortest exact fraction. -/
def fractionText (nanos : Nat) : List Char :=
  if nanos = 0 then []
  else if nanos % 1000000 = 0 then '.' :: padded 3 (nanos / 1000000)
  else if nanos % 1000 = 0 then '.' :: padded 6 (nanos / 1000)
  else '.' :: padded 9 nanos

/-- The stored text. A leap second is the sixtieth of its minute. -/
def chars (t : Instant) : List Char :=
  let date := Date.ofDay (t.seconds / secondsPerDay)
  let time := t.secondOfDay
  yearText date.year ++ '-' :: padded 2 date.month ++ '-' :: padded 2 date.day
    ++ 'T' :: padded 2 (time / 3600) ++ ':' :: padded 2 (time / 60 % 60)
    ++ ':' :: padded 2 (time % 60 + t.nanos / nanosPerSecond)
    ++ fractionText (t.nanos % nanosPerSecond) ++ ['+', '0', '0', ':', '0', '0']

def text (t : Instant) : String := String.ofList t.chars

/-! ## Reading -/

/-- A reader takes what it reads from the front and leaves the rest. -/
abbrev Reader (α : Type) := List Char → Except DateFault (α × List Char)

def digit? (c : Char) : Option Nat := if c.isDigit then some (c.toNat - '0'.toNat) else none

/-- A number of so many digits. -/
def number : Nat → Nat → Reader Nat
  | 0, n, cs => .ok (n, cs)
  | _ + 1, _, [] => .error .invalid
  | k + 1, n, c :: cs =>
    match digit? c with
    | some d => number k (n * 10 + d) cs
    | none => .error .invalid

/-- One of some characters. -/
def oneOf (allowed : List Char) : Reader Unit
  | c :: cs => if c ∈ allowed then .ok ((), cs) else .error .invalid
  | [] => .error .invalid

/-- The digits of a fraction as nanoseconds; those after the ninth do not count. -/
def fractionNanos (digits : List Char) : Nat :=
  ((digits ++ List.replicate 9 '0').take 9).foldl (fun n c => n * 10 + (c.toNat - '0'.toNat)) 0

/-- A point and at least one digit, or no point. -/
def fraction : Reader Nat
  | '.' :: [] => .error .premature
  | '.' :: c :: cs =>
    if c.isDigit then
      .ok (fractionNanos ((c :: cs).takeWhile Char.isDigit), (c :: cs).dropWhile Char.isDigit)
    else .error .invalid
  | cs => .ok (0, cs)

/-- Two digits of an offset. A text of one byte is too short for them. -/
def offsetPair : Reader (Nat × Nat)
  | [] => .error .premature
  | [c] => if c.toNat < 128 then .error .premature else .error .invalid
  | c :: d :: rest =>
    match digit? c, digit? d with
    | some m, some n => .ok ((m, n), rest)
    | _, _ => .error .invalid

/-- The seconds that local time is ahead, after the sign. -/
def offsetSeconds (sign : Int) (cs : List Char) : Except DateFault (Int × List Char) := do
  let ((h, h'), cs) ← offsetPair cs
  let cs ← match cs with
    | [] => .error .premature
    | c :: cs => if c = ':' then .ok cs else .error .invalid
  let ((m, m'), cs) ← offsetPair cs
  if 6 ≤ m then .error .range
  return (sign * ((h * 10 + h') * 3600 + (m * 10 + m') * 60 : Nat), cs)

/-- The minus sign of typography, taken for a hyphen. -/
def minusSign : Char := '\u2212'

/-- The seconds that local time is ahead. -/
def offset : Reader Int
  | [] => .error .premature
  | c :: cs =>
    if c = 'Z' ∨ c = 'z' then .ok (0, cs)
    else if c = '+' then offsetSeconds 1 cs
    else if c = '-' ∨ c = minusSign then offsetSeconds (-1) cs
    else .error .invalid

/-- Reads year, month and day. -/
def date (cs : List Char) : Except DateFault (Date × List Char) := do
  let (year, cs) ← number 4 0 cs
  let ((), cs) ← oneOf ['-'] cs
  let (month, cs) ← number 2 0 cs
  let ((), cs) ← oneOf ['-'] cs
  let (day, cs) ← number 2 0 cs
  let date : Date := ⟨year, month, day⟩
  if date.isValid then return (date, cs) else .error .range

/-- Reads hour, minute and second. -/
def clock (cs : List Char) : Except DateFault ((Nat × Nat × Nat) × List Char) := do
  let (hour, cs) ← number 2 0 cs
  let ((), cs) ← oneOf [':'] cs
  let (minute, cs) ← number 2 0 cs
  let ((), cs) ← oneOf [':'] cs
  let (second, cs) ← number 2 0 cs
  return ((hour, minute, second), cs)

/-- The instant of a date and a time of day, `ahead` seconds ahead of UTC. Second sixty is a leap
second. -/
def ofLocal? (date : Date) (hour minute second nanos : Nat) (ahead : Int) : Option Instant :=
  let leap := second / 60
  ofSeconds?
    (date.toDay * secondsPerDay + (hour * 3600 + minute * 60 + (second - leap) : Nat) - ahead)
    (nanos + leap * nanosPerSecond)

/-- Reads a date and time with its offset. -/
def ofText (text : String) : Except DateFault Instant := do
  if text.utf8ByteSize < 19 then .error .premature
  let (date, cs) ← date text.toList
  let ((), cs) ← oneOf ['T', 't', ' '] cs
  let ((hour, minute, second), cs) ← clock cs
  let (nanos, cs) ← fraction cs
  if 23 < hour ∨ 59 < minute ∨ 60 < second then .error .range
  let (ahead, cs) ← offset cs
  if !cs.isEmpty then .error .trailing
  if 86400 ≤ ahead.natAbs then .error .range
  match ofLocal? date hour minute second nanos ahead with
  | some t => return t
  | none => .error .range

end Instant
end FlowView

import FlowView.Json.Document
import FlowView.Text.Digits
/-!
# Reading JSON

`Document.read` reads a text as far as it goes, `Json.read?` reads a whole one. Brackets may nest 127
deep. A number too large for a double, a half of a surrogate pair and a bare control character are
faults of the text. A reader of records skims the fields that it has no use for: there only the
grammar counts, at any depth and for numbers and escapes of any size.
-/

namespace FlowView.Document

/-- How exactly a text is read. -/
inductive Care
  /-- Every number must fit a double, every escape must be a character. -/
  | full
  /-- Only the grammar counts. -/
  | skim
  deriving DecidableEq

/-- How many brackets may stand open at once. -/
def maxDepth : Nat := 127

def isBlank (c : Char) : Bool := c = ' ' ∨ c = '\n' ∨ c = '\t' ∨ c = '\r'

def skipBlank (cs : List Char) : List Char := cs.dropWhile isBlank

/-! ## Texts -/

/-- Four hexadecimal digits. -/
def unit? (a b c d : Char) : Option Nat := do
  let high := (← Text.hexValue? a) * 16 + (← Text.hexValue? b)
  let low := (← Text.hexValue? c) * 16 + (← Text.hexValue? d)
  return high * 256 + low

/-- The character that one letter after a backslash stands for. -/
def shortEscape? (c : Char) : Option Char :=
  match c with
  | '"' => some '"'
  | '\\' => some '\\'
  | '/' => some '/'
  | 'b' => some (Char.ofNat 8)
  | 'f' => some (Char.ofNat 12)
  | 'n' => some '\n'
  | 'r' => some '\r'
  | 't' => some '\t'
  | _ => none

def isHigh (u : Nat) : Bool := 0xD800 ≤ u ∧ u < 0xDC00

def isLow (u : Nat) : Bool := 0xDC00 ≤ u ∧ u < 0xE000

/-- Reads a text up to its closing quote. `done` holds the characters before, the last one first. -/
def readText (care : Care) (done : List Char) : List Char → Option (List Char × List Char)
  | [] => none
  | '"' :: rest => some (done.reverse, rest)
  | '\\' :: 'u' :: a :: b :: c :: d :: rest =>
    match unit? a b c d with
    | none => none
    | some u =>
      if care = .skim then readText care done rest
      else if isLow u then none
      else if isHigh u then
        match rest with
        | '\\' :: 'u' :: a' :: b' :: c' :: d' :: rest' =>
          match unit? a' b' c' d' with
          | none => none
          | some l =>
            if isLow l then
              readText care (Char.ofNat ((u - 0xD800) * 0x400 + (l - 0xDC00) + 0x10000) :: done) rest'
            else none
        | _ => none
      else readText care (Char.ofNat u :: done) rest
  | '\\' :: c :: rest =>
    match shortEscape? c with
    | some e => readText care (e :: done) rest
    | none => none
  | c :: rest => if c.toNat < 0x20 then none else readText care (c :: done) rest

/-! ## Numbers -/

/-- Takes the digits at the front. -/
def readDigits (cs : List Char) : List Nat × List Char :=
  ((cs.takeWhile Char.isDigit).map Text.digitValue, cs.dropWhile Char.isDigit)

/-- The digits before the point: a zero stands alone. -/
def readWhole? (cs : List Char) : Option (List Nat × List Char) :=
  match readDigits cs with
  | ([], _) => none
  | (0 :: _ :: _, _) => none
  | (ds, rest) => some (ds, rest)

/-- The digits after a point, if there is a point. -/
def readFraction? : List Char → Option (Option (List Nat) × List Char)
  | '.' :: rest =>
    match readDigits rest with
    | ([], _) => none
    | (ds, rest) => some (some ds, rest)
  | rest => some (none, rest)

/-- The power of ten, if there is one. -/
def readExponent? : List Char → Option (Option Int × List Char)
  | c :: rest =>
    if c = 'e' ∨ c = 'E' then
      let (negative, digits) := match rest with
        | '+' :: r => (false, r)
        | '-' :: r => (true, r)
        | r => (false, r)
      match readDigits digits with
      | ([], _) => none
      | (ds, rest) =>
        let n := Text.ofDigits ds
        some (some (if negative then -(n : Int) else n), rest)
    else some (none, c :: rest)
  | [] => some (none, [])

/-- The value of a number by its parts: a whole one that fits stays whole. -/
def numberOf? (negative : Bool) (whole : List Nat) (fraction : Option (List Nat))
    (exponent : Option Int) : Option Document :=
  let n := Text.ofDigits whole
  if fraction.isNone ∧ exponent.isNone ∧ ¬negative ∧ n < UInt64.size then some (.int n)
  else if fraction.isNone ∧ exponent.isNone ∧ negative ∧ 0 < n ∧ Int64.minValue.toInt ≤ -n then
    some (.int (-n))
  else (Double.ofDigits? negative whole (fraction.getD []) (exponent.getD 0)).map .float

/-- Reads a number after its sign. -/
def readNumber (care : Care) (negative : Bool) (cs : List Char) : Option (Document × List Char) := do
  let (whole, rest) ← readWhole? cs
  let (fraction, rest) ← readFraction? rest
  let (exponent, rest) ← readExponent? rest
  if care = .skim then return (.null, rest)
  return (← numberOf? negative whole fraction exponent, rest)

/-! ## Values -/

/-- What was read, and the text behind it unless reading stopped. -/
abbrev Reading (α : Type) := α × Option (List Char)

def stopped : Reading Document := (.broken, none)

/-- A word of the grammar, after its first letter. -/
def readWord (word : List Char) (d : Document) (cs : List Char) : Reading Document :=
  if word.isPrefixOf cs then (d, some (cs.drop word.length)) else stopped

mutual
/-- Reads a value. `fuel` bounds the steps, `depth` the brackets that may still be opened, `wanted`
says which fields of an object at this place are read with care. -/
def readValue (care : Care) (wanted : String → Bool) :
    (fuel depth : Nat) → List Char → Reading Document
  | 0, _, _ => stopped
  | fuel + 1, depth, cs =>
    match skipBlank cs with
    | [] => stopped
    | c :: rest =>
      if c = 'n' then readWord ['u', 'l', 'l'] .null rest
      else if c = 't' then readWord ['r', 'u', 'e'] (.bool true) rest
      else if c = 'f' then readWord ['a', 'l', 's', 'e'] (.bool false) rest
      else if c = '"' then
        match readText care [] rest with
        | some (s, rest) => (.str (String.ofList s), some rest)
        | none => stopped
      else if c = '-' then
        match readNumber care true rest with
        | some (d, rest) => (d, some rest)
        | none => stopped
      else if c.isDigit then
        match readNumber care false (c :: rest) with
        | some (d, rest) => (d, some rest)
        | none => stopped
      else if c = '[' then
        match depth, skipBlank rest with
        | 0, _ => stopped
        | _ + 1, ']' :: rest => (.arr [], some rest)
        | depth + 1, rest =>
          let (items, rest) := readItems care fuel depth rest
          (.arr items, rest)
      else if c = '{' then
        match depth, skipBlank rest with
        | 0, _ => stopped
        | _ + 1, '}' :: rest => (.obj [], some rest)
        | depth + 1, rest =>
          let (fields, rest) := readFields care wanted fuel depth rest
          (.obj fields, rest)
      else stopped

/-- Reads the items of a list, the first of which must come now. -/
def readItems (care : Care) : (fuel depth : Nat) → List Char → Reading (List Document)
  | 0, _, _ => ([.broken], none)
  | fuel + 1, depth, cs =>
    match readValue care (fun _ => true) fuel depth cs with
    | (d, none) => ([d], none)
    | (d, some rest) =>
      match skipBlank rest with
      | ',' :: rest =>
        let (ds, rest) := readItems care fuel depth rest
        (d :: ds, rest)
      | ']' :: rest => ([d], some rest)
      | _ => ([d, .broken], none)

/-- Reads the fields of an object, the first of which must come now. -/
def readFields (care : Care) (wanted : String → Bool) :
    (fuel depth : Nat) → List Char → Reading (List (String × Document))
  | 0, _, _ => ([("", .broken)], none)
  | fuel + 1, depth, cs =>
    match skipBlank cs with
    | '"' :: rest =>
      match readText care [] rest with
      | none => ([("", .broken)], none)
      | some (key, rest) =>
        let key := String.ofList key
        match skipBlank rest with
        | ':' :: rest =>
          let field :=
            if wanted key then readValue care (fun _ => true) fuel depth rest
            else
              match readValue .skim (fun _ => true) fuel fuel rest with
              | (_, none) => stopped
              | whole => whole
          match field with
          | (d, none) => ([(key, d)], none)
          | (d, some rest) =>
            match skipBlank rest with
            | ',' :: rest =>
              let (ds, rest) := readFields care wanted fuel depth rest
              ((key, d) :: ds, rest)
            | '}' :: rest => ([(key, d)], some rest)
            | _ => ([(key, d), ("", .broken)], none)
        | _ => ([(key, .broken)], none)
    | _ => ([("", .broken)], none)
end

/-- Reads the value that a text begins with. The steps are enough: each takes a character or goes
one call deeper, and two calls never go without a character. -/
def read (wanted : String → Bool) (depth : Nat) (cs : List Char) : Reading Document :=
  readValue .full wanted (2 * cs.length + 2) depth cs

/-- Is nothing left but blanks? -/
def ended : Option (List Char) → Bool
  | none => false
  | some rest => (skipBlank rest).isEmpty

end FlowView.Document

namespace FlowView

/-- The document that a whole text is, every field read with care. -/
def Document.ofText? (text : String) : Option Document :=
  match Document.read (fun _ => true) Document.maxDepth text.toList with
  | (d, rest) => if Document.ended rest then some d else none

/-- The value that a whole text is. -/
def Json.read? (text : String) : Option Json := (Document.ofText? text).bind Document.value?

end FlowView

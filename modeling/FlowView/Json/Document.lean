import FlowView.Json.Basic
/-!
# Documents

A document is JSON text as far as it could be read: fields stand in the order of the text and may
repeat, and the place where reading had to stop is a leaf of its own. So a decoder that goes through a
document in order meets a wrong value and a fault of the text in the order they stand there.
-/

namespace FlowView

/-- JSON text as far as it could be read. -/
inductive Document
  | null
  | bool (b : Bool)
  | int (n : Int)
  | float (x : Double)
  | str (s : String)
  | arr (items : List Document)
  | obj (fields : List (String × Document))
  /-- Reading stopped here. -/
  | broken
  deriving Inhabited, Repr

namespace Document

mutual
/-- The value of a document that was read to its end. -/
def value? : Document → Option Json
  | .null => some .null
  | .bool b => some (.bool b)
  | .int n => some (.int n)
  | .float x => some (.float x)
  | .str s => some (.str s)
  | .arr items => (items? items).map .arr
  | .obj fields => (fields? fields).map Json.object
  | .broken => none

def items? : List Document → Option (List Json)
  | [] => some []
  | d :: ds => do
    let v ← d.value?
    let vs ← items? ds
    return v :: vs

def fields? : List (String × Document) → Option (List (String × Json))
  | [] => some []
  | (k, d) :: ds => do
    let v ← d.value?
    let vs ← fields? ds
    return (k, v) :: vs
end

mutual
/-- A value as a document, its fields in sorted order. -/
def ofValue : Json → Document
  | .null => .null
  | .bool b => .bool b
  | .int n => .int n
  | .float x => .float x
  | .str s => .str s
  | .arr items => .arr (ofItems items)
  | .obj fields => .obj (ofFields fields)

def ofItems : List Json → List Document
  | [] => []
  | v :: vs => ofValue v :: ofItems vs

def ofFields : List (String × Json) → List (String × Document)
  | [] => []
  | (k, v) :: vs => (k, ofValue v) :: ofFields vs
end

end Document
end FlowView

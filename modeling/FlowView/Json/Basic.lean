import FlowView.Double
/-!
# JSON values

A value is null, a truth value, a whole number, a double, a text, a list or an object. The fields of
an object are kept sorted by name, each name once: `Json.object` builds them so, and of two fields of
one name the later one counts.
-/

namespace FlowView

/-- A JSON value. Whole numbers are those that fit sixty-four bits, with a sign or
without; any other number is a double. -/
inductive Json
  | null
  | bool (b : Bool)
  | int (n : Int)
  | float (x : Double)
  | str (s : String)
  | arr (items : List Json)
  | obj (fields : List (String × Json))
  deriving Inhabited, Repr

namespace Json

/-- Puts a field where its name belongs, in place of one of the same name. -/
def insertField {α : Type} (name : String) (v : α) : List (String × α) → List (String × α)
  | [] => [(name, v)]
  | (k, w) :: rest =>
    if name < k then (name, v) :: (k, w) :: rest
    else if name = k then (name, v) :: rest
    else (k, w) :: insertField name v rest

/-- Fields in any order, sorted; the last of one name counts. -/
def sortFields {α : Type} (fields : List (String × α)) : List (String × α) :=
  fields.foldl (fun sorted f => insertField f.1 f.2 sorted) []

def object (fields : List (String × Json)) : Json := .obj (sortFields fields)

/-- The value of a field, if this is an object that has it. -/
def field? (name : String) : Json → Option Json
  | .obj fields => fields.lookup name
  | _ => none

/-- The text in a field. -/
def text? (name : String) (v : Json) : Option String :=
  match v.field? name with
  | some (.str s) => some s
  | _ => none

def isNull : Json → Bool
  | .null => true
  | _ => false

/-- A text, or null. -/
def ofText? (s : Option String) : Json := (s.map Json.str).getD .null

/-- A whole number, or null. -/
def ofInt? (n : Option Int) : Json := (n.map Json.int).getD .null

end Json
end FlowView

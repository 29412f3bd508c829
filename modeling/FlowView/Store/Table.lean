/-!
# Keyed tables

A table is a list of rows in the order they came. `upsert` changes the row of a key in its place or
appends a new one, `lookup` finds the row of a key, `remove` takes out the rows that are picked, `sort`
puts rows in order.
-/

namespace FlowView.Table

variable {α κ : Type} [DecidableEq κ]

/-- The row of a key. -/
def lookup (key : α → κ) (k : κ) (rows : List α) : Option α := rows.find? fun r => key r = k

/-- Is there a row of this key? -/
def has (key : α → κ) (k : κ) (rows : List α) : Bool := rows.any fun r => key r = k

/-- Revises the row that has the new row's key, or appends the new row. `revise` is given the old row
and the new one. -/
def upsert (key : α → κ) (revise : α → α → α) (x : α) : List α → List α
  | [] => [x]
  | y :: ys => if key y = key x then revise y x :: ys else y :: upsert key revise x ys

/-- The rows that are not picked. -/
def remove (picked : α → Bool) (rows : List α) : List α := rows.filter fun r => !picked r

/-- Appends a row that is not there. -/
def adjoin [DecidableEq α] (x : α) (rows : List α) : List α := if x ∈ rows then rows else rows ++ [x]

/-! ## Order -/

/-- Puts a row before the first one that it may come before. -/
def place (le : α → α → Bool) (x : α) : List α → List α
  | [] => [x]
  | y :: ys => if le x y then x :: y :: ys else y :: place le x ys

/-- The rows in order. -/
def sort (le : α → α → Bool) (rows : List α) : List α := rows.foldr (place le) []

/-- Rows by a first key, those of equal first keys by a second. -/
def before (first second : α → String) (a b : α) : Bool :=
  first a < first b ∨ (first a = first b ∧ second a ≤ second b)

/-- Rows without a date come first, then those of earlier text, then those of smaller id. -/
def dated (date : α → Option String) (id : α → String) (a b : α) : Bool :=
  match date a, date b with
  | none, none => id a ≤ id b
  | none, some _ => true
  | some _, none => false
  | some s, some t => s < t ∨ (s = t ∧ id a ≤ id b)

end FlowView.Table

/-!
# Memos

What is known of the rows of some keys: a row, or that there is none. Of several entries for a key the
latest counts.
-/

namespace FlowView

/-- What is known by key; the latest entry comes first. -/
structure Memo (κ α : Type) where
  entries : List (κ × Option α) := []

namespace Memo
variable {κ α : Type} [DecidableEq κ]

/-- What is known of a key, if anything is. -/
def get? (m : Memo κ α) (k : κ) : Option (Option α) := m.entries.lookup k

/-- Is anything known of a key? -/
def knows (m : Memo κ α) (k : κ) : Bool := (m.get? k).isSome

/-- The row of a key, if one is known. -/
def row? (m : Memo κ α) (k : κ) : Option α := (m.get? k).join

def put (m : Memo κ α) (k : κ) (row : Option α) : Memo κ α := ⟨(k, row) :: m.entries⟩

/-- Notes for all keys that they have no row, and then the rows that were found. -/
def putAll (m : Memo κ α) (keys : List κ) (key : α → κ) (found : List α) : Memo κ α :=
  let absent := keys.foldl (fun m k => m.put k none) m
  found.foldl (fun m r => m.put (key r) (some r)) absent

/-- Notes that the rows that are picked are gone. -/
def forget (m : Memo κ α) (picked : α → Bool) : Memo κ α :=
  ⟨m.entries.map fun (k, row) => (k, row.filter fun r => !picked r)⟩

end Memo
end FlowView

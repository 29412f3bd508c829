import FlowView.Proofs.Table
import FlowView.Call
import Mathlib.Data.List.Perm.Subperm
import Mathlib.Data.List.Nodup
/-!
# Supplies of new ids

New variables and flows get ids that no other has. Where the ids come from does not matter: a `Supply`
draws an id from any tables, one that is not used in them, and `Supply.backend` is the store with its
new ids drawn from there. The store's own backend draws from `Supply.counting`.
-/

namespace FlowView

namespace Store

/-! ## Ids from numbers -/

/-- The number that digits stand for. -/
def hexNumber (cs : List Char) : Nat := cs.foldl (fun n c => 16 * n + (Text.hexValue? c).getD 0) 0

theorem hexValue_digitChar {d : Nat} (h : d < 16) : (Text.hexValue? d.digitChar).getD 0 = d := by
  revert d; decide

theorem hexNumber_toDigits (n : Nat) : hexNumber (Nat.toDigits 16 n) = n := by
  induction n using Nat.strongRecOn with
  | _ n ih =>
    by_cases h : n < 16
    · simp [Nat.toDigits_of_lt_base h, hexNumber, hexValue_digitChar h]
    · have hlt : n / 16 < n := Nat.div_lt_self (by omega) (by omega)
      have hd := hexValue_digitChar (Nat.mod_lt n (show 0 < 16 by omega))
      have hq := ih _ hlt
      rw [Nat.toDigits_of_base_le (by omega) (by omega)]
      simp only [hexNumber, List.foldl_append, List.foldl_cons, List.foldl_nil] at hq ⊢
      rw [hq, hd]
      omega

theorem hexNumber_zeros (k : Nat) (cs : List Char) :
    hexNumber (List.replicate k '0' ++ cs) = hexNumber cs := by
  induction k with
  | zero => rfl
  | succ k ih => exact ih

theorem idText_injective : Function.Injective idText := by
  intro m n h
  unfold idText at h
  have hd := String.ofList_injective (String.append_right_inj _ |>.1 h)
  have hv := congrArg hexNumber hd
  rwa [hexNumber_zeros, hexNumber_zeros, hexNumber_toDigits, hexNumber_toDigits] at hv

/-- A search that ends on a used id has seen used ids only. -/
theorem firstUnused_used (used : List String) (fuel n : Nat) (h : idText (firstUnused used fuel n) ∈ used) :
    ∀ i < fuel, idText (n + i) ∈ used := by
  induction fuel generalizing n with
  | zero => omega
  | succ fuel ih =>
    unfold firstUnused at h
    split at h
    · rename_i hn
      intro i hi
      rcases i with _ | i
      · exact hn
      · simpa [Nat.add_assoc, Nat.add_comm 1 i] using ih (n + 1) h i (by omega)
    · contradiction

/-- A generated id is not used: the search looks at more ids than are used. -/
theorem freshId_unused (s : Store) : s.freshId.1 ∉ s.usedIds := by
  intro h
  have hall := firstUnused_used s.usedIds (s.usedIds.length + 1) s.issued h
  let seen := (List.range (s.usedIds.length + 1)).map fun i => idText (s.issued + i)
  have hnodup : seen.Nodup :=
    List.nodup_range.map fun i j hij => by have := idText_injective hij; omega
  have hsub : seen ⊆ s.usedIds := by
    intro x hx
    obtain ⟨i, hi, rfl⟩ := List.mem_map.1 hx
    exact hall i (List.mem_range.1 hi)
  -- One more id was looked at than there are used ones.
  have hlen := (hnodup.subperm hsub).length_le
  rw [List.length_map, List.length_range] at hlen
  omega

end Store

/-! ## Supplies -/

/-- Where new ids come from: from any tables an id that is not used in them, and the number to count on
from. -/
structure Supply where
  draw : Store → String × Nat
  unused : ∀ s, (draw s).1 ∉ s.usedIds

namespace Supply

/-- The ids of the numbers from the tables' count on. -/
def counting : Supply := ⟨fun s => (s.freshId.1, s.freshId.2.issued), Store.freshId_unused⟩

/-- The tables after an id was drawn. -/
def drawn (u : Supply) (s : Store) : Store := { s with issued := (u.draw s).2 }

/-- The store's answer to a call, with new ids from a supply. -/
def answer (u : Supply) : (c : Call) → (s : Store) → Outcome c.Answer Store
  | .freshId, s => (.ok (u.draw s).1, u.drawn s)
  | c, s => Store.answer c s

/-- The store as a backend, with new ids from a supply. -/
def backend (u : Supply) : Backend Store := ⟨u.answer, Store.look⟩

theorem counting_backend : counting.backend = Store.backend := by
  have h : counting.answer = Store.answer := by
    funext c s
    cases c <;> rfl
  simp only [backend, Store.backend, h]

/-! ## New ids are in no table -/

variable (u : Supply) (s : Store)

/-- A table whose ids count as used does not have the new one. -/
theorem draw_new {α : Type} {key : α → String} {rows : List α} (h : ∀ r ∈ rows, key r ∈ s.usedIds) :
    Table.has key (u.draw s).1 rows = false := by
  rw [← Bool.not_eq_true, Table.has_iff]
  rintro ⟨r, hr, hid⟩
  exact u.unused s (hid ▸ h r hr)

theorem draw_variable : Table.has ProcessVariable.id (u.draw s).1 s.processVariables = false := by
  apply u.draw_new s
  intro v hv
  simp only [Store.usedIds, List.mem_append]
  exact .inl (.inl (List.mem_map_of_mem hv))

theorem draw_taskVariable : Table.has TaskVariable.id (u.draw s).1 s.taskVariables = false := by
  apply u.draw_new s
  intro v hv
  simp only [Store.usedIds, List.mem_append]
  exact .inl (.inr (List.mem_map_of_mem hv))

theorem draw_flow : Table.has SequenceFlow.id (u.draw s).1 s.flows = false := by
  apply u.draw_new s
  intro f hf
  simp only [Store.usedIds, List.mem_append]
  exact .inr (List.mem_map_of_mem hf)

end Supply
end FlowView

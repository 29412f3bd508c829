import FlowView.Json.Document
import Mathlib.Data.String.Basic
/-!
# Values in order

A JSON value is in order if the fields of each of its objects ascend by name. The value of a document is in
order (`Document.value?_sorted`), and a value in order is the value of its own document
(`Json.Sorted.value?_ofValue`).
-/

namespace FlowView

/-! ## Fields -/

namespace Json

variable {α : Type} {name : String} {v : α} {fields : List (String × α)}

/-- The names ascend. -/
def Ascending (fields : List (String × α)) : Prop := fields.Pairwise fun f g => f.1 < g.1

theorem mem_insertField {f : String × α} (h : f ∈ insertField name v fields) : f = (name, v) ∨ f ∈ fields := by
  induction fields with
  | nil => exact .inl (by simpa [insertField] using h)
  | cons g rest ih =>
    unfold insertField at h
    split at h
    · simpa using h
    · split at h
      · rcases List.mem_cons.1 h with h | h
        · exact .inl h
        · exact .inr (List.mem_cons_of_mem _ h)
      · rcases List.mem_cons.1 h with rfl | h
        · exact .inr List.mem_cons_self
        · exact (ih h).imp_right (List.mem_cons_of_mem _)

theorem Ascending.insertField (h : Ascending fields) (name : String) (v : α) :
    Ascending (insertField name v fields) := by
  induction fields with
  | nil => exact List.pairwise_singleton _ _
  | cons g rest ih =>
    obtain ⟨hg, hrest⟩ := List.pairwise_cons.1 h
    unfold Json.insertField
    split
    · rename_i hlt
      refine List.pairwise_cons.2 ⟨fun f hf => ?_, h⟩
      rcases List.mem_cons.1 hf with rfl | hf
      · exact hlt
      · exact lt_trans hlt (hg f hf)
    · split
      · rename_i heq
        exact List.pairwise_cons.2 ⟨fun f hf => heq ▸ hg f hf, hrest⟩
      · rename_i hlt heq
        refine List.pairwise_cons.2 ⟨fun f hf => ?_, ih hrest⟩
        rcases mem_insertField hf with rfl | hf
        · exact lt_of_le_of_ne (not_lt.1 hlt) fun h => heq h.symm
        · exact hg f hf

/-- Of what fields were put in by name, each is one of them. -/
theorem mem_sortFields {f : String × α} (h : f ∈ sortFields fields) : f ∈ fields := by
  suffices hall : ∀ sorted : List (String × α),
      f ∈ fields.foldl (fun sorted f => insertField f.1 f.2 sorted) sorted → f ∈ sorted ∨ f ∈ fields from
    (hall [] h).resolve_left List.not_mem_nil
  clear h
  induction fields with
  | nil => exact fun _ h => .inl h
  | cons g rest ih =>
    intro sorted h
    rcases ih _ h with h | h
    · rcases mem_insertField h with rfl | h
      · exact .inr List.mem_cons_self
      · exact .inl h
    · exact .inr (List.mem_cons_of_mem _ h)

theorem ascending_sortFields (fields : List (String × α)) : Ascending (sortFields fields) := by
  suffices hall : ∀ sorted : List (String × α), Ascending sorted →
      Ascending (fields.foldl (fun sorted f => insertField f.1 f.2 sorted) sorted) from
    hall [] List.Pairwise.nil
  induction fields with
  | nil => exact fun _ h => h
  | cons f rest ih => exact fun sorted h => ih _ (h.insertField f.1 f.2)

theorem insertField_last (h : ∀ f ∈ fields, f.1 < name) : insertField name v fields = fields ++ [(name, v)] := by
  induction fields with
  | nil => rfl
  | cons g rest ih =>
    have hg : g.1 < name := h g List.mem_cons_self
    rw [insertField, if_neg hg.asymm, if_neg hg.ne', ih fun f hf => h f (List.mem_cons_of_mem _ hf)]
    rfl

/-- Sorting leaves fields that ascend. -/
theorem Ascending.sortFields (h : Ascending fields) : sortFields fields = fields := by
  suffices hall : ∀ sorted : List (String × α), Ascending (sorted ++ fields) →
      fields.foldl (fun sorted f => Json.insertField f.1 f.2 sorted) sorted = sorted ++ fields from
    hall [] h
  clear h
  induction fields with
  | nil => exact fun sorted _ => (List.append_nil sorted).symm
  | cons f rest ih =>
    intro sorted h
    have hlast : ∀ g ∈ sorted, g.1 < f.1 := fun g hg =>
      (List.pairwise_append.1 h).2.2 g hg f List.mem_cons_self
    rw [List.foldl_cons, insertField_last hlast, ih _ (by simpa using h)]
    simp

theorem lookup_insertField (name key : String) (v : α) (fields : List (String × α)) :
    (insertField name v fields).lookup key = if key = name then some v else fields.lookup key := by
  induction fields with
  | nil =>
    rw [insertField, List.lookup_cons]
    by_cases h : key = name <;> simp [h, beq_eq_false_iff_ne.2]
  | cons g rest ih =>
    obtain ⟨k, w⟩ := g
    unfold insertField
    split
    · rw [List.lookup_cons]
      by_cases h : key = name <;> simp [h, beq_eq_false_iff_ne.2]
    · split
      · rename_i heq
        subst heq
        simp only [List.lookup_cons]
        by_cases h : key = name <;> simp [h, beq_eq_false_iff_ne.2]
      · rename_i heq
        simp only [List.lookup_cons, ih]
        by_cases hk : key = k
        · subst hk
          simp [Ne.symm heq]
        · simp [beq_eq_false_iff_ne.2 hk]

/-- Among fields of different names, sorting does not change which one is found. -/
theorem lookup_sortFields (hn : (fields.map Prod.fst).Nodup) (key : String) :
    (sortFields fields).lookup key = fields.lookup key := by
  suffices hall : ∀ sorted : List (String × α), (∀ f ∈ fields, sorted.lookup f.1 = none) →
      (fields.foldl (fun sorted f => insertField f.1 f.2 sorted) sorted).lookup key =
        (fields.lookup key).or (sorted.lookup key) by
    rw [sortFields, hall [] fun _ _ => rfl]
    exact Option.or_none
  induction fields with
  | nil => exact fun _ _ => rfl
  | cons f rest ih =>
    intro sorted hnone
    obtain ⟨hf, hrest⟩ := List.nodup_cons.1 hn
    rw [List.foldl_cons, ih hrest, lookup_insertField, List.lookup_cons]
    · by_cases hk : key = f.1
      · subst hk
        have habsent : rest.lookup f.1 = none := List.lookup_eq_none_iff.2 fun g hg =>
          bne_iff_ne.2 fun heq => hf (List.mem_map.2 ⟨g, hg, heq.symm⟩)
        simp [habsent]
      · simp [hk, beq_eq_false_iff_ne.2 hk]
    · intro g hg
      have hne : g.1 ≠ f.1 := fun heq => hf (heq ▸ List.mem_map_of_mem hg)
      rw [lookup_insertField, if_neg hne]
      exact hnone g (List.mem_cons_of_mem _ hg)

theorem Ascending.nodup (h : Ascending fields) : (fields.map Prod.fst).Nodup :=
  List.pairwise_map.2 (h.imp ne_of_lt)

theorem lookup_of_mem (hn : (fields.map Prod.fst).Nodup) {f : String × α} (hf : f ∈ fields) :
    fields.lookup f.1 = some f.2 := by
  induction fields with
  | nil => cases hf
  | cons g rest ih =>
    obtain ⟨k, v⟩ := g
    obtain ⟨hk, hrest⟩ := List.nodup_cons.1 hn
    rcases List.mem_cons.1 hf with rfl | hf
    · simp
    · have hne : f.1 ≠ k := fun heq => hk (List.mem_map.2 ⟨f, hf, heq⟩)
      simp [List.lookup_cons, beq_eq_false_iff_ne.2 hne, ih hrest hf]

end Json

/-! ## Values -/

/-- The fields of every object within a value ascend by name. -/
inductive Json.Sorted : Json → Prop
  | null : Sorted .null
  | bool (b : Bool) : Sorted (.bool b)
  | int (n : Int) : Sorted (.int n)
  | float (x : Double) : Sorted (.float x)
  | str (s : String) : Sorted (.str s)
  | arr {items : List Json} (h : ∀ v ∈ items, v.Sorted) : Sorted (.arr items)
  | obj {fields : List (String × Json)} (horder : Ascending fields) (h : ∀ f ∈ fields, f.2.Sorted) :
    Sorted (.obj fields)

theorem Json.sorted_object {fields : List (String × Json)} (h : ∀ f ∈ fields, f.2.Sorted) :
    (Json.object fields).Sorted :=
  .obj (ascending_sortFields fields) fun f hf => h f (mem_sortFields hf)

namespace Document

mutual

/-- The value of a document is in order. -/
theorem value?_sorted : ∀ {d : Document} {v : Json}, d.value? = some v → v.Sorted
  | .null, v, h => by cases h; exact .null
  | .bool b, v, h => by cases h; exact .bool b
  | .int n, v, h => by cases h; exact .int n
  | .float x, v, h => by cases h; exact .float x
  | .str s, v, h => by cases h; exact .str s
  | .arr items, v, h => by
    obtain ⟨vs, hvs, rfl⟩ := Option.map_eq_some_iff.1 h
    exact .arr (items?_sorted hvs)
  | .obj fields, v, h => by
    obtain ⟨vs, hvs, rfl⟩ := Option.map_eq_some_iff.1 h
    exact Json.sorted_object (fields?_sorted hvs)
  | .broken, v, h => by cases h

theorem items?_sorted : ∀ {ds : List Document} {vs : List Json}, items? ds = some vs → ∀ v ∈ vs, v.Sorted
  | [], vs, h => by cases h; exact fun _ => nofun
  | d :: ds, vs, h => by
    obtain ⟨w, hw, ws, hws, rfl⟩ : ∃ w, d.value? = some w ∧ ∃ ws, items? ds = some ws ∧ w :: ws = vs := by
      simpa [items?, Option.bind_eq_some_iff] using h
    exact List.forall_mem_cons.2 ⟨value?_sorted hw, items?_sorted hws⟩

theorem fields?_sorted : ∀ {ds : List (String × Document)} {vs : List (String × Json)},
    fields? ds = some vs → ∀ f ∈ vs, f.2.Sorted
  | [], vs, h => by cases h; exact fun _ => nofun
  | (k, d) :: ds, vs, h => by
    obtain ⟨w, hw, ws, hws, rfl⟩ :
        ∃ w, d.value? = some w ∧ ∃ ws, fields? ds = some ws ∧ (k, w) :: ws = vs := by
      simpa [fields?, Option.bind_eq_some_iff] using h
    exact List.forall_mem_cons.2 ⟨value?_sorted hw, fields?_sorted hws⟩

end

theorem ofItems_eq (vs : List Json) : ofItems vs = vs.map ofValue := by
  induction vs with
  | nil => rfl
  | cons v vs ih => rw [ofItems, ih, List.map_cons]

theorem ofFields_eq (fields : List (String × Json)) :
    ofFields fields = fields.map fun f => (f.1, ofValue f.2) := by
  induction fields with
  | nil => rfl
  | cons f fields ih => rw [ofFields, ih, List.map_cons]

theorem lookup_ofFields (fields : List (String × Json)) (key : String) :
    (ofFields fields).lookup key = (fields.lookup key).map ofValue := by
  induction fields with
  | nil => rfl
  | cons f fields ih =>
    rw [ofFields, List.lookup_cons, List.lookup_cons, ih]
    split <;> rfl

theorem items?_ofItems {vs : List Json} (h : ∀ v ∈ vs, (ofValue v).value? = some v) :
    items? (ofItems vs) = some vs := by
  induction vs with
  | nil => rfl
  | cons v vs ih =>
    obtain ⟨hv, hvs⟩ := List.forall_mem_cons.1 h
    simp [ofItems, items?, hv, ih hvs]

theorem fields?_ofFields {fields : List (String × Json)} (h : ∀ f ∈ fields, (ofValue f.2).value? = some f.2) :
    fields? (ofFields fields) = some fields := by
  induction fields with
  | nil => rfl
  | cons f fields ih =>
    obtain ⟨hf, hfields⟩ := List.forall_mem_cons.1 h
    simp [ofFields, fields?, hf, ih hfields]

end Document

/-- A value in order is the value of its document. -/
theorem Json.Sorted.value?_ofValue {v : Json} (h : v.Sorted) : (Document.ofValue v).value? = some v := by
  induction h with
  | null | bool | int | float | str => rfl
  | arr _ ih => rw [Document.ofValue, Document.value?, Document.items?_ofItems ih, Option.map_some]
  | obj horder _ ih =>
    rw [Document.ofValue, Document.value?, Document.fields?_ofFields ih, Option.map_some, object,
      horder.sortFields]

end FlowView

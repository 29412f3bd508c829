import FlowView.Store.Table
import Mathlib.Data.List.Nodup
import Mathlib.Data.List.Basic
import Mathlib.Data.List.Sort
import Mathlib.Data.String.Basic
/-!
# Keyed tables: what the operations do

What an upsert and a removal do to the rows, to the keys and to what a lookup finds. Most of it needs
the keys to be unique, which an upsert and a removal keep.
-/

namespace FlowView.Table

variable {α β κ : Type} [DecidableEq κ] {key : α → κ} {revise : α → α → α} {rows : List α} {x : α}

/-! ## Lookups -/

theorem lookup_eq_none {k : κ} : lookup key k rows = none ↔ ∀ r ∈ rows, key r ≠ k := by
  simp [lookup]

theorem lookup_mem {k : κ} {r : α} (h : lookup key k rows = some r) : r ∈ rows ∧ key r = k :=
  ⟨List.mem_of_find?_eq_some h, by simpa using List.find?_some h⟩

theorem lookup_eq_some (hn : (rows.map key).Nodup) {k : κ} {r : α} :
    lookup key k rows = some r ↔ r ∈ rows ∧ key r = k := by
  refine ⟨lookup_mem, ?_⟩
  rintro ⟨hr, rfl⟩
  cases h : lookup key (key r) rows with
  | none => exact absurd rfl (lookup_eq_none.1 h r hr)
  | some r' =>
    obtain ⟨hm, hk⟩ := lookup_mem h
    rw [List.inj_on_of_nodup_map hn hm hr hk]

theorem lookup_congr {rows' : List α} (hn : (rows.map key).Nodup) (hn' : (rows'.map key).Nodup) {k : κ}
    (h : ∀ r, key r = k → (r ∈ rows ↔ r ∈ rows')) : lookup key k rows = lookup key k rows' := by
  ext r
  rw [lookup_eq_some hn, lookup_eq_some hn']
  exact and_congr_left (h r)

/-- The rows of a unique key are the one that a lookup finds. -/
theorem filter_key (hn : (rows.map key).Nodup) (k : κ) :
    rows.filter (fun r => key r = k) = (lookup key k rows).toList := by
  induction rows with
  | nil => rfl
  | cons y ys ih =>
    rw [List.map_cons, List.nodup_cons] at hn
    by_cases hy : key y = k
    · have hnone : ys.filter (fun r => key r = k) = [] := by
        rw [List.filter_eq_nil_iff]
        intro r hr hrk
        exact hn.1 (hy.trans (of_decide_eq_true hrk).symm ▸ List.mem_map_of_mem hr)
      simp [lookup, hy, hnone]
    · simpa [lookup, hy] using ih hn.2

theorem has_iff {k : κ} : has key k rows = true ↔ ∃ r ∈ rows, key r = k := by simp [has]

theorem has_eq_isSome (k : κ) : has key k rows = (lookup key k rows).isSome := by
  simp [has, lookup, List.isSome_find?]

theorem has_of_lookup {k : κ} {r : α} (h : lookup key k rows = some r) : has key k rows = true := by
  simp [has_eq_isSome, h]

theorem has_of_mem {r : α} (h : r ∈ rows) : has key (key r) rows = true := has_iff.2 ⟨r, h, rfl⟩

/-- A change that keeps the keys changes what a lookup finds. -/
theorem lookup_map {f : α → α} (hf : ∀ r, key (f r) = key r) (k : κ) :
    lookup key k (rows.map f) = (lookup key k rows).map f := by
  unfold lookup
  rw [List.find?_map]
  congr 2
  funext r
  simp [hf]

/-- A row that comes last is not found where another has its key. -/
theorem lookup_concat {k : κ} {r : α} (h : lookup key k rows = some r) :
    lookup key k (rows ++ [x]) = some r := by
  unfold lookup at h ⊢
  rw [List.find?_append, h]
  rfl

/-! ## Upserts -/

/-- A row with a new key is appended. -/
theorem upsert_new (h : lookup key (key x) rows = none) :
    upsert key revise x rows = rows ++ [x] := by
  rw [lookup_eq_none] at h
  induction rows with
  | nil => rfl
  | cons y ys ih =>
    simp only [upsert, if_neg (h y List.mem_cons_self), List.cons_append]
    rw [ih (fun z hz => h z (List.mem_cons_of_mem _ hz))]

/-- With unique keys, the row of a known key is revised in its place. -/
theorem upsert_known (hn : (rows.map key).Nodup) (h : has key (key x) rows = true) :
    upsert key revise x rows = rows.map fun y => if key y = key x then revise y x else y := by
  induction rows with
  | nil => simp [has] at h
  | cons y ys ih =>
    simp only [List.map_cons, List.nodup_cons, List.mem_map, not_exists, not_and] at hn
    unfold upsert
    split
    · rename_i hy
      have hys : ys.map (fun z => if key z = key x then revise z x else z) = ys.map id :=
        List.map_congr_left fun z hz => if_neg fun hzx => hn.1 z hz (hzx.trans hy.symm)
      rw [List.map_cons, if_pos hy, hys, List.map_id]
    · rename_i hy
      rw [List.map_cons, if_neg hy, ih hn.2]
      simpa [has, hy] using h

/-- A row that agrees with the one that it revises takes its place. -/
theorem upsert_same {y : α} (hn : (rows.map key).Nodup) (hy : y ∈ rows) (hk : key y = key x)
    (hx : revise y x = x) :
    upsert key revise x rows = rows.map fun z => if key z = key x then x else z := by
  rw [upsert_known hn (has_iff.2 ⟨y, hy, hk⟩)]
  apply List.map_congr_left
  intro z hz
  split
  · rename_i hzx
    rw [List.inj_on_of_nodup_map hn hz hy (hzx.trans hk.symm), hx]
  · rfl

/-- A row that is there can be put in its own place. -/
theorem replace_self (hn : (rows.map key).Nodup) (hx : x ∈ rows) :
    (rows.map fun y => if key y = key x then x else y) = rows := by
  refine (List.map_congr_left fun y hy => ?_).trans rows.map_id
  split
  · rename_i h
    exact List.inj_on_of_nodup_map hn hx hy h.symm
  · rfl

/-- A row that is there and that its own revision leaves can be put again. -/
theorem upsert_self (hn : (rows.map key).Nodup) (hx : x ∈ rows) (hr : revise x x = x) :
    upsert key revise x rows = rows := (upsert_same hn hx rfl hr).trans (replace_self hn hx)

/-- Keys stay as they are, if a revision keeps the key, and a new one goes to the end. -/
theorem map_upsert (g : α → β) (hg : ∀ y, key y = key x → g (revise y x) = g y) :
    (upsert key revise x rows).map g =
      if has key (key x) rows then rows.map g else rows.map g ++ [g x] := by
  induction rows with
  | nil => rfl
  | cons y ys ih =>
    unfold upsert
    split
    · rename_i hy
      simp [has, hy, hg y hy]
    · rename_i hy
      have hh : has key (key x) (y :: ys) = has key (key x) ys := by simp [has, hy]
      rw [List.map_cons, ih, hh]
      split <;> rfl

/-- A unique column stays unique, if a revision keeps it and a new row brings a new value. -/
theorem nodup_map_upsert (g : α → β) (hg : ∀ y, key y = key x → g (revise y x) = g y)
    (hn : (rows.map g).Nodup) (hx : has key (key x) rows = false → ∀ y ∈ rows, g y ≠ g x) :
    ((upsert key revise x rows).map g).Nodup := by
  rw [map_upsert g hg]
  split
  · exact hn
  · rename_i h
    refine List.nodup_append.2 ⟨hn, by simp, ?_⟩
    rintro _ ha _ hb rfl
    obtain ⟨y, hy, hk⟩ := List.mem_map.1 ha
    rw [List.mem_singleton] at hb
    exact hx (by simpa using h) y hy (hk.trans hb)

theorem nodup_upsert (hr : ∀ y, key y = key x → key (revise y x) = key x)
    (hn : (rows.map key).Nodup) : ((upsert key revise x rows).map key).Nodup := by
  apply nodup_map_upsert key (fun y hy => (hr y hy).trans hy.symm) hn
  intro h y hy hk
  rw [has_iff.2 ⟨y, hy, hk⟩] at h
  cases h

/-- What holds of a column holds after an upsert, if a revision keeps the column. -/
theorem forall_upsert {p : β → Prop} (g : α → β) (hg : ∀ y, key y = key x → g (revise y x) = g y)
    (h : ∀ y ∈ rows, p (g y)) (hx : has key (key x) rows = false → p (g x)) :
    ∀ y ∈ upsert key revise x rows, p (g y) := by
  intro y hy
  have hm := List.mem_map_of_mem (f := g) hy
  rw [map_upsert g hg] at hm
  split at hm
  · obtain ⟨z, hz, hzy⟩ := List.mem_map.1 hm
    exact hzy ▸ h z hz
  · rename_i hhas
    rcases List.mem_append.1 hm with hm | hm
    · obtain ⟨z, hz, hzy⟩ := List.mem_map.1 hm
      exact hzy ▸ h z hz
    · rw [List.mem_singleton.1 hm]
      exact hx (by simpa using hhas)

/-- Every key that was there is there after an upsert. -/
theorem has_upsert (hr : ∀ y, key y = key x → key (revise y x) = key x) (k : κ) :
    has key k (upsert key revise x rows) = (decide (key x = k) || has key k rows) := by
  induction rows with
  | nil => simp [upsert, has]
  | cons y ys ih =>
    unfold upsert
    split
    · rename_i hy
      simp [has, hy, hr y hy]
    · simp only [has, List.any_cons] at ih ⊢
      rw [ih, Bool.or_left_comm]

theorem lookup_upsert (hr : ∀ y, key y = key x → key (revise y x) = key x) (k : κ) :
    lookup key k (upsert key revise x rows) =
      if key x = k then some ((lookup key (key x) rows).elim x (revise · x)) else lookup key k rows := by
  induction rows with
  | nil => by_cases h : key x = k <;> simp [upsert, lookup, h]
  | cons y ys ih =>
    unfold upsert
    by_cases hy : key y = key x
    · rw [if_pos hy]
      by_cases h : key x = k
      · simp [lookup, hr y hy, hy, h]
      · simp [lookup, hr y hy, hy, h]
    · rw [if_neg hy]
      by_cases hk : key y = k
      · have h : key x ≠ k := fun h => hy (hk.trans h.symm)
        simp [lookup, hk, h]
      · simp only [lookup, List.find?_cons, hk, decide_false, hy] at ih ⊢
        exact ih

/-- Where the new row counts alone, it is what a lookup of its key finds. -/
theorem lookup_replace (k : κ) :
    lookup key k (upsert key (fun _ new => new) x rows) =
      if key x = k then some x else lookup key k rows := by
  rw [lookup_upsert fun _ _ => rfl]
  cases lookup key (key x) rows <;> rfl

/-- A row that comes last is found by its key, if no other has it. -/
theorem lookup_append (h : lookup key (key x) rows = none) (k : κ) :
    lookup key k (rows ++ [x]) = if key x = k then some x else lookup key k rows := by
  have hupsert : upsert key (fun _ new => new) x rows = rows ++ [x] := upsert_new h
  rw [← hupsert, lookup_replace]

/-- A row that is put in the place of another one is found there, and every other row as before. -/
theorem lookup_replaced [DecidableEq α] (hn : (rows.map key).Nodup) {y z : α} (hy : y ∈ rows) (hz : z ∈ rows)
    (hk : key x = key y) :
    lookup key (key z) (upsert key (fun _ new => new) x rows) = if z = y then some x else some z := by
  rw [lookup_replace, (lookup_eq_some hn).2 ⟨hz, rfl⟩, hk]
  by_cases h : z = y
  · simp [h]
  · have hne : key y ≠ key z := fun heq => h (List.inj_on_of_nodup_map hn hz hy heq.symm)
    simp [h, hne]

/-- With unique keys, an upsert touches the row of its key alone. -/
theorem mem_upsert (hr : ∀ y, key y = key x → key (revise y x) = key x) (hn : (rows.map key).Nodup)
    {z : α} :
    z ∈ upsert key revise x rows ↔
      z = (lookup key (key x) rows).elim x (revise · x) ∨ (z ∈ rows ∧ key z ≠ key x) := by
  -- With unique keys, a row is there if a lookup of its key finds it.
  have hfind := fun k r => lookup_eq_some (k := k) (r := r) (nodup_upsert hr hn)
  have hz := (hfind (key z) z).trans (and_iff_left rfl)
  rw [← hz, lookup_upsert hr]
  split
  · rename_i h
    simp [h.symm, eq_comm]
  · rename_i h
    rw [lookup_eq_some hn]
    constructor
    · rintro ⟨hm, -⟩
      exact .inr ⟨hm, Ne.symm h⟩
    · rintro (rfl | ⟨hm, -⟩)
      · exfalso
        apply h
        cases hl : lookup key (key x) rows with
        | none => rfl
        | some y => exact (hr y (lookup_mem hl).2).symm
      · exact ⟨hm, rfl⟩

/-- Rows that were taken from a table and are put back changed, one after the other, are changed in their
places. Those that `done` picks were changed before. -/
theorem foldl_upsert [DecidableEq α] (hn : (rows.map key).Nodup) (f : α → α) (hf : ∀ y, key (f y) = key y)
    (xs : List α) (hxs : ∀ y ∈ xs, y ∈ rows) (done : α → Bool) :
    xs.foldl (fun ys y => upsert key (fun _ new => new) (f y) ys) (rows.map fun y => if done y then f y else y) =
      rows.map fun y => if done y ∨ y ∈ xs then f y else y := by
  induction xs generalizing done with
  | nil => simp
  | cons x xs ih =>
    have hkeys (y : α) : key (if done y then f y else y) = key y := by split <;> simp [hf]
    have hmap : (rows.map fun y => if done y then f y else y).map key = rows.map key := by
      simp [hkeys]
    have hx := hxs x List.mem_cons_self
    -- One more row is changed; what `done` picked keeps its key and is not changed again.
    have hstep : upsert key (fun _ new => new) (f x) (rows.map fun y => if done y then f y else y) =
        rows.map fun y => if (done y || decide (y = x)) then f y else y := by
      rw [upsert_known (hmap ▸ hn) (has_iff.2 ⟨_, List.mem_map_of_mem hx, by simp [hkeys, hf]⟩), List.map_map]
      apply List.map_congr_left
      intro y hy
      simp only [Function.comp, hkeys, hf]
      by_cases hyx : y = x
      · simp [hyx]
      · have hne : key y ≠ key x := fun h => hyx (List.inj_on_of_nodup_map hn hy hx h)
        simp [hne, hyx]
    rw [List.foldl_cons, hstep, ih (fun y hy => hxs y (List.mem_cons_of_mem _ hy))]
    simp [or_assoc]

/-! ## Removals -/

theorem mem_remove {picked : α → Bool} {r : α} : r ∈ remove picked rows ↔ r ∈ rows ∧ picked r = false := by
  simp [remove]

theorem nodup_remove (g : α → β) (picked : α → Bool) (hn : (rows.map g).Nodup) :
    ((remove picked rows).map g).Nodup :=
  hn.sublist (List.filter_sublist.map g)

theorem lookup_remove (hn : (rows.map key).Nodup) (picked : α → Bool) (k : κ) :
    lookup key k (remove picked rows) = (lookup key k rows).filter fun r => !picked r := by
  cases h : lookup key k rows with
  | none =>
    rw [lookup_eq_none] at h
    exact lookup_eq_none.2 fun r hr => h r (mem_remove.1 hr).1
  | some r =>
    obtain ⟨hr, hk⟩ := lookup_mem h
    by_cases hp : picked r = true
    · simp only [Option.filter, hp, Bool.not_true, Bool.false_eq_true, if_false, lookup_eq_none]
      intro z hz hzk
      obtain ⟨hz, hpz⟩ := mem_remove.1 hz
      rw [List.inj_on_of_nodup_map hn hz hr (hzk.trans hk.symm), hp] at hpz
      cases hpz
    · simp only [Option.filter, hp, Bool.not_false, if_true]
      exact (lookup_eq_some (nodup_remove key picked hn)).2 ⟨mem_remove.2 ⟨hr, by simpa using hp⟩, hk⟩

theorem lookup_remove_found (hn : (rows.map key).Nodup) {k : κ} {r : α} (h : lookup key k rows = some r)
    (picked : α → Bool) : lookup key k (remove picked rows) = if picked r then none else some r := by
  rw [lookup_remove hn, h]
  cases hp : picked r <;> simp [Option.filter, hp]

theorem lookup_remove_key (hn : (rows.map key).Nodup) (k j : κ) :
    lookup key k (remove (key · = j) rows) = if k = j then none else lookup key k rows := by
  rw [lookup_remove hn]
  cases h : lookup key k rows with
  | none => simp
  | some r => simp [Option.filter, (lookup_mem h).2]

theorem remove_remove (p q : α → Bool) : remove q (remove p rows) = remove (fun r => p r || q r) rows := by
  simp [remove, List.filter_filter, Bool.and_comm]

theorem remove_congr {p q : α → Bool} (h : ∀ r ∈ rows, p r = q r) : remove p rows = remove q rows :=
  List.filter_congr fun r hr => by rw [h r hr]

/-! ## Rows by a second key -/

section Keys

variable {κ' : Type} [DecidableEq κ'] {key' : α → κ'} {y : α} (hn : (rows.map key).Nodup)
  (hn' : (rows.map key').Nodup) (hy : y ∈ rows)
include hn hn' hy

omit [DecidableEq κ] [DecidableEq κ'] in
theorem key_iff {z : α} (hz : z ∈ rows) : key z = key y ↔ key' z = key' y :=
  ⟨fun h => by rw [List.inj_on_of_nodup_map hn hz hy h], fun h => by rw [List.inj_on_of_nodup_map hn' hz hy h]⟩

/-- A row that takes the place of another is found by the second key of both. -/
theorem lookup_replaced_key (hk : key x = key y) (hk' : key' x = key' y) (k : κ') :
    lookup key' k (rows.map fun z => if key z = key x then x else z) =
      if key' x = k then some x else lookup key' k rows := by
  have hmap : (rows.map fun z => if key z = key x then x else z) =
      rows.map fun z => if key' z = key' x then x else z :=
    List.map_congr_left fun z hz => by simp only [hk, hk', key_iff hn hn' hy hz]
  have hupsert : upsert key' (fun _ new => new) x rows = rows.map fun z => if key' z = key' x then x else z :=
    upsert_known hn' (has_iff.2 ⟨y, hy, hk'.symm⟩)
  rw [hmap, ← hupsert, lookup_replace]

theorem lookup_removed_key (k : κ') :
    lookup key' k (remove (key · = key y) rows) = if key' y = k then none else lookup key' k rows := by
  rw [remove_congr fun z hz => decide_eq_decide.2 (key_iff hn hn' hy hz), lookup_remove_key hn' k (key' y)]
  simp only [eq_comm]

end Keys

/-! ## Adjoining -/

theorem mem_adjoin [DecidableEq α] {y : α} : y ∈ adjoin x rows ↔ y ∈ rows ∨ y = x := by
  unfold adjoin
  split
  · rename_i hx
    exact ⟨.inl, fun h => h.elim id fun h => h ▸ hx⟩
  · simp

theorem adjoin_adjoin [DecidableEq α] (x : α) (rows : List α) : adjoin x (adjoin x rows) = adjoin x rows :=
  if_pos (mem_adjoin.2 (.inr rfl))

theorem foldl_adjoin [DecidableEq α] {xs : List α} (h : (rows ++ xs).Nodup) :
    xs.foldl (fun rows x => adjoin x rows) rows = rows ++ xs := by
  induction xs generalizing rows with
  | nil => simp
  | cons x xs ih =>
    have hx : x ∉ rows := fun hx =>
      (List.nodup_append.1 h).2.2 x hx x List.mem_cons_self rfl
    rw [List.foldl_cons, adjoin, if_neg hx, ih (by simpa using h)]
    simp

/-! ## Rows exchanged for others -/

theorem exchange {y z : α} {xs ys zs ws : List α} (h : (xs ++ ys).Perm (zs ++ ws)) :
    (z :: xs ++ y :: ys).Perm (y :: zs ++ z :: ws) :=
  calc (z :: xs ++ y :: ys).Perm (z :: y :: (xs ++ ys)) := List.perm_middle.cons z
    List.Perm _ (y :: z :: (xs ++ ys)) := .swap y z _
    List.Perm _ (y :: z :: (zs ++ ws)) := (h.cons z).cons y
    List.Perm _ (y :: zs ++ z :: ws) := List.perm_middle.symm.cons y

/-- An upsert exchanges the row of its key. -/
theorem upsert_perm (key : α → κ) (revise : α → α → α) (x : α) (rows : List α) :
    (upsert key revise x rows ++ (lookup key (key x) rows).toList).Perm
      (rows ++ [(lookup key (key x) rows).elim x (revise · x)]) := by
  induction rows with
  | nil => simp [upsert, lookup]
  | cons y ys ih =>
    unfold upsert
    by_cases hy : key y = key x
    · simpa [lookup, hy] using exchange (y := y) (z := revise y x) (.refl (ys ++ []))
    · simpa [lookup, hy] using ih

theorem remove_perm (picked : α → Bool) (rows : List α) :
    (remove picked rows ++ rows.filter picked).Perm rows :=
  List.perm_append_comm.trans (List.filter_append_perm picked rows)

/-- Rows that are picked are exchanged for what becomes of them. -/
theorem map_perm (picked : α → Bool) (f : α → α) (rows : List α) :
    ((rows.map fun r => if picked r then f r else r) ++ rows.filter picked).Perm
      (rows ++ (rows.filter picked).map f) := by
  induction rows with
  | nil => rfl
  | cons y ys ih =>
    cases hy : picked y with
    | true => simpa [hy] using exchange (y := y) (z := f y) ih
    | false => simpa [hy] using ih

theorem filter_key_of_mem {y : α} (hn : (rows.map key).Nodup) (hy : y ∈ rows) :
    rows.filter (fun r => key r = key y) = [y] := by
  rw [filter_key hn, (lookup_eq_some hn).2 ⟨hy, rfl⟩]
  rfl

/-- A row that takes the place of another is exchanged for it. -/
theorem replace_perm {y : α} (hn : (rows.map key).Nodup) (hy : y ∈ rows) (hk : key x = key y) :
    ((rows.map fun r => if key r = key x then x else r) ++ [y]).Perm (rows ++ [x]) := by
  have hperm := map_perm (fun r => key r = key y) (fun _ => x) rows
  simpa only [filter_key_of_mem hn hy, List.map_cons, List.map_nil, decide_eq_true_eq, hk] using hperm

theorem remove_key_perm {y : α} (hn : (rows.map key).Nodup) (hy : y ∈ rows) :
    (remove (key · = key y) rows ++ [y]).Perm rows :=
  filter_key_of_mem hn hy ▸ remove_perm (fun r => key r = key y) rows

/-! ## Order -/

theorem place_eq (le : α → α → Bool) (x : α) (xs : List α) :
    place le x xs = xs.orderedInsert (fun a b => le a b = true) x := by
  induction xs with
  | nil => rfl
  | cons y ys ih => rw [place, List.orderedInsert_cons, ih]

theorem sort_eq (le : α → α → Bool) (xs : List α) :
    sort le xs = xs.insertionSort fun a b => le a b = true := by
  induction xs with
  | nil => rfl
  | cons x xs ih => rw [List.insertionSort_cons, ← ih, ← place_eq, sort, List.foldr_cons, sort]

theorem sort_perm (le : α → α → Bool) (xs : List α) : (sort le xs).Perm xs :=
  sort_eq le xs ▸ List.perm_insertionSort _ xs

@[simp] theorem mem_sort {le : α → α → Bool} {y : α} : y ∈ sort le rows ↔ y ∈ rows :=
  (sort_perm le rows).mem_iff

theorem pairwise_sort {le : α → α → Bool} (htrans : ∀ a b c, le a b → le b c → le a c)
    (htotal : ∀ a b, le a b ∨ le b a) (xs : List α) : (sort le xs).Pairwise fun a b => le a b = true := by
  have : Std.Total fun a b => le a b = true := ⟨htotal⟩
  have : IsTrans α fun a b => le a b = true := ⟨htrans⟩
  exact sort_eq le xs ▸ List.pairwise_insertionSort _ xs

theorem before_trans (first second : α → String) (a b c : α) (hab : before first second a b = true)
    (hbc : before first second b c = true) : before first second a c = true := by
  simp only [before, decide_eq_true_eq, Bool.decide_or, Bool.or_eq_true] at *
  rcases hab with hab | ⟨hab, hab'⟩ <;> rcases hbc with hbc | ⟨hbc, hbc'⟩
  · exact .inl (hab.trans hbc)
  · exact .inl (hbc ▸ hab)
  · exact .inl (hab ▸ hbc)
  · exact .inr ⟨hab.trans hbc, hab'.trans hbc'⟩

theorem before_total (first second : α → String) (a b : α) :
    before first second a b = true ∨ before first second b a = true := by
  simp only [before, Bool.decide_or, Bool.or_eq_true, decide_eq_true_eq]
  rcases lt_trichotomy (first a) (first b) with h | h | h
  · exact .inl (.inl h)
  · rcases le_total (second a) (second b) with h' | h'
    · exact .inl (.inr ⟨h, h'⟩)
    · exact .inr (.inr ⟨h.symm, h'⟩)
  · exact .inr (.inl h)

theorem dated_trans (date : α → Option String) (id : α → String) (a b c : α) (hab : dated date id a b = true)
    (hbc : dated date id b c = true) : dated date id a c = true := by
  unfold dated at *
  cases ha : date a <;> cases hb : date b <;> cases hc : date c <;>
    simp only [ha, hb, hc, decide_eq_true_eq, reduceCtorEq] at hab hbc ⊢
  · exact hab.trans hbc
  · rcases hab with hab | ⟨rfl, hab⟩ <;> rcases hbc with hbc | ⟨rfl, hbc⟩
    · exact .inl (hab.trans hbc)
    · exact .inl hab
    · exact .inl hbc
    · exact .inr ⟨rfl, hab.trans hbc⟩

theorem dated_total (date : α → Option String) (id : α → String) (a b : α) :
    dated date id a b = true ∨ dated date id b a = true := by
  unfold dated
  cases ha : date a <;> cases hb : date b <;> simp only [decide_eq_true_eq, reduceCtorEq, or_true, true_or]
  · exact le_total _ _
  · rename_i x y
    rcases lt_trichotomy x y with hlt | rfl | hgt
    · exact .inl (.inl hlt)
    · exact (le_total (id a) (id b)).imp (fun h => .inr ⟨rfl, h⟩) fun h => .inr ⟨rfl, h⟩
    · exact .inr (.inl hgt)

theorem pairwise_sort_dated (date : α → Option String) (id : α → String) (rows : List α) :
    (sort (dated date id) rows).Pairwise fun a b => dated date id a b = true :=
  pairwise_sort (dated_trans date id) (dated_total date id) rows

/-- Rows whose first keys differ are put in strict order of them. -/
theorem sort_before (first second : α → String) (hn : (rows.map first).Nodup) :
    (sort (before first second) rows).Pairwise fun a b => first a < first b := by
  have hsorted := pairwise_sort (before_trans first second) (before_total first second) rows
  have hne : (sort (before first second) rows).Pairwise fun a b => first a ≠ first b :=
    List.pairwise_map.1 (((sort_perm _ rows).map first).nodup_iff.2 hn)
  refine (hsorted.and hne).imp fun {a b} h => ?_
  simp only [before, Bool.decide_or, Bool.or_eq_true, decide_eq_true_eq] at h
  rcases h with ⟨h | ⟨h, -⟩, hne⟩
  · exact h
  · exact absurd h hne

end FlowView.Table

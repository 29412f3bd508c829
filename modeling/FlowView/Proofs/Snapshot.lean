import FlowView.Proofs.Effects
/-!
# Snapshots

A task shows process variables by links. An open task shows all variables of its instance and no others;
a task that has ended shows what it showed then, less what was deleted since. `Store.Inv` says this of
sound tables, and every effect keeps it (`Effect.inv`).
-/

namespace FlowView

open Projection

/-- Sound tables whose links stay within an instance, with none missing for an open task. -/
structure Store.Inv (s : Store) : Prop extends s.Sound where
  linkInstances : ∀ t ∈ s.tasks, ∀ v ∈ s.processVariables, ⟨t.id, v.id⟩ ∈ s.links →
    t.instanceId = some v.instanceId
  openTasks : ∀ t ∈ s.tasks, t.status.isFinal = false → ∀ v ∈ s.processVariables,
    t.instanceId = some v.instanceId → ⟨t.id, v.id⟩ ∈ s.links

variable {u : Supply} {e : Event} {s s' : Store} {k : EventKind}

namespace Store

theorem inv_empty : Inv {} := { sound_empty with linkInstances := by simp, openTasks := by simp }

/-- The tables stay in order when no task changes its instance or is opened again, no variable changes
its instance, and what is linked is what was linked. -/
theorem Inv.of_rows (hs : s.Inv) (hs' : s'.Sound)
    (htasks : ∀ t' ∈ s'.tasks, ∃ t ∈ s.tasks, t.id = t'.id ∧ t.instanceId = t'.instanceId ∧
      (t'.status.isFinal = false → t.status.isFinal = false))
    (hvariables : ∀ v' ∈ s'.processVariables, ∃ v ∈ s.processVariables, v.id = v'.id ∧
      v.instanceId = v'.instanceId)
    (hlinks : ∀ t ∈ s'.tasks, ∀ v ∈ s'.processVariables,
      (⟨t.id, v.id⟩ : VariableLink) ∈ s'.links ↔ ⟨t.id, v.id⟩ ∈ s.links) : s'.Inv := by
  refine { hs' with linkInstances := fun t' ht' v' hv' hl => ?_, openTasks := fun t' ht' ho v' hv' hi => ?_ }
  · rw [hlinks t' ht' v' hv'] at hl
    obtain ⟨t, ht, hid, hti, -⟩ := htasks t' ht'
    obtain ⟨v, hv, hvid, hvi⟩ := hvariables v' hv'
    rw [← hid, ← hvid] at hl
    rw [← hti, ← hvi]
    exact hs.linkInstances t ht v hv hl
  · rw [hlinks t' ht' v' hv']
    obtain ⟨t, ht, hid, hti, hopen⟩ := htasks t' ht'
    obtain ⟨v, hv, hvid, hvi⟩ := hvariables v' hv'
    rw [← hti, ← hvi] at hi
    rw [← hid, ← hvid]
    exact hs.openTasks t ht (hopen ho) v hv hi

theorem Inv.of_same (hs : s.Inv) (hs' : s'.Sound) (ht : s'.tasks = s.tasks)
    (hv : s'.processVariables = s.processVariables) (hl : s'.links = s.links) : s'.Inv := by
  refine hs.of_rows hs' (fun t h => ⟨t, ht ▸ h, rfl, rfl, id⟩) (fun v h => ⟨v, hv ▸ h, rfl, rfl⟩) ?_
  rw [hl]
  exact fun _ _ _ _ => Iff.rfl

/-- A task is saved over another one. -/
theorem Inv.saveTask (hs : s.Inv) {t t' : UserTask} (ht : t ∈ s.tasks) (hid : t'.id = t.id)
    (hi : t'.instanceId = t.instanceId) (hopen : t'.status.isFinal = false → t.status.isFinal = false) :
    (s.saveTask t').Inv := by
  refine hs.of_rows (hs.toSound.saveTask t') (fun w hw => ?_) (fun v hv => ⟨v, hv, rfl, rfl⟩)
    fun _ _ _ _ => Iff.rfl
  rcases (Table.mem_upsert (fun _ _ => rfl) hs.taskIds).1 hw with rfl | ⟨hw, -⟩
  · cases Table.lookup UserTask.id t'.id s.tasks <;> exact ⟨t, ht, hid.symm, hi.symm, hopen⟩
  · exact ⟨w, hw, rfl, rfl, id⟩

theorem Inv.cancelTasksOf (hs : s.Inv) {instanceId : String} {time : Instant}
    (hs' : (s.cancelTasksOf instanceId time).Sound) : (s.cancelTasksOf instanceId time).Inv := by
  refine hs.of_rows hs' (fun w hw => ?_) (fun v hv => ⟨v, hv, rfl, rfl⟩) fun _ _ _ _ => Iff.rfl
  obtain ⟨t, ht, rfl⟩ := List.mem_map.1 hw
  refine ⟨t, ht, ?_⟩
  split
  · exact ⟨rfl, rfl, fun h => by cases h⟩
  · exact ⟨rfl, rfl, id⟩

/-- A new task shows the variables of its instance. -/
theorem Inv.withTask (hs : s.Inv) {t : UserTask} (ht : s.task? t.id = none) (hs' : (s.withTask t).Sound) :
    (s.withTask t).Inv := by
  have hne : ∀ t' ∈ s.tasks, t'.id ≠ t.id := Table.lookup_eq_none.1 ht
  have hold : ∀ l ∈ s.links, l.taskId ≠ t.id := by
    intro l hl hid
    obtain ⟨t', ht', hid'⟩ := Table.has_iff.1 (hs.linkTasks l hl)
    exact hne t' ht' (hid'.trans hid)
  have htasks : (s.withTask t).tasks = s.tasks ++ [t] := Table.upsert_new ht
  have haround {v : ProcessVariable} :
      v ∈ s.variablesAround t ↔ v ∈ s.processVariables ∧ t.instanceId = some v.instanceId := by
    unfold variablesAround
    cases t.instanceId with
    | none => simp
    | some i => simp [mem_listVariables, eq_comm]
  refine { hs' with linkInstances := fun t' ht' v hv hl => ?_, openTasks := fun t' ht' ho v hv hi => ?_ }
  -- Old links lead to old tasks, new ones to the new task: the two never mix.
  all_goals rw [htasks, List.mem_append, List.mem_singleton] at ht'
  · rcases List.mem_append.1 hl with hl | hl
    · rcases ht' with ht' | rfl
      · exact hs.linkInstances t' ht' v hv hl
      · exact absurd rfl (hold _ hl)
    · obtain ⟨w, hw, heq⟩ := List.mem_map.1 hl
      obtain ⟨hid, hvid⟩ := VariableLink.mk.inj heq
      rcases ht' with ht' | rfl
      · exact absurd hid.symm (hne t' ht')
      · rw [← List.inj_on_of_nodup_map hs.variableIds (haround.1 hw).1 hv hvid]
        exact (haround.1 hw).2
  · rcases ht' with ht' | rfl
    · exact List.mem_append_left _ (hs.openTasks t' ht' ho v hv hi)
    · exact List.mem_append_right _ (List.mem_map.2 ⟨v, haround.2 ⟨hv, hi⟩, rfl⟩)

/-- A new variable is shown to the open tasks of its instance. -/
theorem Inv.withShownVariable (hs : s.Inv) {v : ProcessVariable}
    (hid : Table.has ProcessVariable.id v.id s.processVariables = false)
    (hs' : (s.withShownVariable v).Sound) : (s.withShownVariable v).Inv := by
  have hne : ∀ w ∈ s.processVariables, w.id ≠ v.id := by
    intro w hw h
    rw [Table.has_iff.2 ⟨w, hw, h⟩] at hid
    cases hid
  have hopen {t : UserTask} :
      t ∈ s.openTasksOf v.instanceId ↔
        t ∈ s.tasks ∧ t.instanceId = some v.instanceId ∧ t.status.isFinal = false := by
    simp [openTasksOf, mem_tasksOf, and_assoc]
  refine { hs' with linkInstances := fun t ht w hw hl => ?_, openTasks := fun t ht ho w hw hi => ?_ }
  -- The variable is an old one or the new one, and so is the link.
  all_goals rcases List.mem_append.1 hw with hw | hw
  · rcases List.mem_append.1 hl with hl | hl
    · exact hs.linkInstances t ht w hw hl
    · obtain ⟨t', -, heq⟩ := List.mem_map.1 hl
      exact absurd (VariableLink.mk.inj heq).2.symm (hne w hw)
  · rw [List.mem_singleton.1 hw] at hl ⊢
    rcases List.mem_append.1 hl with hl | hl
    · have hhas := hs.linkVariables _ hl
      rw [hid] at hhas
      cases hhas
    · obtain ⟨t', ht', heq⟩ := List.mem_map.1 hl
      rw [← List.inj_on_of_nodup_map hs.taskIds (hopen.1 ht').1 ht (VariableLink.mk.inj heq).1]
      exact (hopen.1 ht').2.1
  · exact List.mem_append_left _ (hs.openTasks t ht ho w hw hi)
  · rw [List.mem_singleton.1 hw] at hi ⊢
    exact List.mem_append_right _ (List.mem_map.2 ⟨t, hopen.2 ⟨ht, hi, ho⟩, rfl⟩)

theorem Inv.replaceVariable (hs : s.Inv) {v v' : ProcessVariable} (hv : v ∈ s.processVariables)
    (hid : v'.id = v.id) (hi : v'.instanceId = v.instanceId) (hs' : (s.replaceVariable v').Sound) :
    (s.replaceVariable v').Inv := by
  refine hs.of_rows hs' (fun t ht => ⟨t, ht, rfl, rfl, id⟩) (fun w hw => ?_) fun _ _ _ _ => Iff.rfl
  obtain ⟨y, hy, rfl⟩ := List.mem_map.1 hw
  split
  · exact ⟨v, hv, hid.symm, hi.symm⟩
  · exact ⟨y, hy, rfl, rfl⟩

theorem Inv.withoutVariable (hs : s.Inv) {id : String} (hs' : (s.withoutVariable id).Sound) :
    (s.withoutVariable id).Inv := by
  refine hs.of_rows hs' (fun t ht => ⟨t, ht, rfl, rfl, fun h => h⟩)
    (fun v hv => ⟨v, (Table.mem_remove.1 hv).1, rfl, rfl⟩) fun t _ v hv => ?_
  have hne : v.id ≠ id := by simpa using (Table.mem_remove.1 hv).2
  simp [Store.withoutVariable, Table.mem_remove, hne]

theorem Inv.withoutInstance (hs : s.Inv) {id : String} (hs' : (s.withoutInstance id).Sound) :
    (s.withoutInstance id).Inv := by
  refine hs.of_rows hs' (fun t ht => ⟨t, (Table.mem_remove.1 ht).1, rfl, rfl, fun h => h⟩)
    (fun v hv => ⟨v, (Table.mem_remove.1 hv).1, rfl, rfl⟩) fun t ht v hv => ?_
  obtain ⟨ht, hti⟩ := Table.mem_remove.1 ht
  obtain ⟨hv, hvi⟩ := Table.mem_remove.1 hv
  have hfree := hs.toSound.ownsTask_of_mem ht id
  have hfree' := hs.toSound.ownsVariable_of_mem hv id
  simp_all [Store.withoutInstance, Table.mem_remove]

end Store

/-! ## Effects -/

theorem TaskChange.keeps {passes : TaskStatus → Bool} {change : TaskPayload → Instant → UserTask → UserTask}
    (hk : TaskChange k passes change) (p : TaskPayload) (time : Instant) (t : UserTask) :
    (change p time t).id = t.id ∧ (change p time t).instanceId = t.instanceId := by
  cases hk <;> exact ⟨rfl, rfl⟩

/-- No change opens a task that has ended. -/
theorem TaskChange.opens {passes : TaskStatus → Bool} {change : TaskPayload → Instant → UserTask → UserTask}
    (hk : TaskChange k passes change) {p : TaskPayload} {time : Instant} {t : UserTask}
    (hpass : passes t.status = false) (h : (change p time t).status.isFinal = false) :
    t.status.isFinal = false := by
  cases hk with
  | updated => exact h
  | completed => cases h
  | _ => exact hpass

/-- Every effect keeps the snapshots in order. -/
theorem Effect.inv (hs : s.Inv) (hs' : s'.Sound) (h : Effect u e s k s') : s'.Inv := by
  -- The effects that are not named write neither tasks nor variables nor links.
  cases h with
  | @definitionDeployed p hp =>
    obtain ⟨ds, ms, heq⟩ := s.withDefinition_eq e p
    rw [heq] at hs' ⊢
    exact hs.of_same hs' rfl rfl rfl
  | instanceCompleted hp hr hopen =>
    exact (hs.of_same (hs.toSound.saveInstance _) rfl rfl rfl).cancelTasksOf hs'
  | instanceDeleted hp hr hfinal => exact hs.withoutInstance hs'
  | taskMade hp ht => exact hs.withTask ht hs'
  | taskChanged hk hp ht hpass =>
    exact hs.saveTask (Table.lookup_mem ht).1 (hk.keeps _ _ _).1 (hk.keeps _ _ _).2 (hk.opens hpass)
  | variableMade hp hr hv =>
    have hdrawn : (u.drawn s).Inv := { hs with }
    exact hdrawn.withShownVariable (u.draw_variable s) hs'
  | variableRevalued hp hr hopen hv =>
    exact hs.replaceVariable (Store.findVariable_mem hv).1 rfl rfl hs'
  | variableDropped hp hr hopen hv => exact hs.withoutVariable hs'
  | _ => exact hs.of_same hs' rfl rfl rfl

end FlowView

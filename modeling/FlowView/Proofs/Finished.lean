import FlowView.Proofs.Cascade
import FlowView.Proofs.Fates
import FlowView.Proofs.Histories
/-!
# What has ended

A task or an instance that has ended never opens again, and what it holds is kept, until the deletion of
the instance takes the row away (`finished_kept`). The row itself need not stay the same: four kinds of
events still write to what has ended. Every batch without them leaves it as it is (`finished_frozen`).
-/

namespace FlowView

open Projection

variable {u : Supply} {g : Registry} {e : Event} {s s' : Store} {k : EventKind}

/-! ## What events do to rows that have ended -/

/-- The event is the deletion of the instance. -/
def Event.Deletes (e : Event) (instanceId : String) : Prop :=
  e.kind? = some .processDeleted ∧ ∃ p : InstancePayload, e.payload = .ok p ∧ p.id = instanceId

/-- The event is about the task and of a kind that does not ask whether the task has ended. -/
def Event.RewritesTask (e : Event) (taskId : String) : Prop :=
  (e.kind? = some .taskUpdated ∨ e.kind? = some .taskCompleted) ∧
    ∃ p : TaskPayload, e.payload = .ok p ∧ p.id = taskId

/-- The event is about the instance, and updates it or cancels it after its completion. -/
def Event.RewritesInstance (e : Event) (r : ProcessInstance) : Prop :=
  (e.kind? = some .processUpdated ∨ (e.kind? = some .processCancelled ∧ r.status = .completed)) ∧
    ∃ p : InstancePayload, e.payload = .ok p ∧ p.id = r.id

section TaskFates

variable {t t' : UserTask} {fate : Option UserTask}

theorem TaskFate.keeps (h : TaskFate e k t (some t')) :
    t'.id = t.id ∧ t'.instanceId = t.instanceId := by
  cases h with
  | kept => exact ⟨rfl, rfl⟩
  | changed hk => exact hk.keeps _ _ _
  | cancelled => exact ⟨rfl, rfl⟩

/-- A task that has ended does not open. -/
theorem TaskFate.final (h : TaskFate e k t (some t')) (hf : t.status.isFinal = true) :
    t'.status.isFinal = true := by
  cases h with
  | kept => exact hf
  | changed hk _ _ hpass =>
    rw [← Bool.not_eq_false]
    exact fun hopen => Bool.noConfusion (hf.symm.trans (hk.opens hpass hopen))
  | cancelled => rfl

/-- Only the deletion of its instance takes a task away. -/
theorem TaskFate.there (h : TaskFate e k t fate) (hk : e.kind? = some k)
    (hspared : ∀ i, t.instanceId = some i → ¬e.Deletes i) : ∃ t', fate = some t' := by
  cases h with
  | kept => exact ⟨_, rfl⟩
  | changed => exact ⟨_, rfl⟩
  | cancelled => exact ⟨_, rfl⟩
  | deleted hdel hp hi =>
    subst hdel
    exact absurd ⟨hk, _, hp, rfl⟩ (hspared _ hi)

/-- Of the events about a task that has ended only two kinds write to it. -/
theorem TaskFate.frozen (h : TaskFate e k t (some t')) (hk : e.kind? = some k)
    (hf : t.status.isFinal = true) (hrewrite : ¬e.RewritesTask t.id) : t' = t := by
  cases h with
  | kept => rfl
  | changed hchange hp hid hpass =>
    cases hchange with
    | updated => exact absurd ⟨.inl hk, _, hp, hid⟩ hrewrite
    | completed => exact absurd ⟨.inr hk, _, hp, hid⟩ hrewrite
    | _ => exact Bool.noConfusion (hf.symm.trans hpass)
  | cancelled _ _ _ hopen => exact Bool.noConfusion (hf.symm.trans hopen)

end TaskFates

section InstanceFates

variable {r r' : ProcessInstance} {fate : Option ProcessInstance}

theorem InstanceFate.final (h : InstanceFate e k r (some r')) (hf : r.status.isFinal = true) :
    r'.status.isFinal = true := by
  cases h with
  | kept => exact hf
  | changed hk _ _ hpass =>
    cases hk with
    | updated => exact hf
    | cancelled => rfl
    | _ => exact Bool.noConfusion (hf.symm.trans hpass)
  | completed => rfl

theorem InstanceFate.there (h : InstanceFate e k r fate) (hk : e.kind? = some k)
    (hspared : ¬e.Deletes r.id) : ∃ r', fate = some r' := by
  cases h with
  | kept => exact ⟨_, rfl⟩
  | changed => exact ⟨_, rfl⟩
  | completed => exact ⟨_, rfl⟩
  | deleted hdel hp hid =>
    subst hdel
    exact absurd ⟨hk, _, hp, hid⟩ hspared

theorem InstanceFate.frozen (h : InstanceFate e k r (some r')) (hk : e.kind? = some k)
    (hf : r.status.isFinal = true) (hrewrite : ¬e.RewritesInstance r) : r' = r := by
  cases h with
  | kept => rfl
  | changed hchange hp hid hpass =>
    cases hchange with
    | updated => exact absurd ⟨.inl hk, _, hp, hid⟩ hrewrite
    | cancelled =>
      -- It has ended and was not cancelled, so it was completed.
      have hcompleted : r.status = .completed := by
        cases hr : r.status <;> simp_all [InstanceStatus.isFinal]
      exact absurd ⟨.inr ⟨hk, hcompleted⟩, _, hp, hid⟩ hrewrite
    | _ => exact Bool.noConfusion (hf.symm.trans hpass)
  | completed _ _ _ hopen => exact Bool.noConfusion (hf.symm.trans hopen)

end InstanceFates

/-! ## Late events, one by one -/

theorem Projection.run_changeTask (hs : s.Sound) {passes : TaskStatus → Bool}
    {change : TaskPayload → Instant → UserTask → UserTask} {p : TaskPayload} {t : UserTask}
    (hp : e.payload = .ok p) (ht : s.task? p.id = some t) :
    (changeTask passes change e).run u.backend s =
      (.ok (), if passes t.status then s else s.saveTask (change p e.time t)) := by
  have hpayload : (payload e : Program TaskPayload).run u.backend s = (.ok p, s) := by
    rw [run_payload, hp]
    rfl
  have htask : (requireTask p.id).run u.backend s = (.ok t, s) := by
    rw [run_requireTask u hs, ht]
  rw [changeTask, Program.run_bind_ok hpayload, Program.run_bind_ok htask]
  cases passes t.status <;> rfl

theorem Projection.run_changeInstance (hs : s.Sound) {passes : InstanceStatus → Bool}
    {change : InstancePayload → Instant → ProcessInstance → ProcessInstance} {p : InstancePayload}
    {r : ProcessInstance} (hp : e.payload = .ok p) (hr : s.instance? p.id = some r) :
    (changeInstance passes change e).run u.backend s =
      (.ok (), if passes r.status then s else s.saveInstance (change p e.time r)) := by
  have hpayload : (payload e : Program InstancePayload).run u.backend s = (.ok p, s) := by
    rw [run_payload, hp]
    rfl
  have hinstance : (requireInstance p.id).run u.backend s = (.ok r, s) := by
    rw [run_requireInstance u hs, hr]
  rw [changeInstance, Program.run_bind_ok hpayload, Program.run_bind_ok hinstance]
  cases passes r.status <;> rfl

/-- Consuming one event that changes a task which is there. -/
theorem Registry.consume_taskChange (hs : s.Sound) {passes : TaskStatus → Bool}
    {change : TaskPayload → Instant → UserTask → UserTask} (hk : TaskChange k passes change)
    (hkind : e.kind? = some k) (hg : k ∈ g.kinds) {p : TaskPayload} (hp : e.payload = .ok p) {t : UserTask}
    (ht : s.task? p.id = some t) :
    g.consume u.backend [e] s =
      (.ok ⟨1, 0⟩, if passes t.status then s else s.saveTask (change p e.time t)) := by
  have hprogram : g.program? e = some (changeTask passes change e) := by
    rw [program?_of_kind hkind hg]
    cases hk <;> rfl
  rw [consume_one hs hprogram, run_changeTask hs hp ht]

theorem Registry.consume_instanceChange (hs : s.Sound) {passes : InstanceStatus → Bool}
    {change : InstancePayload → Instant → ProcessInstance → ProcessInstance}
    (hk : InstanceChange k passes change) (hkind : e.kind? = some k) (hg : k ∈ g.kinds)
    {p : InstancePayload} (hp : e.payload = .ok p) {r : ProcessInstance} (hr : s.instance? p.id = some r) :
    g.consume u.backend [e] s =
      (.ok ⟨1, 0⟩, if passes r.status then s else s.saveInstance (change p e.time r)) := by
  have hprogram : g.program? e = some (changeInstance passes change e) := by
    rw [program?_of_kind hkind hg]
    cases hk <;> rfl
  rw [consume_one hs hprogram, run_changeInstance hs hp hr]

/-! ## Batches that leave what has ended -/

/-- A successful course leaves a task that has ended the same, if no event is of a kind that writes to it
and none deletes its instance. -/
theorem Course.task_frozen {past : List Moment} (h : Course s past s') (hs : s.Inv) {t : UserTask}
    (ht : t ∈ s.tasks) (hf : t.status.isFinal = true)
    (hpast : ∀ m ∈ past, ¬m.event.RewritesTask t.id ∧ ∀ i, t.instanceId = some i → ¬m.event.Deletes i) :
    t ∈ s'.tasks := by
  have hfound : s.task? t.id = some t := (Table.lookup_eq_some hs.taskIds).2 ⟨ht, rfl⟩
  have hkept : s'.task? t.id = some t := by
    refine h.keeps (fun m => m.task? t.id = some t)
      (fun e => ¬e.RewritesTask t.id ∧ ∀ i, t.instanceId = some i → ¬e.Deletes i) hs hpast hfound ?_
    intro u e k m m' hm _ ⟨hrewrite, hspared⟩ hk heffect hkept
    have hfate := heffect.task_fate hm.toSound (Table.lookup_mem hkept).1
    obtain ⟨t', ht'⟩ := hfate.there hk hspared
    rw [ht'] at hfate ⊢
    rw [hfate.frozen hk hf hrewrite]
  exact (Table.lookup_mem hkept).1

theorem Course.instance_frozen {past : List Moment} (h : Course s past s') (hs : s.Inv) {r : ProcessInstance}
    (hr : r ∈ s.instances) (hf : r.status.isFinal = true)
    (hpast : ∀ m ∈ past, ¬m.event.RewritesInstance r ∧ ¬m.event.Deletes r.id) : r ∈ s'.instances := by
  have hfound : s.instance? r.id = some r := (Table.lookup_eq_some hs.instanceIds).2 ⟨hr, rfl⟩
  have hkept : s'.instance? r.id = some r := by
    refine h.keeps (fun m => m.instance? r.id = some r)
      (fun e => ¬e.RewritesInstance r ∧ ¬e.Deletes r.id) hs hpast hfound ?_
    intro u e k m m' hm _ ⟨hrewrite, hspared⟩ hk heffect hkept
    have hfate := heffect.instance_fate hm.toSound (Table.lookup_mem hkept).1
    obtain ⟨r', hr'⟩ := hfate.there hk hspared
    rw [hr'] at hfate ⊢
    rw [hfate.frozen hk hf hrewrite]
  exact (Table.lookup_mem hkept).1

/-- Over a successful batch a task that has ended and an instance that has ended stay the same in all
columns, unless an event that is handled deletes the instance or is of the four kinds that write to what
has ended. An event of these kinds writes to it as to any other. -/
theorem finished_frozen (hs : s.Reachable) (u : Supply) (g : Registry) :
    (∀ events n s', g.consume u.backend events s = (.ok n, s') →
      (∀ t ∈ s.tasks, t.status.isFinal = true →
        (∀ e ∈ events, g.handles e = true →
          ¬e.RewritesTask t.id ∧ ∀ i, t.instanceId = some i → ¬e.Deletes i) → t ∈ s'.tasks) ∧
      (∀ r ∈ s.instances, r.status.isFinal = true →
        (∀ e ∈ events, g.handles e = true → ¬e.RewritesInstance r ∧ ¬e.Deletes r.id) → r ∈ s'.instances)) ∧
    (∀ (e : Event) (p : TaskPayload) (t : UserTask), g.handles e = true → e.payload = .ok p →
      s.task? p.id = some t → t.status.isFinal = true →
      (e.kind? = some .taskUpdated →
        g.consume u.backend [e] s = (.ok ⟨1, 0⟩, s.saveTask (updateTask p e.time t))) ∧
      (e.kind? = some .taskCompleted →
        g.consume u.backend [e] s = (.ok ⟨1, 0⟩, s.saveTask (completeTask p e.time t)))) ∧
    ∀ (e : Event) (p : InstancePayload) (r : ProcessInstance), g.handles e = true → e.payload = .ok p →
      s.instance? p.id = some r → r.status.isFinal = true →
      (e.kind? = some .processUpdated →
        g.consume u.backend [e] s = (.ok ⟨1, 0⟩, s.saveInstance (update p e.time r))) ∧
      (e.kind? = some .processCancelled → r.status = .completed →
        g.consume u.backend [e] s = (.ok ⟨1, 0⟩, s.saveInstance (cancel p e.time r))) := by
  have hsound := hs.inv.toSound
  refine ⟨fun events n s' h => ?_, fun e p t hg hp ht hf => ⟨fun hk => ?_, fun hk => ?_⟩,
    fun e p r hg hp hr hf => ⟨fun hk => ?_, fun hk hcompleted => ?_⟩⟩
  · have hcourse := course_of_consume g u events hs.inv
    rw [h] at hcourse
    refine ⟨fun t ht hf hevents => hcourse.task_frozen hs.inv ht hf fun m hm => ?_,
      fun r hr hf hevents => hcourse.instance_frozen hs.inv hr hf fun m hm => ?_⟩
    all_goals
      obtain ⟨hmem, hhandled⟩ := Registry.mem_recorded hm
      exact hevents m.event hmem hhandled
  · exact Registry.consume_taskChange hsound .updated hk (Registry.mem_of_handles hg hk) hp ht
  · exact Registry.consume_taskChange hsound .completed hk (Registry.mem_of_handles hg hk) hp ht
  · exact Registry.consume_instanceChange hsound .updated hk (Registry.mem_of_handles hg hk) hp hr
  · rw [Registry.consume_instanceChange hsound .cancelled hk (Registry.mem_of_handles hg hk) hp hr, hcompleted]
    rfl

/-- A task that was completed keeps its row over late events that leave it, and takes another name from
a late update. -/
theorem finished_frozen_lateTask :
    let late := [Sample.ofTask "TASK_SUSPENDED" "t1" "p1", Sample.ofTask "TASK_CANCELLED" "t1" "p1"]
    let rename := Sample.event "TASK_UPDATED" [("id", .str "t1"), ("name", .str "late")]
    ∃ t ∈ Sample.store.tasks, t.id = "t1" ∧ t.status.isFinal = true ∧
      t ∈ (Registry.full.consume Supply.counting.backend late Sample.store).2.tasks ∧
      ((Registry.full.consume Supply.counting.backend [rename] Sample.store).2.task? "t1").bind UserTask.name =
        some "late" := by
  intro late rename
  obtain ⟨t, ht, hf⟩ : ∃ t, Sample.store.task? "t1" = some t ∧ t.status.isFinal = true := ⟨_, rfl, rfl⟩
  obtain ⟨hmem, hid⟩ := Table.lookup_mem ht
  obtain ⟨hbatch, hrewrite, -⟩ := finished_frozen Sample.reachable Supply.counting Registry.full
  have hlate : ∀ e ∈ late, e.kind? = some .taskSuspended ∨ e.kind? = some .taskCancelled := by decide
  refine ⟨t, hmem, hid, hf, (hbatch late _ _ (Prod.ext rfl rfl)).1 t hmem hf fun e he _ => ?_, ?_⟩
  · rcases hlate e he with hk | hk
    · exact ⟨fun h => by simp [Event.RewritesTask, hk] at h, fun i _ h => by simp [Event.Deletes, hk] at h⟩
    · exact ⟨fun h => by simp [Event.RewritesTask, hk] at h, fun i _ h => by simp [Event.Deletes, hk] at h⟩
  · rw [(hrewrite rename _ t rfl rfl ht hf).1 rfl, Store.task?_saveTask]
    exact congrArg (Option.bind · UserTask.name) (if_pos hid)

/-- Late events do write to rows that have ended, though the batch deletes no instance. -/
theorem finished_rewritten :
    ¬∀ (s : Store) (_ : s.Reachable) (u : Supply) (g : Registry) (events : List Event) (n : Counts) (s' : Store),
      g.consume u.backend events s = (.ok n, s') → (∀ e ∈ events, e.kind? ≠ some .processDeleted) →
        (∀ t ∈ s.tasks, t.status.isFinal = true → t ∈ s'.tasks) ∧
        (∀ r ∈ s.instances, r.status.isFinal = true → r ∈ s'.instances) := by
  intro hfrozen
  let rename := Sample.event "TASK_UPDATED" [("id", .str "t1"), ("name", .str "late")]
  obtain ⟨t, ht, hf⟩ : ∃ t, Sample.store.task? "t1" = some t ∧ t.status.isFinal = true := ⟨_, rfl, rfl⟩
  have hkept := (hfrozen Sample.store Sample.reachable Supply.counting Registry.full [rename] _ _
    (Prod.ext rfl rfl) (by decide)).1 t (Table.lookup_mem ht).1 hf
  cases ht
  revert hkept
  decide +kernel

/-! ## What is kept of what has ended -/

/-- What is kept of a task that has ended: it does not open, its candidates stay the same, and so do the
variables that it has. -/
structure TaskKept (s : Store) (t : UserTask) (s' : Store) : Prop where
  ended : ∃ t', s'.task? t.id = some t' ∧ t'.status.isFinal = true ∧ t'.instanceId = t.instanceId
  candidates : ∀ c : Candidate, c.role.ofTask = true → c.owner = t.id → (c ∈ s'.candidates ↔ c ∈ s.candidates)
  taskVariables : ∀ v ∈ s.taskVariables, v.taskId = t.id → v ∈ s'.taskVariables

/-- What is kept of an instance that has ended: it does not run again, and its variables stay the same. -/
structure InstanceKept (s : Store) (r : ProcessInstance) (s' : Store) : Prop where
  ended : ∃ r', s'.instance? r.id = some r' ∧ r'.status.isFinal = true
  processVariables : ∀ v ∈ s.processVariables, v.instanceId = r.id → v ∈ s'.processVariables

variable {m m' : Store}

theorem TaskKept.effect {t : UserTask} (h : TaskKept s t m) (hm : m.Sound) (hk : e.kind? = some k)
    (heffect : Effect u e m k m') (hspared : ∀ i, t.instanceId = some i → ¬e.Deletes i) : TaskKept s t m' := by
  obtain ⟨w, hw, hf, hi⟩ := h.ended
  obtain ⟨hmem, hid⟩ := Table.lookup_mem hw
  have hspared' : ∀ p : InstancePayload, e.payload = .ok p → k = .processDeleted →
      w.instanceId ≠ some p.id := fun p hp hdel heq =>
    hspared p.id (hi ▸ heq) ⟨hdel ▸ hk, p, hp, rfl⟩
  refine ⟨?_, fun c hrole howner => ?_, fun v hv howner => ?_⟩
  · have hfate := heffect.task_fate hm hmem
    obtain ⟨w', hw'⟩ := hfate.there hk (hi ▸ hspared)
    rw [hid] at hw'
    rw [hid, hw'] at hfate
    exact ⟨w', hw', hfate.final hf, hfate.keeps.2.trans hi⟩
  · rcases heffect.candidate_fate hm hmem hrole (howner.trans hid.symm) with
      hsame | ⟨hopen, -⟩ | ⟨p, hdel, hp, hdeleted⟩
    · exact hsame.trans (h.candidates c hrole howner)
    · exact Bool.noConfusion (hf.symm.trans hopen)
    · exact absurd hdeleted (hspared' p hp hdel)
  · have hv' : v ∈ m.taskVariables := h.taskVariables v hv howner
    have hfate := heffect.taskVariable_fate hm hv'
    generalize hfound : m'.taskVariable? v.id = fate at hfate
    -- A variable of the task changes only while the task is open, and goes only with its instance.
    cases hfate with
    | kept => exact (Table.lookup_mem hfound).1
    | revalued _ _ _ ht hopen | dropped _ _ _ ht hopen =>
      rw [howner, hw] at ht
      cases ht
      exact Bool.noConfusion (hf.symm.trans hopen)
    | deleted hdel hp ht hdeleted =>
      rw [howner, hw] at ht
      cases ht
      exact absurd hdeleted (hspared' _ hp hdel)

theorem InstanceKept.effect {r : ProcessInstance} (h : InstanceKept s r m) (hm : m.Sound)
    (hk : e.kind? = some k) (heffect : Effect u e m k m') (hspared : ¬e.Deletes r.id) : InstanceKept s r m' := by
  obtain ⟨w, hw, hf⟩ := h.ended
  obtain ⟨hmem, hid⟩ := Table.lookup_mem hw
  refine ⟨?_, fun v hv howner => ?_⟩
  · have hfate := heffect.instance_fate hm hmem
    obtain ⟨w', hw'⟩ := hfate.there hk (hid ▸ hspared)
    rw [hid] at hw'
    rw [hid, hw'] at hfate
    exact ⟨w', hw', hfate.final hf⟩
  · have hv' : v ∈ m.processVariables := h.processVariables v hv howner
    have hfate := heffect.variable_fate hm hv'
    generalize hfound : m'.processVariable? v.id = fate at hfate
    cases hfate with
    | kept => exact (Table.lookup_mem hfound).1
    | revalued _ _ _ hr hopen | dropped _ _ _ hr hopen =>
      rw [howner, hw] at hr
      cases hr
      exact Bool.noConfusion (hf.symm.trans hopen)
    | deleted hdel hp hi =>
      exact absurd ⟨hdel ▸ hk, _, hp, hi.trans howner⟩ hspared

/-- Between any two points of a history, a task that has ended is kept unless its instance is deleted in
between, and an instance that has ended is kept until its own deletion. -/
theorem finished_kept (hs : s.Reachable) {before middle after : List Moment}
    (h : s.History (before ++ middle ++ after) s') :
    let m := s.after before
    let m' := s.after (before ++ middle)
    (∀ t ∈ m.tasks, t.status.isFinal = true →
      (∀ x ∈ middle, ∀ i, t.instanceId = some i → ¬x.event.Deletes i) → TaskKept m t m') ∧
    (∀ r ∈ m.instances, r.status.isFinal = true →
      (∀ x ∈ middle, ¬x.event.Deletes r.id) → InstanceKept m r m') := by
  intro m m'
  obtain ⟨hm, hcourse⟩ := h.segment hs.inv
  refine ⟨fun t ht hf hmiddle => ?_, fun r hr hf hmiddle => ?_⟩
  · have hfound : m.task? t.id = some t := (Table.lookup_eq_some hm.taskIds).2 ⟨ht, rfl⟩
    refine hcourse.keeps (TaskKept m t) (fun e => ∀ i, t.instanceId = some i → ¬e.Deletes i) hm hmiddle
      ⟨⟨t, hfound, hf, rfl⟩, fun _ _ _ => Iff.rfl, fun v hv _ => hv⟩ ?_
    intro u e k x x' hx _ hspared hk heffect hkept
    exact hkept.effect hx.toSound hk heffect hspared
  · have hfound : m.instance? r.id = some r := (Table.lookup_eq_some hm.instanceIds).2 ⟨hr, rfl⟩
    refine hcourse.keeps (InstanceKept m r) (fun e => ¬e.Deletes r.id) hm hmiddle
      ⟨⟨r, hfound, hf⟩, fun v hv _ => hv⟩ ?_
    intro u e k x x' hx _ hspared hk heffect hkept
    exact hkept.effect hx.toSound hk heffect hspared

namespace Sample

/-- An event about a note at the task of an order that has ended. -/
def note (typeName : String) : Event :=
  event typeName [("name", .str "note"), ("taskId", .str "t1"), ("taskVariable", .bool true)]

/-- The first order is completed, and a note is left at its first task. -/
def closing : List Event := [ofInstance "PROCESS_COMPLETED" "p1", note "VARIABLE_CREATED"]

/-- Events that would open the task, take its candidate and its note, run the order again and drop its
variable. -/
def late : List Event := [
  ofTask "TASK_ACTIVATED" "t1" "p1",
  event "TASK_CANDIDATE_USER_REMOVED" [("taskId", .str "t1"), ("userId", .str "kim")],
  note "VARIABLE_DELETED", ofInstance "PROCESS_RESUMED" "p1", ofVariable "VARIABLE_DELETED" "approved" "p1"]

def closed : Store := (Registry.full.consume Supply.counting.backend closing store).2

theorem closed_history :
    store.History (Registry.full.recorded Supply.counting.backend closing store) closed :=
  .consume (.start store) Registry.full Supply.counting closing

theorem late_spares (s : Store) (instanceId : String) :
    ∀ m ∈ Registry.full.recorded Supply.counting.backend late s, ¬m.event.Deletes instanceId := by
  have hkinds : ∀ e ∈ late, e.kind? ≠ some .processDeleted := by decide
  exact fun m hm h => hkinds m.event (Registry.mem_recorded hm).1 h.1

end Sample

/-- All late events are handled, and what has ended is kept. -/
theorem finished_kept_afterLate :
    let s' := (Registry.full.consume Supply.counting.backend Sample.late Sample.closed).2
    (Registry.full.recorded Supply.counting.backend Sample.late Sample.closed).length = 5 ∧
    (∃ t, Sample.closed.task? "t1" = some t ∧ TaskKept Sample.closed t s') ∧
    (∃ r, Sample.closed.instance? "p1" = some r ∧ InstanceKept Sample.closed r s') := by
  intro s'
  have hlate := Sample.closed_history.consume Registry.full Supply.counting Sample.late
  have hclosed := (Sample.closed_history.course Sample.reachable.inv).after_eq
  have hs' := (hlate.course Sample.reachable.inv).after_eq
  rw [← List.append_nil (_ ++ _)] at hlate
  obtain ⟨htasks, hinstances⟩ := finished_kept Sample.reachable hlate
  rw [hs', hclosed] at htasks hinstances
  obtain ⟨t, ht, hf⟩ : ∃ t, Sample.closed.task? "t1" = some t ∧ t.status.isFinal = true := ⟨_, rfl, rfl⟩
  obtain ⟨r, hr, hrf⟩ : ∃ r, Sample.closed.instance? "p1" = some r ∧ r.status.isFinal = true := ⟨_, rfl, rfl⟩
  refine ⟨by decide +kernel, ⟨t, ht, ?_⟩, ⟨r, hr, ?_⟩⟩
  · exact htasks t (Table.lookup_mem ht).1 hf fun x hx i _ => Sample.late_spares _ i x hx
  · exact hinstances r (Table.lookup_mem hr).1 hrf fun x hx => Sample.late_spares _ r.id x hx

end FlowView

import FlowView.Proofs.Content
/-!
# Classes of ids

Let the ids that events and rows mention be split into classes. A change of the rows of one class is a
`Shift`: it leaves the rows of the other classes alone. Stores that agree on a class are `Alike`: they
answer alike what is asked about ids of the class, up to generated ids.
-/

namespace FlowView

/-- An id that events and rows mention. -/
inductive Key
  | processInstance (id : String)
  | task (id : String)
  /-- An executed element or a call, by its key. -/
  | element (key : String)
  | definition (id : String)
  | application (id : String)
  /-- The event that a flow comes from. -/
  | flowEvent (id : String)
  deriving DecidableEq, Repr

/-- The ids of a row and of what it belongs to. -/
def Entry.keys : Entry → List Key
  | .processInstance r => [.processInstance r.id]
  | .task t => .task t.id :: t.instanceId.toList.map .processInstance
  | .processVariable v => [.processInstance v.instanceId]
  | .taskVariable v => [.task v.taskId]
  | .shown taskId instanceId _ => [.task taskId, .processInstance instanceId]
  | .candidate c => [if c.role.ofTask then .task c.owner else .definition c.owner]
  | .activity a => [.element a.id, .processInstance a.instanceId]
  | .flow f => .processInstance f.instanceId :: f.eventId.toList.map .flowEvent
  | .integration c => [.element c.id, .processInstance c.instanceId]
  | .definition r => [.definition r.id]
  | .model r => [.definition r.definitionId]
  | .application r => [.application r.id]

theorem Entry.keys_ne_nil (x : Entry) : x.keys ≠ [] := by cases x <;> exact List.cons_ne_nil _ _

/-! ## The ids that an event mentions -/

/-- The ids in the payload of an event, if it has one. -/
def Event.keysIn {α : Type} [Payload α] (keys : α → List Key) (e : Event) : List Key :=
  match (e.payload : Except EventFault α) with
  | .ok p => keys p
  | .error _ => []

/-- The ids that an event of a kind mentions. -/
def EventKind.keys : EventKind → Event → List Key
  | .processDeployed => Event.keysIn fun p : DefinitionPayload => [.definition p.id]
  | .applicationDeployed => Event.keysIn fun p : ApplicationPayload => [.application p.id]
  | .processCreated | .processStarted | .processUpdated | .processSuspended | .processResumed
  | .processCompleted | .processCancelled | .processDeleted =>
    Event.keysIn fun p : InstancePayload => [.processInstance p.id]
  | .taskCreated | .taskAssigned | .taskActivated | .taskSuspended | .taskUpdated | .taskCompleted
  | .taskCancelled => fun e => e.keysIn fun p : TaskPayload =>
    .task p.id :: (p.instanceId.or e.instanceId).toList.map .processInstance
  | .taskCandidateUserAdded | .taskCandidateUserRemoved =>
    Event.keysIn fun p : CandidatePayload .taskUser => [.task p.owner]
  | .taskCandidateGroupAdded | .taskCandidateGroupRemoved =>
    Event.keysIn fun p : CandidatePayload .taskGroup => [.task p.owner]
  | .processCandidateStarterUserAdded | .processCandidateStarterUserRemoved =>
    Event.keysIn fun p : CandidatePayload .starterUser => [.definition p.owner]
  | .processCandidateStarterGroupAdded | .processCandidateStarterGroupRemoved =>
    Event.keysIn fun p : CandidatePayload .starterGroup => [.definition p.owner]
  | .variableCreated | .variableUpdated | .variableDeleted => fun e => e.keysIn fun p : VariablePayload =>
    if p.ofTask then p.taskId.toList.map .task
    else (p.instanceId.or e.instanceId).toList.map .processInstance
  | .activityStarted | .activityCompleted | .activityCancelled =>
    Event.keysIn fun p : ActivityPayload => [.processInstance p.instanceId, .element p.key]
  | .sequenceFlowTaken => fun e => e.keysIn fun p : FlowPayload =>
    .processInstance p.instanceId :: e.id.toList.map .flowEvent
  | .integrationRequested | .integrationResultReceived | .integrationErrorReceived =>
    Event.keysIn fun p : IntegrationPayload => [.processInstance p.instanceId, .element p.elementKey]

/-- The ids that an event mentions. -/
def Event.keys (e : Event) : List Key := (e.kind?.map (·.keys e)).getD []

variable {κ : Type} (side : Key → κ) (c : κ)

/-- Does the row mention ids of one class only? -/
def Entry.Of (x : Entry) : Prop := ∀ k ∈ x.keys, side k = c

/-- Does the event mention ids of one class only? -/
def Event.About (e : Event) : Prop := ∀ k ∈ e.keys, side k = c

instance [DecidableEq κ] (x : Entry) : Decidable (x.Of side c) := List.decidableBAll _ _

instance [DecidableEq κ] (e : Event) : Decidable (e.About side c) := List.decidableBAll _ _

/-- Every row has its own id and that of what it belongs to in one class. -/
def Store.Separated (s : Store) : Prop := ∀ x ∈ s.content, ∃ c, x.Of side c

/-- What the tables say of the ids of one class. -/
def Store.part [DecidableEq κ] (s : Store) : Multiset Entry := s.content.filter fun x => x.Of side c

variable {side c} {s s₁ s' t t' : Store} {x : Entry} {k : Key}

theorem Entry.Of.unique {c' : κ} (h : x.Of side c) (h' : x.Of side c') : c = c' := by
  obtain ⟨k, hk⟩ := List.exists_mem_of_ne_nil _ x.keys_ne_nil
  exact (h k hk).symm.trans (h' k hk)

theorem Entry.Of.single (hx : x.keys = [k]) (hk : side k = c) : x.Of side c := by
  intro j hj
  rw [hx, List.mem_singleton] at hj
  exact hj ▸ hk

/-! ## Changes of one class -/

/-- The rows of one class that are `out` are exchanged for those that are `new`. -/
structure Shift (side : Key → κ) (c : κ) (s s' : Store) (out new : Multiset Entry) : Prop where
  content : s'.content + out = s.content + new
  out : ∀ x ∈ out, x.Of side c
  new : ∀ x ∈ new, x.Of side c

namespace Shift

variable {out new out' new' : Multiset Entry}

theorem refl (s : Store) : Shift side c s s 0 0 := ⟨rfl, by simp, by simp⟩

theorem trans (h : Shift side c s s₁ out new) (h' : Shift side c s₁ s' out' new') :
    Shift side c s s' (out + out') (new + new') where
  content := by
    calc s'.content + (out + out') = s'.content + out' + out := by abel
      _ = s₁.content + out + new' := by rw [h'.content, add_right_comm]
      _ = s.content + (new + new') := by rw [h.content, add_assoc]
  out x hx := (Multiset.mem_add.1 hx).elim (h.out x) (h'.out x)
  new x hx := (Multiset.mem_add.1 hx).elim (h.new x) (h'.new x)

theorem separated (h : Shift side c s s' out new) (hs : s.Separated side) : s'.Separated side := by
  intro x hx
  have hmem : x ∈ s.content + new := h.content ▸ Multiset.mem_add.2 (.inl hx)
  rcases Multiset.mem_add.1 hmem with hx | hx
  · exact hs x hx
  · exact ⟨c, h.new x hx⟩

variable [DecidableEq κ]

/-- The other classes stay as they are. -/
theorem part_other (h : Shift side c s s' out new) {c' : κ} (hne : c' ≠ c) : s'.part side c' = s.part side c' := by
  have hnone {m : Multiset Entry} (hm : ∀ x ∈ m, x.Of side c) : m.filter (fun x => x.Of side c') = 0 :=
    Multiset.filter_eq_nil.2 fun x hx hx' => hne (hx'.unique (hm x hx))
  have hfilter := congrArg (Multiset.filter fun x => x.Of side c') h.content
  rwa [Multiset.filter_add, Multiset.filter_add, hnone h.out, hnone h.new, add_zero, add_zero] at hfilter

/-- The same change of stores that agree on the class leaves them agreeing. -/
theorem part_same (h : Shift side c s s' out new) (h' : Shift side c t t' out new)
    (hst : s.part side c = t.part side c) : s'.part side c = t'.part side c := by
  have hfilter := congrArg (Multiset.filter fun x => x.Of side c) h.content
  have hfilter' := congrArg (Multiset.filter fun x => x.Of side c) h'.content
  rw [Multiset.filter_add, Multiset.filter_add] at hfilter hfilter'
  refine add_right_cancel (hfilter.trans (Eq.trans ?_ hfilter'.symm))
  rw [show s.content.filter (fun x => x.Of side c) = _ from hst]
  rfl

end Shift

/-! ## Stores that agree on a class -/

variable [DecidableEq κ]

/-- Stores that batches lead to, whose rows of one class are the same. -/
structure Alike (side : Key → κ) (c : κ) (s t : Store) : Prop where
  left : s.Inv
  right : t.Inv
  leftSeparated : s.Separated side
  rightSeparated : t.Separated side
  part : s.part side c = t.part side c

namespace Alike

theorem symm (h : Alike side c s t) : Alike side c t s :=
  ⟨h.right, h.left, h.rightSeparated, h.leftSeparated, h.part.symm⟩

/-- A row that has an id of the class is of the class. -/
theorem of_key (h : Alike side c s t) (hx : s.Holds x) (hk : k ∈ x.keys) (hside : side k = c) : x.Of side c := by
  obtain ⟨c', hx'⟩ := h.leftSeparated x (h.left.mem_content.2 hx)
  rwa [← hside, hx' k hk]

theorem transfer (h : Alike side c s t) (hx : s.Holds x) (hk : k ∈ x.keys) (hside : side k = c) : t.Holds x := by
  have hpart : x ∈ s.part side c := Multiset.mem_filter.2 ⟨h.left.mem_content.2 hx, h.of_key hx hk hside⟩
  rw [h.part] at hpart
  exact h.right.mem_content.1 (Multiset.mem_filter.1 hpart).1

/-- Both say the same of an id of the class. -/
theorem holds_iff (h : Alike side c s t) (x : Entry) (hk : k ∈ x.keys) (hside : side k = c) :
    s.Holds x ↔ t.Holds x := ⟨fun hx => h.transfer hx hk hside, fun hx => h.symm.transfer hx hk hside⟩

/-! ### What is asked about ids of the class -/

theorem instance?_eq (h : Alike side c s t) {id : String} (hid : side (.processInstance id) = c) :
    s.instance? id = t.instance? id :=
  Table.lookup_congr h.left.instanceIds h.right.instanceIds fun r hr =>
    h.holds_iff (.processInstance r) (k := .processInstance id) (by simp [Entry.keys, hr]) hid

theorem task?_eq (h : Alike side c s t) {id : String} (hid : side (.task id) = c) : s.task? id = t.task? id :=
  Table.lookup_congr h.left.taskIds h.right.taskIds fun r hr =>
    h.holds_iff (.task r) (k := .task id) (by simp [Entry.keys, hr]) hid

theorem activity?_eq (h : Alike side c s t) {key : String} (hkey : side (.element key) = c) :
    s.activity? key = t.activity? key :=
  Table.lookup_congr h.left.activityIds h.right.activityIds fun a ha =>
    h.holds_iff (.activity a) (k := .element key) (by simp [Entry.keys, ha]) hkey

theorem integration?_eq (h : Alike side c s t) {key : String} (hkey : side (.element key) = c) :
    s.integration? key = t.integration? key :=
  Table.lookup_congr h.left.integrationIds h.right.integrationIds fun r hr =>
    h.holds_iff (.integration r) (k := .element key) (by simp [Entry.keys, hr]) hkey

theorem findDefinition_eq (h : Alike side c s t) {id : String} (hid : side (.definition id) = c) :
    s.findDefinition id = t.findDefinition id :=
  Table.lookup_congr h.left.definitionIds h.right.definitionIds fun r hr =>
    h.holds_iff (.definition r) (k := .definition id) (by simp [Entry.keys, hr]) hid

theorem findModel_eq (h : Alike side c s t) {id : String} (hid : side (.definition id) = c) :
    s.findModel id = t.findModel id :=
  Table.lookup_congr h.left.modelIds h.right.modelIds fun r hr =>
    h.holds_iff (.model r) (k := .definition id) (by simp [Entry.keys, hr]) hid

theorem findApplication_eq (h : Alike side c s t) {id : String} (hid : side (.application id) = c) :
    s.findApplication id = t.findApplication id :=
  Table.lookup_congr h.left.applicationIds h.right.applicationIds fun r hr =>
    h.holds_iff (.application r) (k := .application id) (by simp [Entry.keys, hr]) hid

theorem mem_candidates (h : Alike side c s t) {r : Candidate} (hr : ∀ k ∈ (Entry.candidate r).keys, side k = c) :
    r ∈ s.candidates ↔ r ∈ t.candidates :=
  h.holds_iff (.candidate r) List.mem_cons_self (hr _ List.mem_cons_self)

/-- A variable that the one has, the other has too, under some id. -/
theorem findVariable (h : Alike side c s t) {instanceId name : String} {v : ProcessVariable}
    (hside : side (.processInstance instanceId) = c) (hv : s.findVariable instanceId name = some v) :
    ∃ w, t.findVariable instanceId name = some w ∧ w.anonymous = v.anonymous := by
  obtain ⟨hmem, rfl, rfl⟩ := Store.findVariable_mem hv
  obtain ⟨w, hw, heq⟩ := h.transfer (x := .processVariable v.anonymous) ⟨v, hmem, rfl⟩ List.mem_cons_self hside
  refine ⟨w, h.right.findVariable_eq_some.2 ⟨hw, ?_⟩, heq⟩
  obtain ⟨-, hi, hname, -⟩ := ProcessVariable.mk.inj heq
  exact ⟨hi, hname⟩

theorem findVariable_none (h : Alike side c s t) {instanceId name : String}
    (hside : side (.processInstance instanceId) = c) (hv : s.findVariable instanceId name = none) :
    t.findVariable instanceId name = none := by
  rw [Option.eq_none_iff_forall_ne_some]
  intro w hw
  obtain ⟨v, hv', -⟩ := h.symm.findVariable hside hw
  cases hv.symm.trans hv'

theorem findTaskVariable (h : Alike side c s t) {taskId name : String} {v : TaskVariable}
    (hside : side (.task taskId) = c) (hv : s.findTaskVariable taskId name = some v) :
    ∃ w, t.findTaskVariable taskId name = some w ∧ w.anonymous = v.anonymous := by
  obtain ⟨hmem, rfl, rfl⟩ := Store.findTaskVariable_mem hv
  obtain ⟨w, hw, heq⟩ := h.transfer (x := .taskVariable v.anonymous) ⟨v, hmem, rfl⟩ List.mem_cons_self hside
  refine ⟨w, h.right.findTaskVariable_eq_some.2 ⟨hw, ?_⟩, heq⟩
  obtain ⟨-, htask, -, hname, -⟩ := TaskVariable.mk.inj heq
  exact ⟨htask, hname⟩

theorem findTaskVariable_none (h : Alike side c s t) {taskId name : String} (hside : side (.task taskId) = c)
    (hv : s.findTaskVariable taskId name = none) : t.findTaskVariable taskId name = none := by
  rw [Option.eq_none_iff_forall_ne_some]
  intro w hw
  obtain ⟨v, hv', -⟩ := h.symm.findTaskVariable hside hw
  cases hv.symm.trans hv'

theorem flowRecorded_eq (h : Alike side c s t) {id : String} (hid : side (.flowEvent id) = c) :
    s.flowRecorded id = t.flowRecorded id := by
  have htransfer {s t : Store} (h : Alike side c s t) (hs : s.flowRecorded id = true) :
      t.flowRecorded id = true := by
    simp only [Store.flowRecorded, List.any_eq_true, decide_eq_true_eq] at hs ⊢
    obtain ⟨f, hf, hevent⟩ := hs
    have hkey : .flowEvent id ∈ (Entry.flow f.anonymous).keys := by
      simp [Entry.keys, SequenceFlow.anonymous, hevent]
    obtain ⟨g, hg, heq⟩ := h.transfer (x := .flow f.anonymous) ⟨f, hf, rfl⟩ hkey hid
    obtain ⟨-, hsame, -⟩ := SequenceFlow.mk.inj heq
    exact ⟨g, hg, hsame.trans hevent⟩
  exact Bool.eq_iff_iff.2 ⟨htransfer h, htransfer h.symm⟩

/-! ### What belongs to an instance of the class -/

section Instance

variable (h : Alike side c s t) {instanceId : String} (hside : side (.processInstance instanceId) = c)
include h hside

theorem mem_tasks_iff {r : UserTask} (hr : r.instanceId = some instanceId) : r ∈ s.tasks ↔ r ∈ t.tasks :=
  h.holds_iff (.task r) (k := .processInstance instanceId) (by simp [Entry.keys, hr]) hside

theorem openTasksOf_perm : (s.openTasksOf instanceId).Perm (t.openTasksOf instanceId) := by
  refine (List.perm_ext_iff_of_nodup ((h.left.nodup_tasksOf instanceId).of_map.filter _)
    ((h.right.nodup_tasksOf instanceId).of_map.filter _)).2 fun r => ?_
  simp only [List.mem_filter, Store.mem_tasksOf]
  exact and_congr_left fun _ => and_congr_left fun hr => h.mem_tasks_iff hside hr

theorem ownsTask_eq (taskId : String) : s.ownsTask instanceId taskId = t.ownsTask instanceId taskId := by
  rw [Bool.eq_iff_iff]
  simp only [Store.ownsTask, List.any_eq_true, decide_eq_true_eq]
  exact exists_congr fun r => and_congr_left fun hr => h.mem_tasks_iff hside hr.1

theorem listVariables_perm : ((s.listVariables instanceId).map ProcessVariable.anonymous).Perm
    ((t.listVariables instanceId).map ProcessVariable.anonymous) := by
  have hnodup {s : Store} (hs : s.Sound) :
      ((s.listVariables instanceId).map ProcessVariable.anonymous).Nodup :=
    ((Table.sort_perm _ _).map _).nodup_iff.2 (hs.nodup_anonymous.sublist (List.filter_sublist.map _))
  have hmem {s : Store} (v : ProcessVariable) : v ∈ (s.listVariables instanceId).map ProcessVariable.anonymous ↔
      s.Holds (.processVariable v) ∧ v.instanceId = instanceId := by
    simp only [List.mem_map, Store.mem_listVariables, Store.Holds]
    constructor
    · rintro ⟨w, ⟨hw, hi⟩, rfl⟩
      exact ⟨⟨w, hw, rfl⟩, hi⟩
    · rintro ⟨⟨w, hw, rfl⟩, hi⟩
      exact ⟨w, ⟨hw, hi⟩, rfl⟩
  refine (List.perm_ext_iff_of_nodup (hnodup h.left.toSound) (hnodup h.right.toSound)).2 fun v => ?_
  rw [hmem, hmem]
  exact and_congr_left fun hv => h.holds_iff _ (k := .processInstance instanceId) (by simp [Entry.keys, hv]) hside

end Instance
end Alike
end FlowView

import FlowView.Proofs.Again
import FlowView.Proofs.Changes
import FlowView.Proofs.Classes
/-!
# The same change in two stores

Two stores that agree on a class of ids are changed alike by the same change of rows of the class:
`Together` says that the same rows go and the same rows come, up to generated ids. Here it is shown of
each change that events make.
-/

namespace FlowView

open Projection

variable {κ : Type} {side : Key → κ} {c : κ} {s s₁ s' t t₁ t' : Store}

/-- The same change of the rows of one class in both stores. -/
def Together (side : Key → κ) (c : κ) (s s' t t' : Store) : Prop :=
  ∃ out new, Shift side c s s' out new ∧ Shift side c t t' out new

namespace Together

theorem stay (s t : Store) : Together side c s s t t := ⟨0, 0, .refl s, .refl t⟩

theorem trans (h : Together side c s s₁ t t₁) (h' : Together side c s₁ s' t₁ t') : Together side c s s' t t' := by
  obtain ⟨out, new, hs, ht⟩ := h
  obtain ⟨out', new', hs', ht'⟩ := h'
  exact ⟨out + out', new + new', hs.trans hs', ht.trans ht'⟩

/-- The rows that go and come need to be the same in some order. -/
theorem of_content {out new out' new' : List Entry} (hs : s'.content + out = s.content + new)
    (ht : t'.content + out' = t.content + new') (hout : out'.Perm out) (hnew : new'.Perm new)
    (hof : ∀ x ∈ out, x.Of side c) (hof' : ∀ x ∈ new, x.Of side c) : Together side c s s' t t' := by
  rw [Multiset.coe_eq_coe.2 hout, Multiset.coe_eq_coe.2 hnew] at ht
  exact ⟨out, new, ⟨hs, hof, hof'⟩, ⟨ht, hof, hof'⟩⟩

/-- Nothing goes. -/
theorem of_new {new new' : List Entry} (hs : s'.content = s.content + new) (ht : t'.content = t.content + new')
    (hnew : new'.Perm new) (hof : ∀ x ∈ new, x.Of side c) : Together side c s s' t t' :=
  have hnone {s s' : Store} {new : List Entry} (h : s'.content = s.content + new) :
      s'.content + ([] : List Entry) = s.content + new := (add_zero _).trans h
  .of_content (hnone hs) (hnone ht) (.refl _) hnew (by simp) hof

/-- Nothing comes. -/
theorem of_out {out out' : List Entry} (hs : s'.content + out = s.content) (ht : t'.content + out' = t.content)
    (hout : out'.Perm out) (hof : ∀ x ∈ out, x.Of side c) : Together side c s s' t t' :=
  have hnone {s s' : Store} {out : List Entry} (h : s'.content + out = s.content) :
      s'.content + out = s.content + ([] : List Entry) := h.trans (add_zero _).symm
  .of_content (hnone hs) (hnone ht) hout (.refl _) hof (by simp)

/-- A row that is saved takes the place of the same row. -/
theorem upsert (n : Nat) {α : Type} {key : α → String} {revise : α → α → α} {x : α} {entry : α → Entry}
    {rows rows' : List α} (hs : s.parts[n]? = some (rows.map entry))
    (hs' : s'.parts = s.parts.set n ((Table.upsert key revise x rows).map entry))
    (ht : t.parts[n]? = some (rows'.map entry))
    (ht' : t'.parts = t.parts.set n ((Table.upsert key revise x rows').map entry))
    (hsame : Table.lookup key (key x) rows = Table.lookup key (key x) rows')
    (hof : ∀ y ∈ rows, key y = key x → (entry y).Of side c) (hx : (entry x).Of side c)
    (hrevise : ∀ y, (entry y).Of side c → (entry (revise y x)).Of side c) : Together side c s s' t t' := by
  have hcontent := Store.content_exchange n hs hs' (Table.upsert_perm key revise x rows)
  have hcontent' := Store.content_exchange n ht ht' (Table.upsert_perm key revise x rows')
  rw [← hsame] at hcontent'
  refine .of_content hcontent hcontent' (.refl _) (.refl _) ?_ ?_
  · cases hold : Table.lookup key (key x) rows with
    | none => simp
    | some y => simpa using hof y (Table.lookup_mem hold).1 (Table.lookup_mem hold).2
  · cases hold : Table.lookup key (key x) rows with
    | none => simpa using hx
    | some y => simpa using hrevise y (hof y (Table.lookup_mem hold).1 (Table.lookup_mem hold).2)

/-- Variables of tasks are exchanged for others that are the same up to their ids. -/
theorem taskVariables {vs vs' : List TaskVariable} (out new out' new' : List TaskVariable)
    (hs : (vs ++ out).Perm (s.taskVariables ++ new)) (ht : (vs' ++ out').Perm (t.taskVariables ++ new'))
    (hout : out'.map TaskVariable.anonymous = out.map TaskVariable.anonymous)
    (hnew : new'.map TaskVariable.anonymous = new.map TaskVariable.anonymous)
    (hof : ∀ v ∈ out, side (.task v.taskId) = c) (hof' : ∀ v ∈ new, side (.task v.taskId) = c) :
    Together side c s { s with taskVariables := vs } t { t with taskVariables := vs' } := by
  have hentries {xs ys : List TaskVariable} (h : ys.map TaskVariable.anonymous = xs.map TaskVariable.anonymous) :
      (ys.map fun v => Entry.taskVariable v.anonymous).Perm (xs.map fun v => Entry.taskVariable v.anonymous) := by
    have hmap := congrArg (List.map Entry.taskVariable) h
    rw [List.map_map, List.map_map] at hmap
    exact .of_eq hmap
  have hclass {xs : List TaskVariable} (h : ∀ v ∈ xs, side (.task v.taskId) = c) :
      ∀ x ∈ xs.map fun v => Entry.taskVariable v.anonymous, x.Of side c := by
    rw [List.forall_mem_map]
    exact fun v hv => .single rfl (h v hv)
  exact .of_content (Store.content_exchange 3 rfl rfl hs) (Store.content_exchange 3 rfl rfl ht) (hentries hout)
    (hentries hnew) (hclass hof) (hclass hof')

theorem withTaskVariable {v w : TaskVariable} (hside : side (.task v.taskId) = c)
    (hsame : w.anonymous = v.anonymous) : Together side c s (s.withTaskVariable v) t (t.withTaskVariable w) :=
  .taskVariables [] [v] [] [w] (.of_eq (List.append_nil _))
    (.of_eq (List.append_nil _)) rfl (by simp [hsame]) (by simp) (by simpa using hside)

/-- A row is added that is the same up to its id. -/
theorem withFlow {f g : SequenceFlow} (hf : (Entry.flow f.anonymous).Of side c) (hsame : g.anonymous = f.anonymous) :
    Together side c s (s.withFlow f) t (t.withFlow g) := by
  have hadd (s : Store) (f : SequenceFlow) :
      (s.withFlow f).content + ([] : List SequenceFlow).map (fun f => Entry.flow f.anonymous) =
        s.content + [f].map fun f => Entry.flow f.anonymous :=
    Store.content_exchange 7 rfl rfl (.of_eq (List.append_nil _))
  exact .of_content (hadd s f) (hadd t g) (.refl _) (by simp [hsame]) (by simp) (by simpa using hf)

/-- Drawing an id does not show. -/
theorem drawn (u u' : Supply) (s t : Store) : Together side c s (u.drawn s) t (u'.drawn t) :=
  ⟨0, 0, ⟨rfl, by simp, by simp⟩, ⟨rfl, by simp, by simp⟩⟩

end Together

variable [DecidableEq κ]

namespace Alike

/-- Stores stay alike under the same change of the class. -/
theorem next (h : Alike side c s t) (hs' : s'.Inv) (ht' : t'.Inv) (htogether : Together side c s s' t t') :
    Alike side c s' t' := by
  obtain ⟨out, new, hs, ht⟩ := htogether
  exact ⟨hs', ht', hs.separated h.leftSeparated, ht.separated h.rightSeparated, hs.part_same ht h.part⟩

variable (h : Alike side c s t)
include h

/-! ## Rows that are saved -/

theorem saveInstance {r : ProcessInstance} (hid : side (.processInstance r.id) = c) :
    Together side c s (s.saveInstance r) t (t.saveInstance r) :=
  have hr {y : ProcessInstance} (hy : y.id = r.id) : (Entry.processInstance y).Of side c :=
    .single rfl (hy ▸ hid)
  .upsert 0 rfl rfl rfl rfl (h.instance?_eq hid) (fun _ _ hy => hr hy) (hr rfl)
    fun _ _ => hr rfl

theorem saveTask {r : UserTask} (hr : (Entry.task r).Of side c) :
    Together side c s (s.saveTask r) t (t.saveTask r) :=
  have hid : side (.task r.id) = c := hr _ List.mem_cons_self
  .upsert 1 rfl rfl rfl rfl (h.task?_eq hid)
    (fun y hy hyid => h.of_key (x := .task y) hy List.mem_cons_self (hyid ▸ hid)) hr fun _ _ => hr

theorem saveActivity {a : Activity} (ha : (Entry.activity a).Of side c) :
    Together side c s (s.saveActivity a) t (t.saveActivity a) :=
  have hid : side (.element a.id) = c := ha _ List.mem_cons_self
  .upsert 6 rfl rfl rfl rfl (h.activity?_eq hid)
    (fun y hy hyid => h.of_key (x := .activity y) hy List.mem_cons_self (hyid ▸ hid)) ha
    fun y hy => by simp_all [Entry.Of, Entry.keys, Store.reviseActivity]

theorem saveIntegration {r : IntegrationCall} (hr : (Entry.integration r).Of side c) :
    Together side c s (s.saveIntegration r) t (t.saveIntegration r) :=
  have hid : side (.element r.id) = c := hr _ List.mem_cons_self
  .upsert 8 rfl rfl rfl rfl (h.integration?_eq hid)
    (fun y hy hyid => h.of_key (x := .integration y) hy List.mem_cons_self (hyid ▸ hid)) hr
    fun y hy => by simp_all [Entry.Of, Entry.keys, Store.reviseIntegration]

theorem saveDefinition {r : ProcessDefinition} (hid : side (.definition r.id) = c) :
    Together side c s (s.saveDefinition r) t (t.saveDefinition r) :=
  have hr {y : ProcessDefinition} (hy : y.id = r.id) : (Entry.definition y).Of side c := .single rfl (hy ▸ hid)
  .upsert 9 rfl rfl rfl rfl
    (h.findDefinition_eq hid) (fun _ _ hy => hr hy) (hr rfl) fun _ _ => hr rfl

theorem saveModel {r : ProcessModel} (hid : side (.definition r.definitionId) = c) :
    Together side c s (s.saveModel r) t (t.saveModel r) :=
  have hr {y : ProcessModel} (hy : y.definitionId = r.definitionId) : (Entry.model y).Of side c :=
    .single rfl (hy ▸ hid)
  .upsert 10 rfl rfl rfl rfl
    (h.findModel_eq hid) (fun _ _ hy => hr hy) (hr rfl) fun _ _ => hr rfl

theorem saveApplication {r : Application} (hid : side (.application r.id) = c) :
    Together side c s (s.saveApplication r) t (t.saveApplication r) :=
  have hr {y : Application} (hy : y.id = r.id) : (Entry.application y).Of side c := .single rfl (hy ▸ hid)
  .upsert 11 rfl rfl rfl rfl
    (h.findApplication_eq hid) (fun _ _ hy => hr hy) (hr rfl) fun _ _ => hr rfl

/-! ## Deployments, elements and calls -/

theorem withDefinition (e : Event) {p : DefinitionPayload} (hid : side (.definition p.id) = c) :
    Together side c s (s.withDefinition e p) t (t.withDefinition e p) := by
  have hdeployed : (deploy e p (s.findDefinition p.id)).id = p.id := deploy_id e p
  have hsaved := h.saveDefinition (r := deploy e p (s.findDefinition p.id)) (hdeployed.symm ▸ hid)
  rw [Store.withDefinition, Store.withDefinition, ← h.findDefinition_eq hid]
  cases p.modelContent with
  | none => exact hsaved
  | some content =>
    have hnext := h.next (h.left.of_same (h.left.toSound.saveDefinition _) rfl rfl rfl)
      (h.right.of_same (h.right.toSound.saveDefinition _) rfl rfl rfl) hsaved
    exact hsaved.trans (hnext.saveModel (r := { definitionId := _, content }) (hdeployed.symm ▸ hid))

/-- An element that is refreshed and changed stays in its class. -/
theorem of_refresh (e : Event) {seed : ActivitySeed} {f : Activity → Activity}
    (hf : ∀ a, (f a).id = a.id ∧ (f a).elementId = a.elementId ∧ (f a).instanceId = a.instanceId)
    (hi : side (.processInstance seed.instanceId) = c) (hkey : side (.element seed.id) = c) :
    (Entry.activity (f (refresh e seed (s.activity? seed.id)))).Of side c := by
  obtain ⟨hid, -, hsame⟩ := hf (refresh e seed (s.activity? seed.id))
  rw [refresh_id] at hid
  have hinstance : side (.processInstance (refresh e seed (s.activity? seed.id)).instanceId) = c := by
    cases hold : s.activity? seed.id with
    | none => exact hi
    | some a =>
      obtain ⟨hmem, hida⟩ := Table.lookup_mem hold
      have hof := h.of_key (x := .activity a) hmem List.mem_cons_self (hida ▸ hkey)
      exact hof _ (List.mem_cons_of_mem _ List.mem_cons_self)
  simp [Entry.Of, Entry.keys, hid, hsame, hkey, hinstance]

/-- A call that is found or made and changed stays in its class. -/
theorem of_call (e : Event) {p : IntegrationPayload} (change : IntegrationCall → IntegrationCall)
    (hchange : ∀ r, (change r).id = r.id ∧ (change r).instanceId = r.instanceId)
    (hi : side (.processInstance p.instanceId) = c) (hkey : side (.element p.callKey) = c) :
    (Entry.integration (change ((s.integration? p.callKey).getD (newIntegration e p)))).Of side c := by
  obtain ⟨hid, hsame⟩ := hchange ((s.integration? p.callKey).getD (newIntegration e p))
  suffices hold : (Entry.integration ((s.integration? p.callKey).getD (newIntegration e p))).Of side c by
    simpa [Entry.Of, Entry.keys, hid, hsame] using hold
  cases hr : s.integration? p.callKey with
  | none => simp [Entry.Of, Entry.keys, newIntegration, hi, hkey]
  | some r =>
    obtain ⟨hmem, hid⟩ := Table.lookup_mem hr
    exact h.of_key (x := .integration r) hmem List.mem_cons_self (hid ▸ hkey)

theorem withCall {k : EventKind} {element : Instant → Activity → Activity}
    {change : IntegrationPayload → Instant → IntegrationCall → IntegrationCall} (hk : CallChange k element change)
    (e : Event) {p : IntegrationPayload} (hi : side (.processInstance p.instanceId) = c)
    (hkey : side (.element p.elementKey) = c) :
    Together side c s (s.withCall e p element change) t (t.withCall e p element change) := by
  let a := refresh e (integrationSeed p) (s.activity? p.elementKey)
  let r := (s.integration? p.callKey).getD (newIntegration e p)
  let r' : IntegrationCall := { change p e.time r with activityId := some a.id }
  have hcallKey : side (.element p.callKey) = c := p.callKey_eq ▸ hkey
  have hcalled : t.withCall e p element change = (t.saveActivity (element e.time a)).saveIntegration r' := by
    rw [Store.withCall, ← h.activity?_eq hkey, ← h.integration?_eq hcallKey]
  have hseed : side (.element (integrationSeed p).id) = c := hkey
  have ha : (Entry.activity (element e.time a)).Of side c := h.of_refresh e (hk.element_keeps e.time) hi hseed
  have hr' : (Entry.integration r').Of side c :=
    h.of_call e (fun r => { change p e.time r with activityId := some a.id })
      (fun r => ⟨(hk.keeps p e.time r).1, (hk.keeps p e.time r).2.1⟩) hi hcallKey
  have hsaved := h.saveActivity ha
  have hnext := h.next (h.left.of_same (h.left.toSound.saveActivity _) rfl rfl rfl)
    (h.right.of_same (h.right.toSound.saveActivity _) rfl rfl rfl) hsaved
  exact hcalled ▸ hsaved.trans (hnext.saveIntegration hr')

/-! ## Tasks and candidates -/

theorem cancelTasksOf {instanceId : String} (hside : side (.processInstance instanceId) = c) (time : Instant) :
    Together side c s (s.cancelTasksOf instanceId time) t (t.cancelTasksOf instanceId time) := by
  let picked (r : UserTask) : Bool := r.instanceId = some instanceId ∧ !r.status.isFinal
  have hchange (s : Store) : (s.cancelTasksOf instanceId time).content + (s.tasks.filter picked).map Entry.task =
      s.content + ((s.tasks.filter picked).map (cancelTask time)).map Entry.task := by
    have hperm := Table.map_perm picked (cancelTask time) s.tasks
    simp only [picked, decide_eq_true_eq] at hperm
    exact Store.content_exchange 1 rfl rfl hperm
  have hperm : (t.tasks.filter picked).Perm (s.tasks.filter picked) := by
    refine (List.perm_ext_iff_of_nodup (h.right.taskIds.of_map.filter _) (h.left.taskIds.of_map.filter _)).2 ?_
    intro r
    simp only [List.mem_filter, picked, decide_eq_true_eq]
    exact and_congr_left fun ⟨hr, _⟩ => (h.mem_tasks_iff hside hr).symm
  have hof : ∀ r ∈ s.tasks.filter picked, (Entry.task r).Of side c := by
    intro r hr
    simp only [List.mem_filter, picked, decide_eq_true_eq] at hr
    exact h.of_key (x := .task r) (k := .processInstance instanceId) hr.1 (by simp [Entry.keys, hr.2.1]) hside
  refine .of_content (hchange s) (hchange t) (hperm.map _) ((hperm.map _).map _) ?_ ?_
  · rwa [List.forall_mem_map]
  · rwa [List.map_map, List.forall_mem_map]

theorem withTask {r : UserTask} (hr : (Entry.task r).Of side c) (hnew : s.task? r.id = none) :
    Together side c s (s.withTask r) t (t.withTask r) := by
  have hid : side (.task r.id) = c := hr _ List.mem_cons_self
  refine .of_new (h.left.content_withTask hnew) (h.right.content_withTask (h.task?_eq hid ▸ hnew)) ?_ ?_
  · cases hi : r.instanceId with
    | none => simp [Store.variablesAround, hi]
    | some instanceId =>
      have hside : side (.processInstance instanceId) = c := hr _ (by simp [Entry.keys, hi])
      have hperm := (h.symm.listVariables_perm hside).map fun v => Entry.shown r.id v.instanceId v.name
      rw [List.map_map, List.map_map] at hperm
      rw [Store.variablesAround, Store.variablesAround, hi]
      exact hperm.cons _
  · intro x hx
    rcases List.mem_cons.1 hx with rfl | hx
    · exact hr
    · obtain ⟨v, hv, rfl⟩ := List.mem_map.1 hx
      cases hi : r.instanceId with
      | none => simp [Store.variablesAround, hi] at hv
      | some instanceId =>
        rw [Store.variablesAround, hi] at hv
        have hside : side (.processInstance v.instanceId) = c :=
          hr _ (by simp [Entry.keys, hi, (Store.mem_listVariables.1 hv).2])
        simp [Entry.Of, Entry.keys, hid, hside]

theorem adjoinCandidate {r : Candidate} (hr : (Entry.candidate r).Of side c) :
    Together side c s (s.withCandidates (Table.adjoin r s.candidates)) t
      (t.withCandidates (Table.adjoin r t.candidates)) := by
  by_cases hmem : r ∈ s.candidates
  · rw [Table.adjoin, Table.adjoin, if_pos hmem, if_pos ((h.mem_candidates hr).1 hmem)]
    exact .stay s t
  · have hadd (s : Store) (hmem : r ∉ s.candidates) : (s.withCandidates (Table.adjoin r s.candidates)).content +
        ([] : List Candidate).map Entry.candidate = s.content + [r].map Entry.candidate :=
      Store.content_exchange 5 rfl rfl (.of_eq ((List.append_nil _).trans (if_neg hmem)))
    exact .of_content (hadd s hmem) (hadd t (mt (h.mem_candidates hr).2 hmem)) (.refl _) (.refl _) (by simp)
      (by simpa using hr)

theorem removeCandidate {r : Candidate} (hr : (Entry.candidate r).Of side c) :
    Together side c s (s.withCandidates (Table.remove (· = r) s.candidates)) t
      (t.withCandidates (Table.remove (· = r) t.candidates)) := by
  have hchange (s : Store) : (s.withCandidates (Table.remove (· = r) s.candidates)).content +
      (s.candidates.filter (· = r)).map Entry.candidate = s.content + ([] : List Candidate).map Entry.candidate :=
    Store.content_exchange 5 rfl rfl ((Table.remove_perm (· = r) s.candidates).trans (by rw [List.append_nil]))
  have hperm : (t.candidates.filter (· = r)).Perm (s.candidates.filter (· = r)) := by
    refine (List.perm_ext_iff_of_nodup (h.right.candidates.filter _) (h.left.candidates.filter _)).2 fun d => ?_
    simp only [List.mem_filter, decide_eq_true_eq]
    exact and_congr_left fun hd => hd ▸ (h.mem_candidates hr).symm
  refine .of_content (hchange s) (hchange t) (hperm.map _) (.refl _) ?_ (by simp)
  rw [List.forall_mem_map]
  intro d hd
  obtain rfl : d = r := by simpa using (List.mem_filter.1 hd).2
  exact hr

/-! ## Variables -/

section TaskVariables

variable {v w : TaskVariable} (hside : side (.task v.taskId) = c) (hsame : w.anonymous = v.anonymous)
include hside hsame

theorem replaceTaskVariable (hv : v ∈ s.taskVariables) (hw : w ∈ t.taskVariables) {v' w' : TaskVariable}
    (hv' : v'.id = v.id) (hw' : w'.id = w.id) (hside' : v'.taskId = v.taskId) (hsame' : w'.anonymous = v'.anonymous) :
    Together side c s (s.replaceTaskVariable v') t (t.replaceTaskVariable w') :=
  .taskVariables [v] [v'] [w] [w']
    (Table.replace_perm h.left.taskVariableIds hv hv') (Table.replace_perm h.right.taskVariableIds hw hw')
    (by simp [hsame]) (by simp [hsame']) (by simpa using hside) (by simpa [hside'] using hside)

theorem deleteTaskVariable (hv : v ∈ s.taskVariables) (hw : w ∈ t.taskVariables) :
    Together side c s (s.deleteTaskVariable v.id) t (t.deleteTaskVariable w.id) :=
  .taskVariables [v] [] [w] []
    ((Table.remove_key_perm h.left.taskVariableIds hv).trans (.of_eq (List.append_nil _).symm))
    ((Table.remove_key_perm h.right.taskVariableIds hw).trans (.of_eq (List.append_nil _).symm))
    (by simp [hsame]) rfl (by simpa using hside) (by simp)

end TaskVariables

section Variables

variable {v w : ProcessVariable} (hside : side (.processInstance v.instanceId) = c)
  (hsame : w.anonymous = v.anonymous)
include hside hsame

theorem withShownVariable (hs' : (s.withVariable v).Sound) (ht' : (t.withVariable w).Sound) :
    Together side c s (s.withShownVariable v) t (t.withShownVariable w) := by
  obtain ⟨-, hi, hname, -⟩ := ProcessVariable.mk.inj hsame
  have hperm := (h.openTasksOf_perm hside).map fun r => Entry.shown r.id v.instanceId v.name
  refine .of_new (h.left.content_withShownVariable hs') (h.right.content_withShownVariable ht') ?_ ?_
  · rw [hsame, hi, hname]
    exact hperm.symm.cons _
  · intro x hx
    rcases List.mem_cons.1 hx with rfl | hx
    · exact .single rfl hside
    · obtain ⟨r, hr, rfl⟩ := List.mem_map.1 hx
      obtain ⟨hr, hri⟩ := Store.mem_tasksOf.1 (List.mem_filter.1 hr).1
      have hr := h.of_key (x := .task r) (k := .processInstance v.instanceId) hr (by simp [Entry.keys, hri]) hside
      have hid : side (.task r.id) = c := hr _ List.mem_cons_self
      simp [Entry.Of, Entry.keys, hid, hside]

theorem replaceVariable (hv : v ∈ s.processVariables) (hw : w ∈ t.processVariables) {v' w' : ProcessVariable}
    (hv' : v'.id = v.id) (hw' : w'.id = w.id) (hkey : Cache.variableKey v' = Cache.variableKey v)
    (hkey' : Cache.variableKey w' = Cache.variableKey w) (hsame' : w'.anonymous = v'.anonymous) :
    Together side c s (s.replaceVariable v') t (t.replaceVariable w') := by
  have hi : v'.instanceId = v.instanceId := congrArg Prod.fst hkey
  refine .of_content (h.left.content_replaceVariable hv hv' hkey) (h.right.content_replaceVariable hw hw' hkey')
    (.of_eq (by rw [hsame])) (.of_eq (by rw [hsame'])) ?_ ?_
  · rw [List.forall_mem_singleton]
    exact .single rfl hside
  · rw [List.forall_mem_singleton]
    exact .single rfl (hi ▸ hside)

/-- The same tasks show a variable in both. -/
theorem shownAs_perm (hv : v ∈ s.processVariables) (hw : w ∈ t.processVariables) :
    (t.shownAs w).Perm (s.shownAs v) := by
  obtain ⟨-, hi, hname, -⟩ := ProcessVariable.mk.inj hsame
  refine (List.perm_ext_iff_of_nodup (h.right.nodup_shownAs w) (h.left.nodup_shownAs v)).2 fun x => ?_
  rw [h.right.mem_shownAs hw, h.left.mem_shownAs hv, hi, hname]
  refine exists_congr fun taskId => and_congr_right ?_
  rintro rfl
  exact (h.holds_iff _ (k := .processInstance v.instanceId) (by simp [Entry.keys]) hside).symm

theorem withoutVariable (hv : v ∈ s.processVariables) (hw : w ∈ t.processVariables) :
    Together side c s (s.withoutVariable v.id) t (t.withoutVariable w.id) := by
  refine .of_out (h.left.content_withoutVariable hv) (h.right.content_withoutVariable hw) ?_ ?_
  · rw [hsame]
    exact (h.shownAs_perm hside hsame hv hw).cons _
  · intro x hx
    rcases List.mem_cons.1 hx with rfl | hx
    · exact .single rfl hside
    · obtain ⟨taskId, rfl, hx⟩ := (h.left.mem_shownAs hv).1 hx
      exact h.of_key hx (k := .processInstance v.instanceId) (by simp [Entry.keys]) hside

end Variables

/-! ## Instances that are deleted -/

section Deletion

variable {instanceId : String} (hside : side (.processInstance instanceId) = c)
include hside

/-- The tasks of an instance are of its class. -/
theorem side_of_ownsTask {taskId : String} (hown : s.ownsTask instanceId taskId = true) :
    side (.task taskId) = c := by
  simp only [Store.ownsTask, List.any_eq_true, decide_eq_true_eq] at hown
  obtain ⟨r, hr, hi, rfl⟩ := hown
  have hof := h.of_key (x := .task r) (k := .processInstance instanceId) hr (by simp [Entry.keys, hi]) hside
  exact hof _ List.mem_cons_self

/-- So is all that belongs to it or to them. -/
theorem of_owns {x : Entry} (hx : s.Holds x) (hown : s.owns instanceId x = true) : x.Of side c := by
  suffices hkey : ∃ k ∈ x.keys, side k = c by
    obtain ⟨k, hk, hc⟩ := hkey
    exact h.of_key hx hk hc
  cases x with
  | processInstance r | processVariable r | flow r =>
    obtain rfl := of_decide_eq_true hown
    exact ⟨_, List.mem_cons_self, hside⟩
  | task r =>
    have hi : r.instanceId = some instanceId := of_decide_eq_true hown
    exact ⟨.processInstance instanceId, by simp [Entry.keys, hi], hside⟩
  | taskVariable v => exact ⟨.task v.taskId, List.mem_cons_self, h.side_of_ownsTask hside hown⟩
  | shown taskId owner name =>
    rcases of_decide_eq_true hown with hown | rfl
    · exact ⟨.task taskId, List.mem_cons_self, h.side_of_ownsTask hside hown⟩
    · exact ⟨.processInstance owner, by simp [Entry.keys], hside⟩
  | candidate r =>
    obtain ⟨hrole, hown⟩ := of_decide_eq_true hown
    exact ⟨.task r.owner, by simp [Entry.keys, hrole], h.side_of_ownsTask hside hown⟩
  | activity r | integration r =>
    obtain rfl := of_decide_eq_true hown
    exact ⟨.processInstance r.instanceId, by simp [Entry.keys], hside⟩
  | definition | model | application => cases hown

theorem owns_eq : s.owns instanceId = t.owns instanceId := by
  funext x
  cases x <;> simp [Store.owns, h.ownsTask_eq hside]

/-- What an instance owns is the same in both. -/
theorem owned_eq : s.content.filter (fun x => s.owns instanceId x = true) =
    t.content.filter fun x => t.owns instanceId x = true := by
  have hpart {s t : Store} (h : Alike side c s t) : s.content.filter (fun x => s.owns instanceId x = true) =
      (s.part side c).filter fun x => s.owns instanceId x = true := by
    rw [Store.part, Multiset.filter_filter]
    refine Multiset.filter_congr fun x hx => (and_iff_left_of_imp fun hown => ?_).symm
    exact h.of_owns hside (h.left.mem_content.1 hx) hown
  rw [hpart h, hpart h.symm, h.part, h.owns_eq hside]

theorem withoutInstance : Together side c s (s.withoutInstance instanceId) t (t.withoutInstance instanceId) := by
  have hgone {s : Store} (hs : s.Sound) : (s.withoutInstance instanceId).content +
      s.content.filter (fun x => s.owns instanceId x = true) = s.content + 0 := by
    rw [hs.content_withoutInstance, add_comm, add_zero]
    simpa using Multiset.filter_add_not (fun x => s.owns instanceId x = true) s.content
  have hof : ∀ x ∈ s.content.filter (fun x => s.owns instanceId x = true), x.Of side c := by
    intro x hx
    obtain ⟨hx, hown⟩ := Multiset.mem_filter.1 hx
    exact h.of_owns hside (h.left.mem_content.1 hx) hown
  refine ⟨_, 0, ⟨hgone h.left.toSound, hof, by simp⟩, ⟨?_, hof, by simp⟩⟩
  rw [h.owned_eq hside]
  exact hgone h.right.toSound

end Deletion
end Alike
end FlowView

import FlowView.Proofs.Births
import FlowView.Proofs.Histories
/-!
# Keys of executions

An executed element and a call are found by the text of their key, and the key leaves out where one part
ends and the next begins. Executions with colons in their parts may share a key, and so may one without an
execution id and one whose execution id is empty. Then the events of both write to one row
(`executions_merged`). Every row keeps the execution that it was made for, and rows of other keys stay as
they are (`executions_apart`). So a row always has the key of its own execution, and a call names the element
of that key (`rows_keyed`), also where executions share one.
-/

namespace FlowView

open Projection

variable {u : Supply} {g : Registry} {e : Event} {s s' : Store} {k : EventKind}

/-- What tells one execution of an element, or one call, from another. -/
structure Execution where
  instanceId : String
  elementId : String
  executionId : Option String
  deriving DecidableEq, Repr

def Activity.execution (a : Activity) : Execution := ⟨a.instanceId, a.elementId, a.executionId⟩

def IntegrationCall.execution (c : IntegrationCall) : Execution := ⟨c.instanceId, c.clientId, c.executionId⟩

def ActivityPayload.execution (p : ActivityPayload) : Execution := ⟨p.instanceId, p.elementId, p.executionId⟩

def IntegrationPayload.execution (p : IntegrationPayload) : Execution :=
  ⟨p.instanceId, p.clientId, p.executionId⟩

/-- The execution that an event of a kind names. -/
def Event.execution? (e : Event) (k : EventKind) : Option Execution :=
  match k.family with
  | .activity => (e.payload : Except EventFault ActivityPayload).toOption.map ActivityPayload.execution
  | .integration => (e.payload : Except EventFault IntegrationPayload).toOption.map IntegrationPayload.execution
  | _ => none

namespace Execution

def key (x : Execution) : String := activityKey x.instanceId x.elementId x.executionId

/-- No colon is in the ids of the instance and the element, and an execution id that is there says
something. -/
structure Plain (x : Execution) : Prop where
  instanceId : ':' ∉ x.instanceId.toList
  elementId : ':' ∉ x.elementId.toList
  executionId : x.executionId ≠ some ""

/-- Up to the first colon, texts that are equal are equal part by part. -/
theorem append_colon_inj {as as' bs bs' : List Char} (h : as ++ ':' :: bs = as' ++ ':' :: bs') (ha : ':' ∉ as)
    (ha' : ':' ∉ as') : as = as' ∧ bs = bs' := by
  induction as generalizing as' with
  | nil =>
    cases as' with
    | nil => exact ⟨rfl, (List.cons.inj h).2⟩
    | cons c cs => exact absurd ((List.cons.inj h).1 ▸ List.mem_cons_self) ha'
  | cons a as ih =>
    cases as' with
    | nil => exact absurd ((List.cons.inj h).1 ▸ List.mem_cons_self) ha
    | cons c cs =>
      obtain ⟨rfl, hrest⟩ := List.cons.inj h
      obtain ⟨rfl, rfl⟩ := ih hrest (fun hm => ha (List.mem_cons_of_mem _ hm)) fun hm =>
        ha' (List.mem_cons_of_mem _ hm)
      exact ⟨rfl, rfl⟩

theorem toList_key (x : Execution) :
    x.key.toList = x.instanceId.toList ++ ':' :: (x.elementId.toList ++ ':' :: (x.executionId.getD "").toList) := by
  simp [key, activityKey]

/-- Plain executions are told apart by their keys. -/
theorem Plain.key_inj {x y : Execution} (hx : x.Plain) (hy : y.Plain) (h : x.key = y.key) : x = y := by
  have hlist := congrArg String.toList h
  rw [toList_key, toList_key] at hlist
  obtain ⟨hinstance, hrest⟩ := append_colon_inj hlist hx.instanceId hy.instanceId
  obtain ⟨helement, hexecution⟩ := append_colon_inj hrest hx.elementId hy.elementId
  have hid : x.executionId = y.executionId := by
    have hx' := hx.executionId
    have hy' := hy.executionId
    rw [String.toList_inj] at hexecution
    cases hxid : x.executionId <;> cases hyid : y.executionId <;> simp_all
  cases x
  cases y
  simp_all [String.toList_inj]

end Execution

/-- Without the last condition they are not: an empty execution id and none give one key. -/
example : (⟨"p1", "charge", none⟩ : Execution).key = (⟨"p1", "charge", some ""⟩ : Execution).key := by decide

/-! ## Rows and their keys -/

/-- Every executed element and every call has the key of its own execution. -/
structure Store.Keyed (s : Store) : Prop where
  activities : ∀ a ∈ s.activities, a.id = a.execution.key
  integrations : ∀ c ∈ s.integrations, c.id = c.execution.key

theorem Store.keyed_empty : Keyed {} := ⟨by simp, by simp⟩

theorem enter_execution (status : ActivityStatus) (time : Instant) (a : Activity) :
    (enter status time a).execution = a.execution := by
  cases status <;> rfl

theorem CallChange.element_execution {element : Instant → Activity → Activity}
    {change : IntegrationPayload → Instant → IntegrationCall → IntegrationCall} (hk : CallChange k element change)
    (time : Instant) (a : Activity) : (element time a).execution = a.execution := by
  cases hk with
  | requested => rfl
  | resultReceived | errorReceived => exact enter_execution _ time a

theorem CallChange.execution {element : Instant → Activity → Activity}
    {change : IntegrationPayload → Instant → IntegrationCall → IntegrationCall} (hk : CallChange k element change)
    (p : IntegrationPayload) (time : Instant) (c : IntegrationCall) :
    (change p time c).execution = c.execution := by
  cases hk <;> rfl

/-! ## What an event of an execution writes -/

/-- The row of a key is written, that of no other key is. A row that was there keeps its execution, a new
one has the one that the event names. -/
structure Wrote {α : Type} (id : α → String) (execution : α → Execution) (x : Execution)
    (rows rows' : List α) : Prop where
  others : ∀ r, id r ≠ x.key → (r ∈ rows' ↔ r ∈ rows)
  written : ∃ r ∈ rows', id r = x.key ∧
    execution r = (Table.lookup id x.key rows).elim x execution

namespace Wrote

variable {α : Type} {id : α → String} {execution : α → Execution} {x : Execution} {rows rows' : List α}

/-- Saving a row under the key, over one of its own execution, writes the row of the key. -/
theorem upsert {revise : α → α → α} (hn : (rows.map id).Nodup) {r : α} (hid : id r = x.key)
    (hrevise : ∀ y, id (revise y r) = id r)
    (hrow : execution ((Table.lookup id x.key rows).elim r (revise · r)) =
      (Table.lookup id x.key rows).elim x execution) :
    Wrote id execution x rows (Table.upsert id revise r rows) := by
  have hmem {z : α} := Table.mem_upsert (z := z) (fun y _ => hrevise y) hn
  rw [hid] at hmem
  refine ⟨fun z hz => ?_, _, hmem.2 (.inl rfl), ?_, hrow⟩
  · refine hmem.trans ⟨?_, fun h => .inr ⟨h, hz⟩⟩
    rintro (rfl | ⟨h, -⟩)
    · exfalso
      apply hz
      cases Table.lookup id x.key rows with
      | none => exact hid
      | some y => exact (hrevise y).trans hid
    · exact h
  · cases Table.lookup id x.key rows with
    | none => exact hid
    | some y => exact (hrevise y).trans hid

variable (h : Wrote id execution x rows rows')
include h

/-- The row that is found under the key afterwards has the execution of the one before. -/
theorem execution_eq (hn : (rows'.map id).Nodup) {r : α} (hr : r ∈ rows') (hid : id r = x.key) :
    execution r = (Table.lookup id x.key rows).elim x execution := by
  obtain ⟨w, hw, hwid, hwritten⟩ := h.written
  rwa [List.inj_on_of_nodup_map hn hr hw (hid.trans hwid.symm)]

/-- Rows go on having the keys of their executions. -/
theorem keyed (hn : (rows'.map id).Nodup) (hrows : ∀ r ∈ rows, id r = (execution r).key) :
    ∀ r ∈ rows', id r = (execution r).key := by
  intro r hr
  by_cases hid : id r = x.key
  · rw [h.execution_eq hn hr hid, hid]
    cases hold : Table.lookup id x.key rows with
    | none => rfl
    | some old =>
      obtain ⟨hmem, hkey⟩ := Table.lookup_mem hold
      exact hkey.symm.trans (hrows old hmem)
  · exact hrows r ((h.others r hid).1 hr)

/-- If the row of the key, where there is one, is of the execution that is written, then the rows of all
other executions stay. -/
theorem apart (hn : (rows'.map id).Nodup) (hrows : ∀ r ∈ rows, id r = (execution r).key)
    (hsame : ∀ r ∈ rows, (execution r).key = x.key → execution r = x) :
    (∀ r, execution r ≠ x → (r ∈ rows' ↔ r ∈ rows)) ∧ ∃ r ∈ rows', id r = x.key ∧ execution r = x := by
  have hfound : (Table.lookup id x.key rows).elim x execution = x := by
    cases hold : Table.lookup id x.key rows with
    | none => rfl
    | some old =>
      obtain ⟨hmem, hkey⟩ := Table.lookup_mem hold
      exact hsame old hmem ((hrows old hmem).symm.trans hkey)
  refine ⟨fun r hne => ?_, ?_⟩
  · by_cases hid : id r = x.key
    · constructor
      · exact fun hr => absurd ((h.execution_eq hn hr hid).trans hfound) hne
      · exact fun hr => absurd (hsame r hr ((hrows r hr).symm.trans hid)) hne
    · exact h.others r hid
  · obtain ⟨r, hr, hid, hexecution⟩ := h.written
    exact ⟨r, hr, hid, hexecution.trans hfound⟩

end Wrote

def Projection.ActivitySeed.execution (seed : ActivitySeed) : Execution :=
  ⟨seed.instanceId, seed.elementId, seed.executionId⟩

theorem Store.Sound.wrote_activity (hs : s.Sound) (e : Event) (seed : ActivitySeed)
    (hseed : seed.id = seed.execution.key) {f : Activity → Activity} (hid : ∀ a, (f a).id = a.id)
    (hf : ∀ a, (f a).execution = a.execution) :
    Wrote Activity.id Activity.execution seed.execution s.activities
      (s.saveActivity (f (refresh e seed (s.activity? seed.id)))).activities := by
  refine .upsert hs.activityIds (((hid _).trans (refresh_id e seed)).trans hseed) (fun _ => rfl) ?_
  rw [← hseed]
  change Activity.execution ((s.activity? seed.id).elim _ _) = (s.activity? seed.id).elim _ _
  cases hold : s.activity? seed.id with
  | none => exact hf _
  | some a =>
    have hexecution := congrArg Execution.executionId (hf (refresh e seed (some a)))
    simp_all [Activity.execution, Store.reviseActivity, refresh]

theorem Store.Sound.wrote_call (hs : s.Sound) (e : Event) (p : IntegrationPayload)
    {f : IntegrationCall → IntegrationCall} (hid : ∀ c, (f c).id = c.id)
    (hf : ∀ c, (f c).execution = c.execution) :
    Wrote IntegrationCall.id IntegrationCall.execution p.execution s.integrations
      (s.saveIntegration (f ((s.integration? p.callKey).getD (newIntegration e p)))).integrations := by
  refine .upsert hs.integrationIds ?_ (fun _ => rfl) ?_
  · rw [hid]
    cases hold : s.integration? p.callKey with
    | none => rfl
    | some c => exact (Table.lookup_mem hold).2
  change IntegrationCall.execution ((s.integration? p.callKey).elim _ _) = (s.integration? p.callKey).elim _ _
  cases hold : s.integration? p.callKey with
  | none => exact hf _
  | some c =>
    have hexecution := congrArg Execution.executionId (hf c)
    simp_all [IntegrationCall.execution, Store.reviseIntegration]

/-- A call writes the row of its element and its own. -/
theorem Store.Sound.wrote_withCall (hs : s.Sound) {element : Instant → Activity → Activity}
    {change : IntegrationPayload → Instant → IntegrationCall → IntegrationCall} (hk : CallChange k element change)
    (e : Event) (p : IntegrationPayload) :
    Wrote Activity.id Activity.execution p.execution s.activities (s.withCall e p element change).activities ∧
      Wrote IntegrationCall.id IntegrationCall.execution p.execution s.integrations
        (s.withCall e p element change).integrations := by
  let a := refresh e (integrationSeed p) (s.activity? p.elementKey)
  exact ⟨hs.wrote_activity e (integrationSeed p) rfl (fun a => (hk.element_keeps e.time a).1)
      (hk.element_execution e.time),
    (hs.saveActivity (element e.time a)).wrote_call e p
      (f := fun c => { change p e.time c with activityId := some a.id })
      (fun c => (hk.keeps p e.time c).1) (hk.execution p e.time)⟩

/-! ## Reachable tables -/

theorem Effect.keyed (hs : s.Sound) (hs' : s'.Sound) (h : Effect u e s k s') (hkeyed : s.Keyed) : s'.Keyed := by
  -- The effects that are not named write neither elements nor calls.
  cases h with
  | @definitionDeployed p hp =>
    obtain ⟨ds, ms, heq⟩ := s.withDefinition_eq e p
    rw [heq]
    exact ⟨hkeyed.activities, hkeyed.integrations⟩
  | instanceDeleted =>
    exact ⟨fun a ha => hkeyed.activities a (Table.mem_remove.1 ha).1,
      fun c hc => hkeyed.integrations c (Table.mem_remove.1 hc).1⟩
  | @activityEntered _ status p hk hp =>
    have hwrote := hs.wrote_activity e (activitySeed p) rfl (fun a => (enter_keeps status e.time a).1)
      (enter_execution status e.time)
    exact ⟨hwrote.keyed hs'.activityIds hkeyed.activities, hkeyed.integrations⟩
  | @callChanged _ element change p hk hp =>
    obtain ⟨hactivity, hcall⟩ := hs.wrote_withCall hk e p
    exact ⟨hactivity.keyed hs'.activityIds hkeyed.activities,
      hcall.keyed hs'.integrationIds hkeyed.integrations⟩
  | _ => exact ⟨hkeyed.activities, hkeyed.integrations⟩

theorem Store.Reachable.keyed (h : s.Reachable) : s.Keyed :=
  h.keeps Store.Keyed Store.keyed_empty fun hs hs' _ heffect => heffect.keyed hs.toSound hs'.toSound

/-- Every call names the element of its own key. -/
def Store.Attached (s : Store) : Prop := ∀ c ∈ s.integrations, c.activityId = some c.id

/-- A call that an event writes names the element of the key that it is written under. -/
theorem CallFate.attached {id : String} {old : Option IntegrationCall} {c : IntegrationCall}
    (h : CallFate e k id old (some c)) : old = some c ∨ c.activityId = some id := by
  cases h with
  | kept => exact .inl rfl
  | changed => exact .inr rfl

theorem Effect.attached (hs : s.Sound) (hs' : s'.Sound) (h : Effect u e s k s') (hattached : s.Attached) :
    s'.Attached := by
  intro c hc
  have hfound : s'.integration? c.id = some c := (Table.lookup_eq_some hs'.integrationIds).2 ⟨hc, rfl⟩
  have hfate := h.call_fate hs c.id
  rw [hfound] at hfate
  rcases hfate.attached with hold | hnew
  · exact hattached c (Table.lookup_mem hold).1
  · exact hnew

theorem Store.Reachable.attached (h : s.Reachable) : s.Attached :=
  h.keeps Store.Attached (List.forall_mem_nil _) fun hs hs' _ heffect => heffect.attached hs.toSound hs'.toSound

/-- In all tables that batches lead to, whatever the ids are, an executed element has the key of its own
execution, and a call has the key of its own and names the element of that key. -/
theorem rows_keyed (hs : s.Reachable) :
    (∀ a ∈ s.activities, a.id = activityKey a.instanceId a.elementId a.executionId) ∧
    ∀ c ∈ s.integrations, c.id = activityKey c.instanceId c.clientId c.executionId ∧
      c.activityId = some c.id := by
  have hkeyed := hs.keyed
  exact ⟨hkeyed.activities, fun c hc => ⟨hkeyed.integrations c hc, hs.attached c hc⟩⟩

namespace Sample

/-- An event about an element of an instance. -/
def ofElement (typeName elementId instanceId : String) : Event :=
  event typeName [("elementId", .str elementId), ("processInstanceId", .str instanceId)]

/-- An event about a call of an instance. -/
def ofCall (typeName clientId instanceId : String) : Event :=
  event typeName [("clientId", .str clientId), ("processInstanceId", .str instanceId)]

/-- The call of one instance has the key of the step of another. -/
def clashing : List Event :=
  [ofElement "ACTIVITY_STARTED" "b:c" "a", ofCall "INTEGRATION_ERROR_RECEIVED" "c" "a:b",
    ofElement "ACTIVITY_COMPLETED" "c" "a:b", ofCall "INTEGRATION_REQUESTED" "b:c" "a"]

end Sample

/-- Two instances write to the same two rows. The element was made for the one and the call for the other, and
both go on having the key that the executions share. -/
theorem rows_keyed_clashing :
    let s := (Registry.full.consume Supply.counting.backend Sample.clashing {}).2
    s.activities.map Activity.execution = [⟨"a", "b:c", none⟩] ∧
      s.integrations.map IntegrationCall.execution = [⟨"a:b", "c", none⟩] ∧
      (∀ a ∈ s.activities, a.id = activityKey a.instanceId a.elementId a.executionId) ∧
      ∀ c ∈ s.integrations, c.id = activityKey c.instanceId c.clientId c.executionId ∧
        c.activityId = some c.id := by
  intro s
  have hkeyed := rows_keyed (.consume .empty Registry.full Supply.counting Sample.clashing)
  exact ⟨by decide +kernel, by decide +kernel, hkeyed⟩

/-! ## Events of executions -/

theorem Projection.run_activityEntered (hs : s.Sound) (status : ActivityStatus) {p : ActivityPayload}
    (hp : e.payload = .ok p) :
    (activityEntered status e).run u.backend s =
      (.ok (), s.saveActivity (enter status e.time (refresh e (activitySeed p) (s.activity? p.key)))) := by
  have hpayload : (payload e : Program ActivityPayload).run u.backend s = (.ok p, s) := by
    rw [run_payload, hp]
    rfl
  rw [activityEntered, Program.run_bind_ok hpayload,
    Program.run_bind_ok (run_findOrMakeActivity u hs e (activitySeed p))]
  rfl

theorem Projection.run_changeIntegration (hs : s.Sound) (element : Instant → Activity → Activity)
    (change : IntegrationPayload → Instant → IntegrationCall → IntegrationCall) {p : IntegrationPayload}
    (hp : e.payload = .ok p) :
    (changeIntegration element change e).run u.backend s = (.ok (), s.withCall e p element change) := by
  have hpayload : (payload e : Program IntegrationPayload).run u.backend s = (.ok p, s) := by
    rw [run_payload, hp]
    rfl
  rw [changeIntegration, Program.run_bind_ok hpayload]
  exact run_withCall u hs e p element change

theorem ActivityChange.of_kind (h : k.family = .activity) :
    ∃ status, ActivityChange k status ∧ k.project = activityEntered status := by
  cases k <;> cases h
  · exact ⟨_, .started, rfl⟩
  · exact ⟨_, .completed, rfl⟩
  · exact ⟨_, .cancelled, rfl⟩

theorem CallChange.of_kind (h : k.family = .integration) :
    ∃ element change, CallChange k element change ∧ k.project = changeIntegration element change := by
  cases k <;> cases h
  · exact ⟨_, _, .requested, rfl⟩
  · exact ⟨_, _, .resultReceived, rfl⟩
  · exact ⟨_, _, .errorReceived, rfl⟩

/-- An event that names an execution is always handled, and writes under the key of the execution alone. -/
theorem Registry.consume_execution (hs : s.Sound) (u : Supply) (hg : g.handles e = true)
    (hk : e.kind? = some k) {x : Execution} (hx : e.execution? k = some x) :
    ∃ s', g.consume u.backend [e] s = (.ok ⟨1, 0⟩, s') ∧ s'.Sound ∧
      Wrote Activity.id Activity.execution x s.activities s'.activities ∧
      ((k.family = .activity ∧ s'.integrations = s.integrations) ∨
        (k.family = .integration ∧
          Wrote IntegrationCall.id IntegrationCall.execution x s.integrations s'.integrations)) := by
  rw [consume_one hs (program?_of_kind hk (mem_of_handles hg hk))]
  unfold Event.execution? at hx
  split at hx
  · rename_i hfamily
    obtain ⟨status, -, hproject⟩ := ActivityChange.of_kind hfamily
    cases hp : (e.payload : Except EventFault ActivityPayload) with
    | error fault => simp [hp, Except.toOption] at hx
    | ok p =>
      obtain rfl : p.execution = x := by simpa [hp, Except.toOption] using hx
      rw [hproject, run_activityEntered hs status hp]
      exact ⟨_, rfl, hs.saveActivity _, hs.wrote_activity e (activitySeed p) rfl
        (fun a => (enter_keeps status e.time a).1) (enter_execution status e.time), .inl ⟨hfamily, rfl⟩⟩
  · rename_i hfamily
    obtain ⟨element, change, hchange, hproject⟩ := CallChange.of_kind hfamily
    cases hp : (e.payload : Except EventFault IntegrationPayload) with
    | error fault => simp [hp, Except.toOption] at hx
    | ok p =>
      obtain rfl : p.execution = x := by simpa [hp, Except.toOption] using hx
      rw [hproject, run_changeIntegration hs element change hp]
      obtain ⟨hactivity, hcall⟩ := hs.wrote_withCall hchange e p
      exact ⟨_, rfl, (hs.saveActivity _).saveIntegration _, hactivity, .inr ⟨hfamily, hcall⟩⟩
  · cases hx

/-- The rows of all other executions stay as they are. The row of the element is of the execution, and so is
the row of the call if the event is of a call. -/
structure KeptApart (s s' : Store) (k : EventKind) (x : Execution) : Prop where
  activities : ∀ a, a.execution ≠ x → (a ∈ s'.activities ↔ a ∈ s.activities)
  integrations : ∀ c, c.execution ≠ x → (c ∈ s'.integrations ↔ c ∈ s.integrations)
  activity : ∃ a ∈ s'.activities, a.id = x.key ∧ a.execution = x
  integration : k.family = .integration → ∃ c ∈ s'.integrations, c.id = x.key ∧ c.execution = x

/-- An event of an execution writes the rows of its key and no others; the row that is there keeps the
execution that it was made for. So executions are kept apart if no row of another execution has the key,
and no other plain execution has the key of a plain one. -/
theorem executions_apart (hs : s.Reachable) (u : Supply) (hg : g.handles e = true) (hk : e.kind? = some k)
    {x : Execution} (hx : e.execution? k = some x) :
    ∃ s', g.consume u.backend [e] s = (.ok ⟨1, 0⟩, s') ∧ s.Keyed ∧ s'.Keyed ∧
      Wrote Activity.id Activity.execution x s.activities s'.activities ∧
      (k.family ≠ .integration → s'.integrations = s.integrations) ∧
      (k.family = .integration →
        Wrote IntegrationCall.id IntegrationCall.execution x s.integrations s'.integrations) ∧
      ((∀ a ∈ s.activities, a.execution.key = x.key → a.execution = x) →
        (∀ c ∈ s.integrations, c.execution.key = x.key → c.execution = x) → KeptApart s s' k x) ∧
      (x.Plain → (∀ a ∈ s.activities, a.execution.Plain) → (∀ c ∈ s.integrations, c.execution.Plain) →
        KeptApart s s' k x) := by
  obtain ⟨s', hconsume, hsound, hactivity, hcall⟩ := Registry.consume_execution hs.inv.toSound u hg hk hx
  have hkeyed := hs.keyed
  have hkeyed' : s'.Keyed := by
    have := (hs.consume g u [e]).keyed
    rwa [hconsume] at this
  have hapart (ha : ∀ a ∈ s.activities, a.execution.key = x.key → a.execution = x)
      (hc : ∀ c ∈ s.integrations, c.execution.key = x.key → c.execution = x) : KeptApart s s' k x := by
    obtain ⟨hrows, hrow⟩ := hactivity.apart hsound.activityIds hkeyed.activities ha
    rcases hcall with ⟨hfamily, hsame⟩ | ⟨-, hcall⟩
    · refine ⟨hrows, fun c _ => by rw [hsame], hrow, fun h => ?_⟩
      cases hfamily.symm.trans h
    · obtain ⟨hcalls, hwritten⟩ := hcall.apart hsound.integrationIds hkeyed.integrations hc
      exact ⟨hrows, hcalls, hrow, fun _ => hwritten⟩
  refine ⟨s', hconsume, hkeyed, hkeyed', hactivity, fun hne => ?_, fun hfamily => ?_, hapart, fun hplain ha hc => ?_⟩
  · rcases hcall with ⟨-, hsame⟩ | ⟨hfamily, -⟩
    · exact hsame
    · exact absurd hfamily hne
  · rcases hcall with ⟨hactivity, -⟩ | ⟨-, hcall⟩
    · cases hactivity.symm.trans hfamily
    · exact hcall
  · exact hapart (fun a h => (ha a h).key_inj hplain) fun c h => (hc c h).key_inj hplain

namespace Sample

/-- A payment is called for the first order, and a step of an instance with colons in its ids begins. -/
def payments : List Event :=
  [ofCall "INTEGRATION_REQUESTED" "pay" "p1", ofElement "ACTIVITY_STARTED" "b:c" "a"]

def paid : Store := (Registry.full.consume Supply.counting.backend payments {}).2

theorem paid_reachable : paid.Reachable := .consume .empty Registry.full Supply.counting payments

end Sample

/-- The answer to the same call of the second order leaves the rows of the first. -/
theorem executions_apart_answer :
    let e := Sample.ofCall "INTEGRATION_RESULT_RECEIVED" "pay" "p2"
    ∃ s', Registry.full.consume Supply.counting.backend [e] Sample.paid = (.ok ⟨1, 0⟩, s') ∧
      KeptApart Sample.paid s' .integrationResultReceived ⟨"p2", "pay", none⟩ := by
  intro e
  obtain ⟨s', hconsume, -, -, -, -, -, hapart, -⟩ := executions_apart Sample.paid_reachable Supply.counting
    (g := Registry.full) (e := e) (k := .integrationResultReceived) rfl rfl (x := ⟨"p2", "pay", none⟩) rfl
  exact ⟨s', hconsume, hapart (by decide +kernel) (by decide +kernel)⟩

/-- Executions that share a key are not kept apart: the end of one step ends the step of another instance. -/
theorem executions_merged :
    ¬∀ (s : Store) (_ : s.Reachable) (u : Supply) (g : Registry) (e : Event) (k : EventKind) (x : Execution)
      (s' : Store), g.handles e = true → e.kind? = some k → e.execution? k = some x →
        g.consume u.backend [e] s = (.ok ⟨1, 0⟩, s') → KeptApart s s' k x := by
  intro hapart
  have hkept := hapart Sample.paid Sample.paid_reachable Supply.counting Registry.full
    (Sample.ofElement "ACTIVITY_COMPLETED" "c" "a:b") .activityCompleted ⟨"a:b", "c", none⟩ _ rfl rfl rfl
    (Prod.ext rfl rfl)
  obtain ⟨a, ha, -, hexecution⟩ := hkept.activity
  revert a
  decide +kernel

end FlowView

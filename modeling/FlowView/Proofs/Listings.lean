import FlowView.Proofs.Bytes
import FlowView.Proofs.Chronology
import FlowView.Proofs.Dates
import FlowView.Proofs.Fields
import FlowView.Proofs.Origins
/-!
# Listings

The rows of an instance are listed in the order of the texts of their dates. That is the order of the dates
themselves in the years of four digits, as long as leap seconds are the last of their minutes, and in tables
that batches lead to they are (`Store.Reachable.regular`). So a listing has each row of the instance once, the
earlier ones first (`listings_chronological`).
-/

namespace FlowView

open Projection

variable {u : Supply} {e : Event} {s s' : Store} {k : EventKind} {id : String}

/-! ## Dates that order rows -/

/-- A leap second that a date falls in is the last of its minute. -/
def RegularDate (date : Option Instant) : Prop := ∀ t, date = some t → t.Regular

theorem Event.time_regular (e : Event) : RegularDate (some e.time) := by
  rintro _ ⟨⟩
  exact Instant.regular_of_isLeapSecond e.time_leap

theorem TaskPayload.created_regular {p : TaskPayload} (hp : e.payload = .ok p) : RegularDate p.createdDate := by
  obtain ⟨row, hdecode, rfl⟩ := e.payload_row hp
  obtain ⟨-, -, -, -, -, -, -, hcreated, -⟩ := Schema.decode_held hdecode
  exact fun t ht => (hcreated t ht).2

/-- Leap seconds are the last of their minutes in all dates that rows are listed by. -/
structure Store.Regular (s : Store) : Prop where
  tasks : ∀ t ∈ s.tasks, RegularDate t.createdDate
  activities : ∀ a ∈ s.activities, RegularDate a.startedDate
  flows : ∀ f ∈ s.flows, RegularDate f.date
  integrations : ∀ c ∈ s.integrations, RegularDate c.requestDate

theorem newTask_regular {p : TaskPayload} (hp : e.payload = .ok p) : RegularDate (newTask e p).createdDate := by
  have hdate : (newTask e p).createdDate = some (p.createdDate.getD e.time) := rfl
  rw [hdate]
  cases h : p.createdDate with
  | none =>
    rw [Option.getD_none]
    exact e.time_regular
  | some t =>
    rintro _ ⟨⟩
    exact TaskPayload.created_regular hp t h

theorem TaskFate.regular {t t' : UserTask} (h : TaskFate e k t (some t')) (ht : RegularDate t.createdDate) :
    RegularDate t'.createdDate := by
  have hsame : t'.createdDate = t.createdDate := congrArg (fun origin => origin.2.1) h.origin
  exact hsame ▸ ht

theorem refresh_regular (e : Event) (seed : ActivitySeed) {old : Option Activity}
    (hold : ∀ a, old = some a → RegularDate a.startedDate) : RegularDate (refresh e seed old).startedDate := by
  cases old with
  | none => exact e.time_regular
  | some a => exact hold a rfl

theorem enter_regular (e : Event) (status : ActivityStatus) {a : Activity} (ha : RegularDate a.startedDate) :
    RegularDate (enter status e.time a).startedDate := by
  cases status with
  | started => exact e.time_regular
  | _ => exact ha

theorem ActivityFate.regular {old : Option Activity} {a' : Activity} (h : ActivityFate e k id old (some a'))
    (hold : ∀ a, old = some a → RegularDate a.startedDate) : RegularDate a'.startedDate :=
  h.keeps hold (fun seed => refresh_regular e seed hold) fun status _ => enter_regular e status

theorem CallFate.regular {old : Option IntegrationCall} {c' : IntegrationCall}
    (h : CallFate e k id old (some c')) (hold : ∀ c, old = some c → RegularDate c.requestDate) :
    RegularDate c'.requestDate := by
  cases h with
  | kept => exact hold c' rfl
  | @changed element change p hk hp hid old =>
    have hbefore : RegularDate (old.getD (newIntegration e p)).requestDate := by
      cases old with
      | none => simp [RegularDate, newIntegration]
      | some c => exact hold c rfl
    cases hk with
    | requested => exact e.time_regular
    | resultReceived => exact hbefore
    | errorReceived => exact hbefore

theorem Effect.regular (hs : s.Sound) (hs' : s'.Sound) (h : Effect u e s k s') (hregular : s.Regular) :
    s'.Regular where
  tasks := h.tasks_all hs hs' hregular.tasks (fun _ hp => newTask_regular hp) fun _ _ ht hfate => hfate.regular ht
  activities := h.activities_all hs hs' hregular.activities fun _ _ _ hold hfate => hfate.regular hold
  flows := h.flows_all hregular.flows fun _ _ _ => e.time_regular
  integrations := h.calls_all hs hs' hregular.integrations fun _ _ _ hold hfate => hfate.regular hold

theorem Store.Reachable.regular (h : s.Reachable) : s.Regular := by
  refine h.keeps Store.Regular ⟨?_, ?_, ?_, ?_⟩ fun hs hs' _ heffect =>
    heffect.regular hs.toSound hs'.toSound
  all_goals exact List.forall_mem_nil _

/-! ## Rows in order -/

section Rows

variable {α : Type} {date : α → Option Instant} {key : α → String} {rows : List α} {a b : α}

/-- One row is listed before another: it has no date and the other has one, or both have none or the same one and
its key has the smaller bytes, or it has the earlier date, if both are of the years that have four digits. -/
def Precedes (date : α → Option Instant) (key : α → String) (a b : α) : Prop :=
  match date a, date b with
  | none, none => Text.utf8Bytes (key a) < Text.utf8Bytes (key b)
  | none, some _ => True
  | some _, none => False
  | some x, some y => (x = y → Text.utf8Bytes (key a) < Text.utf8Bytes (key b)) ∧
      (x ≠ y → x.PlainYear → y.PlainYear → x.Before y)

/-- A listing of the rows that are picked has each of them once, and they are in order. -/
structure Chronicle (date : α → Option Instant) (key : α → String) (picked : α → Prop) (rows listed : List α) :
    Prop where
  complete : ∀ r, r ∈ listed ↔ r ∈ rows ∧ picked r
  once : listed.Nodup
  ordered : listed.Pairwise (Precedes date key)

theorem precedes_of_dated (hb : RegularDate (date b)) (hne : key a ≠ key b)
    (h : Table.dated (fun r => (date r).map Instant.text) key a b = true) : Precedes date key a b := by
  have hkeys (hle : key a ≤ key b) : Text.utf8Bytes (key a) < Text.utf8Bytes (key b) :=
    Text.utf8Bytes_lt (hle.lt_of_ne hne)
  unfold Table.dated at h
  unfold Precedes
  cases hx : date a with
  | none =>
    cases hy : date b with
    | none =>
      simp only [hx, hy, Option.map_none, decide_eq_true_eq] at h
      exact hkeys h
    | some y => trivial
  | some x =>
    cases hy : date b with
    | none => simp [hx, hy] at h
    | some y =>
      simp only [hx, hy, Option.map_some, decide_eq_true_eq] at h
      refine ⟨?_, fun hdates hplain hplain' => ?_⟩
      · rintro rfl
        rcases h with hlt | ⟨-, hle⟩
        · exact absurd hlt (lt_irrefl _)
        · exact hkeys hle
      · rcases Instant.before_trichotomy x y with hbefore | heq | hafter
        · exact hbefore
        · exact absurd heq hdates
        · -- Then the text of the second date would be the smaller one.
          have htext := Instant.text_lt hplain' hplain (hb y hy) hafter
          rcases h with hlt | ⟨heq, -⟩
          · exact absurd hlt (lt_asymm htext)
          · exact absurd heq htext.ne'

theorem chronicle_sort (hn : (rows.map key).Nodup) (hregular : ∀ r ∈ rows, RegularDate (date r))
    (picked : α → Prop) [DecidablePred picked] :
    Chronicle date key picked rows
      (Table.sort (Table.dated (fun r => (date r).map Instant.text) key) (rows.filter fun r => picked r)) := by
  have hperm := Table.sort_perm (Table.dated (fun r => (date r).map Instant.text) key)
    (rows.filter fun r => picked r)
  have hkeys := (hperm.map key).nodup_iff.2 (hn.sublist (List.filter_sublist.map key))
  refine ⟨fun r => ?_, hkeys.of_map key, ?_⟩
  · rw [hperm.mem_iff, List.mem_filter, decide_eq_true_eq]
  · have hsorted := Table.pairwise_sort_dated (fun r => (date r).map Instant.text) key
      (rows.filter fun r => picked r)
    refine (hsorted.and (List.pairwise_map.1 hkeys)).imp_of_mem fun _ hb h => ?_
    have hmem := List.mem_of_mem_filter (hperm.mem_iff.1 hb)
    exact precedes_of_dated (hregular _ hmem) h.2 h.1

end Rows

/-- In all tables that batches lead to, the listings of an instance have each row of it once: its tasks, its
executed elements, its flows and its calls. Rows without a date come first, and rows of the years that have
four digits are in the order of their dates, whatever fractions those have and whether they are leap seconds.
Rows of one date are in the order of the bytes of their ids. -/
theorem listings_chronological (hs : s.Reachable) (instanceId : String) :
    (∃ ts, s.listTasks instanceId = .ok ts ∧
      Chronicle UserTask.createdDate UserTask.id (·.instanceId = some instanceId) s.tasks ts) ∧
    (∃ as, s.listActivities instanceId = .ok as ∧
      Chronicle Activity.startedDate Activity.id (·.instanceId = instanceId) s.activities as) ∧
    Chronicle SequenceFlow.date SequenceFlow.id (·.instanceId = instanceId) s.flows (s.listFlows instanceId) ∧
    ∃ cs, s.listIntegrations instanceId = .ok cs ∧
      Chronicle IntegrationCall.requestDate IntegrationCall.id (·.instanceId = instanceId) s.integrations cs := by
  have hsound := hs.inv.toSound
  have hregular := hs.regular
  exact ⟨⟨_, hsound.readable _ _ _, chronicle_sort hsound.taskIds hregular.tasks _⟩,
    ⟨_, hsound.readable _ _ _, chronicle_sort hsound.activityIds hregular.activities _⟩,
    chronicle_sort hsound.flowIds hregular.flows _,
    ⟨_, hsound.readable _ _ _, chronicle_sort hsound.integrationIds hregular.integrations _⟩⟩

namespace Sample

def createdOn (id date : String) : Event :=
  event "TASK_CREATED" [("id", .str id), ("processInstanceId", .str "p1"), ("createdDate", .str date)]

def called (typeName clientId : String) : Event :=
  event typeName [("processInstanceId", .str "p1"), ("clientId", .str clientId)]

/-- Tasks about a new year that a leap second comes before, two of them of one date, and two calls, of which
one was not requested before its result came. -/
def newYear : List Event := [
  createdOn "t1" "2017-01-01T00:00:00Z", createdOn "t2" "2016-12-31T23:59:60.5Z",
  createdOn "t3" "2016-12-31T23:59:59.000000001Z", createdOn "t5" "2017-01-01T00:59:59+01:00",
  createdOn "t4" "2016-12-31T23:59:59.000Z", createdOn "t6" "2016-12-31T23:59:59.999999Z",
  called "INTEGRATION_REQUESTED" "mail", called "INTEGRATION_RESULT_RECEIVED" "print"]

end Sample

/-- The leap second is listed between the second before it and the new year. -/
theorem listings_chronological_newYear :
    let s := (Registry.full.consume Supply.counting.backend Sample.newYear {}).2
    ∃ ts cs, s.listTasks "p1" = .ok ts ∧ s.listIntegrations "p1" = .ok cs ∧
      Chronicle UserTask.createdDate UserTask.id (·.instanceId = some "p1") s.tasks ts ∧
      Chronicle IntegrationCall.requestDate IntegrationCall.id (·.instanceId = "p1") s.integrations cs ∧
      ts.map UserTask.id = ["t4", "t5", "t3", "t6", "t2", "t1"] ∧
      cs.map IntegrationCall.id = ["p1:print:", "p1:mail:"] := by
  intro s
  obtain ⟨⟨ts, hts, hinTime⟩, -, -, cs, hcs, hinTime'⟩ :=
    listings_chronological (.consume .empty Registry.full Supply.counting Sample.newYear) "p1"
  have hids : ((s.listTasks "p1").toOption.map (·.map UserTask.id),
      (s.listIntegrations "p1").toOption.map (·.map IntegrationCall.id)) =
      (some ["t4", "t5", "t3", "t6", "t2", "t1"], some ["p1:print:", "p1:mail:"]) := by decide +kernel
  rw [show s.listTasks "p1" = .ok ts from hts, show s.listIntegrations "p1" = .ok cs from hcs] at hids
  simp only [Except.toOption, Option.map_some, Prod.mk.injEq, Option.some.injEq] at hids
  exact ⟨ts, cs, hts, hcs, hinTime, hinTime', hids⟩

end FlowView

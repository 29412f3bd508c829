import FlowView.Proofs.Births
import FlowView.Proofs.Histories
/-!
# Dates

The dates of a row fit its status: an instance that has ended has the date of its end, a completed task
the time it took, and every call what goes with the last that was heard of it. No event breaks this
(`Effect.dated`), so it holds of all tables that batches lead to (`dates_agree`).
-/

namespace FlowView

open Projection

variable {u : Supply} {e : Event} {s s' : Store} {k : EventKind}

/-! ## Differences of instants -/

namespace Instant

/-- The nanoseconds since 1970, without counting leap seconds. -/
def sinceEpoch (t : Instant) : Int := t.seconds * nanosPerSecond + t.nanos

variable {later earlier : Instant}

theorem nanosSince_eq (hl : later.isLeapSecond = false) (he : earlier.isLeapSecond = false) :
    later.nanosSince earlier = later.sinceEpoch - earlier.sinceEpoch := by
  have hleap : leapBetween later earlier = 0 := by simp [leapBetween, hl, he]
  unfold nanosSince sinceEpoch nanosPerSecond
  omega

theorem leapBetween_bounds (later earlier : Instant) :
    -1 ≤ leapBetween later earlier ∧ leapBetween later earlier ≤ 1 := by
  unfold leapBetween
  split
  · decide
  · split <;> decide

/-- Any two instants are fewer milliseconds apart than 64 bits hold. -/
theorem millisSince_bounds (later earlier : Instant) :
    Int64.minValue.toInt ≤ later.millisSince earlier ∧ later.millisSince earlier ≤ Int64.maxValue.toInt := by
  have hnanos : (later.nanosSince earlier).natAbs < 1000000 * 9223372036854775808 := by
    have hleap := leapBetween_bounds later earlier
    have hrange (t : Instant) : t.nanos < 2000000000 ∧ -8334601228800 ≤ t.seconds ∧ t.seconds ≤ 8210266876799 :=
      ⟨t.nanos_lt, t.low, t.high⟩
    have hlater := hrange later
    have hearlier := hrange earlier
    unfold nanosSince nanosPerSecond
    omega
  have hmillis : (later.millisSince earlier).natAbs = (later.nanosSince earlier).natAbs / 1000000 :=
    Int.natAbs_tdiv _ _
  have hmin : Int64.minValue.toInt = -9223372036854775808 := by decide
  have hmax : Int64.maxValue.toInt = 9223372036854775807 := by decide
  omega

end Instant

/-- The timestamp of an event is no leap second. -/
theorem Event.time_leap (e : Event) : e.time.isLeapSecond = false := by
  have hnanos : (e.timestamp % 1000).toNat * 1000000 < Instant.nanosPerSecond := by
    unfold Instant.nanosPerSecond
    omega
  unfold time Instant.ofMillis? Instant.ofSeconds?
  split
  · simpa [Instant.isLeapSecond] using hnanos
  · rfl

/-! ## What fits -/

/-- An instance has the date of its end exactly if it has ended. -/
structure ProcessInstance.Dated (r : ProcessInstance) : Prop where
  ended : r.completedDate.isSome = true ↔ r.status = .completed ∨ r.status = .cancelled
  suspended : r.status = .suspended → r.suspendedDate.isSome = true

/-- A task has a creation date. With the date of its completion comes the time from one to the other. -/
structure UserTask.Dated (t : UserTask) : Prop where
  created : t.createdDate.isSome = true
  timed : t.duration.isSome = true ↔ t.completedDate.isSome = true
  completed : t.completedDate.isSome = true → t.status = .completed
  duration : ∀ created ended, t.createdDate = some created → t.completedDate = some ended →
    ended.isLeapSecond = false ∧ t.duration = some (ended.millisSince created)

/-- An executed element has a start, and the end that its status tells of. -/
structure Activity.Dated (a : Activity) : Prop where
  started : a.startedDate.isSome = true
  completed : a.status = .completed → a.completedDate.isSome = true
  cancelled : a.status = .cancelled → a.cancelledDate.isSome = true

/-- A call has what belongs to its status, and no message that is too long. -/
structure IntegrationCall.Dated (c : IntegrationCall) : Prop where
  requested : c.status = .requested → c.requestDate.isSome = true ∧ c.inbound.isSome = true
  received : c.status = .resultReceived → c.resultDate.isSome = true ∧ c.outbound.isSome = true
  refused : c.status = .errorReceived → c.errorDate.isSome = true ∧ c.stackTrace.isSome = true
  message : ∀ text, c.errorMessage = some text → text.length ≤ Value.messageLimit

/-- The dates fit in all rows that have statuses. -/
structure Store.Dated (s : Store) : Prop where
  instances : ∀ r ∈ s.instances, r.Dated
  tasks : ∀ t ∈ s.tasks, t.Dated
  activities : ∀ a ∈ s.activities, a.Dated
  integrations : ∀ c ∈ s.integrations, c.Dated

/-! ## What new rows and changes do -/

theorem newInstance_dated (e : Event) (p : InstancePayload) : (newInstance e p).Dated where
  ended := by simp [newInstance]
  suspended h := by cases h

theorem InstanceFate.dated {r r' : ProcessInstance} (h : InstanceFate e k r (some r')) (hr : r.Dated) :
    r'.Dated := by
  cases h with
  | kept => exact hr
  | completed _ _ _ hopen => exact ⟨by simp [complete], by simp [complete]⟩
  | @changed passes change p hk hp hid hpass =>
    -- An instance that runs or rests has not ended, so it has no date of its end to lose.
    have hopen (hfinal : r.status.isFinal = false) : ¬r.completedDate.isSome = true := by
      rw [hr.ended]
      rintro (h | h) <;> simp [h, InstanceStatus.isFinal] at hfinal
    cases hk with
    | started => exact ⟨by simpa [start] using hopen hpass, by simp [start]⟩
    | updated => exact ⟨hr.ended, hr.suspended⟩
    | suspended => exact ⟨by simpa [suspend] using hopen hpass, fun _ => rfl⟩
    | resumed => exact ⟨by simpa [resume] using hopen hpass, by simp [resume]⟩
    | cancelled => exact ⟨by simp [cancel], by simp [cancel]⟩

theorem newTask_dated (e : Event) (p : TaskPayload) : (newTask e p).Dated where
  created := rfl
  timed := Iff.rfl
  completed h := by cases h
  duration _ _ _ h := by cases h

theorem UserTask.Dated.not_completed {t : UserTask} (ht : t.Dated) (hopen : t.status.isFinal = false) :
    t.completedDate = none := by
  cases h : t.completedDate with
  | none => rfl
  | some ended =>
    have hcompleted : t.status = .completed := ht.completed (by rw [h]; rfl)
    rw [hcompleted] at hopen
    cases hopen

/-- A task without a completion keeps fitting while its creation, completion and duration stay. -/
theorem UserTask.Dated.unfinished {t t' : UserTask} (ht : t.Dated) (hnone : t.completedDate = none)
    (hcreated : t'.createdDate = t.createdDate) (hcompleted : t'.completedDate = t.completedDate)
    (hduration : t'.duration = t.duration) : t'.Dated where
  created := hcreated ▸ ht.created
  timed := by rw [hduration, hcompleted]; exact ht.timed
  completed h := by rw [hcompleted, hnone] at h; cases h
  duration _ _ _ h := by rw [hcompleted, hnone] at h; cases h

theorem completeTask_dated (e : Event) (p : TaskPayload) {t : UserTask} (ht : t.Dated) :
    (completeTask p e.time t).Dated where
  created := ht.created
  timed := by simpa [completeTask] using ht.created
  completed _ := rfl
  duration created ended hcreated hended := by
    cases hended
    have hcreated : t.createdDate = some created := hcreated
    exact ⟨e.time_leap, by simp [completeTask, hcreated]⟩

theorem TaskFate.dated {t t' : UserTask} (h : TaskFate e k t (some t')) (ht : t.Dated) : t'.Dated := by
  cases h with
  | kept => exact ht
  | cancelled _ _ _ hopen => exact ht.unfinished (ht.not_completed hopen) rfl rfl rfl
  | changed hk _ _ hpass =>
    cases hk with
    | updated => exact ⟨ht.created, ht.timed, ht.completed, ht.duration⟩
    | completed => exact completeTask_dated e _ ht
    | _ => exact ht.unfinished (ht.not_completed hpass) rfl rfl rfl

theorem refresh_dated (e : Event) (seed : ActivitySeed) {old : Option Activity}
    (hold : ∀ a, old = some a → a.Dated) : (refresh e seed old).Dated := by
  cases old with
  | none => exact ⟨rfl, by simp [refresh, newActivity], by simp [refresh, newActivity]⟩
  | some a => exact ⟨(hold a rfl).started, (hold a rfl).completed, (hold a rfl).cancelled⟩

theorem enter_dated (status : ActivityStatus) (time : Instant) {a : Activity} (ha : a.Dated) :
    (enter status time a).Dated := by
  cases status with
  | started => exact ⟨rfl, by simp [enter], by simp [enter]⟩
  | completed => exact ⟨ha.started, fun _ => rfl, by simp [enter]⟩
  | cancelled => exact ⟨ha.started, by simp [enter], fun _ => rfl⟩
  | error => exact ⟨ha.started, by simp [enter], by simp [enter]⟩

theorem ActivityFate.dated {id : String} {old : Option Activity} {a' : Activity}
    (h : ActivityFate e k id old (some a')) (hold : ∀ a, old = some a → a.Dated) : a'.Dated :=
  h.keeps hold (fun seed => refresh_dated e seed hold) fun status _ => enter_dated status e.time

theorem length_shorten (message : String) : (Value.shorten message).length ≤ Value.messageLimit := by
  simp [Value.shorten]

theorem CallFate.dated {id : String} {old : Option IntegrationCall} {c' : IntegrationCall}
    (h : CallFate e k id old (some c')) (hold : ∀ c, old = some c → c.Dated) : c'.Dated := by
  cases h with
  | kept => exact hold c' rfl
  | @changed element change p hk hp hid old =>
    have hmessage : ∀ text, (old.getD (newIntegration e p)).errorMessage = some text →
        text.length ≤ Value.messageLimit := by
      cases old with
      | none => simp [newIntegration]
      | some c => exact (hold c rfl).message
    cases hk with
    | requested => exact ⟨fun _ => ⟨rfl, rfl⟩, by simp [request], by simp [request], hmessage⟩
    | resultReceived => exact ⟨by simp [receive], fun _ => ⟨rfl, rfl⟩, by simp [receive], hmessage⟩
    | errorReceived =>
      refine ⟨by simp [refuse], by simp [refuse], fun _ => ⟨rfl, rfl⟩, fun text htext => ?_⟩
      obtain ⟨message, -, rfl⟩ := Option.map_eq_some_iff.1 htext
      exact length_shorten message

/-! ## Tables -/

theorem Effect.dated (hs : s.Sound) (hs' : s'.Sound) (h : Effect u e s k s') (hdated : s.Dated) :
    s'.Dated where
  instances := h.instances_all hs hs' hdated.instances (fun p _ => newInstance_dated e p)
    fun _ _ hr hfate => hfate.dated hr
  tasks := h.tasks_all hs hs' hdated.tasks (fun p _ => newTask_dated e p)
    fun _ _ ht hfate => hfate.dated ht
  activities := h.activities_all hs hs' hdated.activities fun _ _ _ hold hfate => hfate.dated hold
  integrations := h.calls_all hs hs' hdated.integrations fun _ _ _ hold hfate => hfate.dated hold

theorem Store.Reachable.dated (h : s.Reachable) : s.Dated := by
  refine h.keeps Store.Dated ⟨?_, ?_, ?_, ?_⟩ fun hs hs' _ heffect =>
    heffect.dated hs.toSound hs'.toSound
  all_goals exact List.forall_mem_nil _

/-- In all tables that batches lead to, the dates fit the statuses. A completed task took the time from its
creation to its completion in milliseconds, a part of one left off; unless the creation lies in a leap
second, that is the difference of the two instants. The number has 64 bits, whatever timestamp the
completion has, in the calendar or beyond it, and whatever date the creation. -/
theorem dates_agree (hs : s.Reachable) :
    s.Dated ∧
    (∀ t ∈ s.tasks, ∀ created ended, t.createdDate = some created → t.completedDate = some ended →
      created.isLeapSecond = false →
        t.duration = some ((ended.sinceEpoch - created.sinceEpoch).tdiv 1000000)) ∧
    (∀ t ∈ s.tasks, ∀ d, t.duration = some d → Int64.minValue.toInt ≤ d ∧ d ≤ Int64.maxValue.toInt) ∧
    ∀ (e : Event) (created : Instant), (Instant.ofMillis? e.timestamp = none → e.time = .epoch) ∧
      Int64.minValue.toInt ≤ e.time.millisSince created ∧ e.time.millisSince created ≤ Int64.maxValue.toInt := by
  have hdated := hs.dated
  refine ⟨hdated, fun t ht created ended hcreated hended hleap => ?_, fun t ht d hd => ?_,
    fun e created => ⟨fun hnone => by rw [Event.time, hnone]; rfl, Instant.millisSince_bounds _ _⟩⟩
  · obtain ⟨hended, hduration⟩ := (hdated.tasks t ht).duration created ended hcreated hended
    rw [hduration, Instant.millisSince, Instant.nanosSince_eq hended hleap]
  · -- What has a duration has both dates, and the duration is the time between them.
    have htask := hdated.tasks t ht
    obtain ⟨created, hcreated⟩ := Option.isSome_iff_exists.1 htask.created
    obtain ⟨ended, hended⟩ := Option.isSome_iff_exists.1 (htask.timed.1 (by rw [hd]; rfl))
    obtain ⟨-, hduration⟩ := htask.duration created ended hcreated hended
    cases hd.symm.trans hduration
    exact Instant.millisSince_bounds ended created

namespace Sample

/-- A task that was created a little after it was completed, and one that was completed beyond the
calendar. -/
def early : List Event := [
  event "TASK_CREATED" [("id", .str "t1"), ("createdDate", .str "2023-11-14T22:13:20.001900Z")],
  event "TASK_COMPLETED" [("id", .str "t1")], event "TASK_CREATED" [("id", .str "t2")],
  { event "TASK_COMPLETED" [("id", .str "t2")] with timestamp := 9223372036854775807 }]

end Sample

/-- The parts of milliseconds are left off towards zero; a completion beyond the calendar counts as one in
1970. -/
theorem dates_agree_early :
    let s := (Registry.full.consume Supply.counting.backend Sample.early {}).2
    s.Dated ∧ (s.task? "t1").bind UserTask.duration = some (-1) ∧
      (s.task? "t2").bind UserTask.duration = some (-1700000000000) := by
  intro s
  obtain ⟨hdated, -⟩ := dates_agree (.consume .empty Registry.full Supply.counting Sample.early)
  exact ⟨hdated, by decide +kernel, by decide +kernel⟩

end FlowView

import FlowView.Proofs.Executions
/-!
# Names and types of executed elements

An event of an executed element or of a call refreshes the row of the element: its name and its type become
those that the payload carries, and what the payload leaves out stays (`refreshed`). A call without a type
is the exception. It makes a service task of an element that had another type (`type_lost`).
-/

namespace FlowView

open Projection

variable {u : Supply} {g : Registry} {e : Event} {s : Store} {k : EventKind}

/-- What an event carries of an executed element: its key, and its name and type if it has them. -/
structure Carried where
  key : String
  name : Option String
  type : Option String
  deriving DecidableEq, Repr

def ActivityPayload.carried (p : ActivityPayload) : Carried := ⟨p.key, p.activityName, p.activityType⟩

def IntegrationPayload.carried (p : IntegrationPayload) : Carried := ⟨p.elementKey, p.clientName, p.clientType⟩

/-- What an event of a kind carries of an executed element. -/
def Event.carried? (e : Event) (k : EventKind) : Option Carried :=
  match k.family with
  | .activity => (e.payload : Except EventFault ActivityPayload).toOption.map ActivityPayload.carried
  | .integration => (e.payload : Except EventFault IntegrationPayload).toOption.map IntegrationPayload.carried
  | _ => none

/-! ## What a change of status leaves -/

theorem enter_named (status : ActivityStatus) (time : Instant) (a : Activity) :
    (enter status time a).name = a.name ∧ (enter status time a).type = a.type := by
  cases status <;> exact ⟨rfl, rfl⟩

theorem CallChange.element_named {element : Instant → Activity → Activity}
    {change : IntegrationPayload → Instant → IntegrationCall → IntegrationCall}
    (hk : CallChange k element change) (time : Instant) (a : Activity) :
    (element time a).name = a.name ∧ (element time a).type = a.type := by
  cases hk with
  | requested => exact ⟨rfl, rfl⟩
  | resultReceived => exact enter_named _ time a
  | errorReceived => exact enter_named _ time a

/-! ## One event -/

section Handled

variable (hs : s.Sound) (u : Supply) (hg : g.handles e = true) (hk : e.kind? = some k)
include hs hg hk

/-- An element that is there is found again with the name and the type of the payload. -/
theorem Registry.consume_element (hfamily : k.family = .activity) {p : ActivityPayload} (hp : e.payload = .ok p)
    {a : Activity} (ha : s.activity? p.key = some a) :
    ∃ s' a', g.consume u.backend [e] s = (.ok ⟨1, 0⟩, s') ∧ s'.activity? p.key = some a' ∧
      a'.name = p.activityName.or a.name ∧ a'.type = p.activityType.or a.type := by
  obtain ⟨status, -, hproject⟩ := ActivityChange.of_kind hfamily
  have hprogram : g.program? e = some (activityEntered status e) := by
    rw [program?_of_kind hk (mem_of_handles hg hk), hproject]
  have hfound := activity?_changed hs e (activitySeed p) (enter_keeps status e.time)
  rw [show (activitySeed p).id = p.key from rfl, ha] at hfound
  obtain ⟨hname, htype⟩ := enter_named status e.time (refresh e (activitySeed p) (some a))
  rw [consume_one hs hprogram, run_activityEntered hs status hp, ha]
  exact ⟨_, _, rfl, hfound, hname, htype⟩

/-- The element of a call is found again with the name of the payload, and with its type or as a service
task. -/
theorem Registry.consume_call (hfamily : k.family = .integration) {p : IntegrationPayload}
    (hp : e.payload = .ok p) {a : Activity} (ha : s.activity? p.elementKey = some a) :
    ∃ s' a', g.consume u.backend [e] s = (.ok ⟨1, 0⟩, s') ∧ s'.activity? p.elementKey = some a' ∧
      a'.name = p.clientName.or a.name ∧ a'.type = some (p.clientType.getD serviceTaskType) := by
  obtain ⟨element, change, hchange, hproject⟩ := CallChange.of_kind hfamily
  have hprogram : g.program? e = some (changeIntegration element change e) := by
    rw [program?_of_kind hk (mem_of_handles hg hk), hproject]
  have hfound := (withCall_found hchange e p hs).1
  rw [ha] at hfound
  obtain ⟨hname, htype⟩ := hchange.element_named e.time (refresh e (integrationSeed p) (some a))
  rw [consume_one hs hprogram, run_changeIntegration hs element change hp]
  exact ⟨_, _, rfl, hfound, hname, htype⟩

end Handled

/-- An event of an element that is there is always handled. The name becomes the one that the event carries
and stays without one. So does the type, unless the event is of a call: that makes a service task of the
element if it carries no type. -/
theorem refreshed (hs : s.Reachable) (u : Supply) (hg : g.handles e = true) (hk : e.kind? = some k)
    {c : Carried} (hc : e.carried? k = some c) {a : Activity} (ha : s.activity? c.key = some a) :
    ∃ s' a', g.consume u.backend [e] s = (.ok ⟨1, 0⟩, s') ∧ s'.activity? c.key = some a' ∧
      a'.name = c.name.or a.name ∧
      (k.family = .activity ∨ c.type.isSome = true → a'.type = c.type.or a.type) ∧
      (k.family = .integration → c.type = none → a'.type = some serviceTaskType) := by
  unfold Event.carried? at hc
  split at hc
  · rename_i hfamily
    cases hp : (e.payload : Except EventFault ActivityPayload) with
    | error fault => simp [hp, Except.toOption] at hc
    | ok p =>
      obtain rfl : p.carried = c := by simpa [hp, Except.toOption] using hc
      obtain ⟨s', a', hconsume, ha', hname, htype⟩ :=
        Registry.consume_element hs.inv.toSound u hg hk hfamily hp ha
      exact ⟨s', a', hconsume, ha', hname, fun _ => htype, fun h => by cases hfamily.symm.trans h⟩
  · rename_i hfamily
    cases hp : (e.payload : Except EventFault IntegrationPayload) with
    | error fault => simp [hp, Except.toOption] at hc
    | ok p =>
      obtain rfl : p.carried = c := by simpa [hp, Except.toOption] using hc
      obtain ⟨s', a', hconsume, ha', hname, htype⟩ :=
        Registry.consume_call hs.inv.toSound u hg hk hfamily hp ha
      refine ⟨s', a', hconsume, ha', hname, fun h => ?_, fun _ hnone => ?_⟩
      · rcases h with h | h
        · cases hfamily.symm.trans h
        · obtain ⟨type, hcarried⟩ := Option.isSome_iff_exists.1 h
          rw [htype, show p.clientType = some type from hcarried, hcarried]
          rfl
      · rw [htype, show p.clientType = none from hnone]
        rfl
  · cases hc

namespace Sample

/-- A step that sends a message begins. -/
def sending : List Event :=
  [event "ACTIVITY_STARTED" [("elementId", .str "pay"), ("processInstanceId", .str "p1"),
    ("activityName", .str "Pay"), ("activityType", .str "sendTask")]]

def sent : Store := (Registry.full.consume Supply.counting.backend sending {}).2

theorem sent_reachable : sent.Reachable := .consume .empty Registry.full Supply.counting sending

end Sample

/-- A call of the step with a type of its own gives it the type and leaves its name. -/
theorem refreshed_sent :
    let e := Sample.event "INTEGRATION_REQUESTED"
      [("clientId", .str "pay"), ("processInstanceId", .str "p1"), ("clientType", .str "connector")]
    ∃ s' a', Registry.full.consume Supply.counting.backend [e] Sample.sent = (.ok ⟨1, 0⟩, s') ∧
      s'.activity? "p1:pay:" = some a' ∧ a'.name = some "Pay" ∧ a'.type = some "connector" := by
  intro e
  obtain ⟨a, ha, hname⟩ : ∃ a, Sample.sent.activity? "p1:pay:" = some a ∧ a.name = some "Pay" :=
    ⟨_, rfl, rfl⟩
  obtain ⟨s', a', hconsume, ha', hname', htype, -⟩ := refreshed Sample.sent_reachable Supply.counting
    (g := Registry.full) (e := e) (k := .integrationRequested) (c := ⟨"p1:pay:", none, some "connector"⟩)
    (by decide +kernel) (by decide +kernel) (by decide +kernel) ha
  exact ⟨s', a', hconsume, ha', hname'.trans hname, htype (.inr rfl)⟩

/-- A call that carries no type overwrites the type of an element that has one. -/
theorem type_lost :
    ¬∀ (s : Store) (_ : s.Reachable) (u : Supply) (g : Registry) (e : Event) (k : EventKind) (c : Carried)
      (a a' : Activity) (s' : Store), g.handles e = true → e.kind? = some k → e.carried? k = some c →
        s.activity? c.key = some a → g.consume u.backend [e] s = (.ok ⟨1, 0⟩, s') →
          s'.activity? c.key = some a' → a'.name = c.name.or a.name ∧ a'.type = c.type.or a.type := by
  intro hrefreshed
  let e := Sample.ofCall "INTEGRATION_REQUESTED" "pay" "p1"
  obtain ⟨-, htype⟩ := hrefreshed Sample.sent Sample.sent_reachable Supply.counting Registry.full e
    .integrationRequested ⟨"p1:pay:", none, none⟩ _ _ _ rfl rfl rfl rfl (Prod.ext rfl rfl) rfl
  exact absurd htype (by decide +kernel)

end FlowView

import FlowView.Proofs.Again
import FlowView.Proofs.Histories
/-!
# Deployments

What the tables hold of a process definition or of an application is told from the events that deployed it.
Of a definition each column has the last value that a payload gave; the service is that of the last event.
Of an application the name and the version are the last that a payload gave, and only if none did the first
that an envelope has (`deployments_merged`).
-/

namespace FlowView

open Projection

variable {u : Supply} {e : Event} {s s' : Store} {k : EventKind} {id : String}

/-! ## Values that are given time and again -/

section Given

variable {α β : Type} (value : α → Option β)

/-- The last value that is given. -/
def lastGiven (xs : List α) : Option β := (xs.filterMap value).getLast?

/-- The first value that is given. -/
def firstGiven (xs : List α) : Option β := (xs.filterMap value).head?

theorem lastGiven_concat (xs : List α) (x : α) :
    lastGiven value (xs ++ [x]) = (value x).or (lastGiven value xs) := by
  rw [lastGiven, filterMap_concat, List.getLast?_append, lastGiven]
  cases value x <;> rfl

theorem firstGiven_concat (xs : List α) (x : α) :
    firstGiven value (xs ++ [x]) = (firstGiven value xs).or (value x) := by
  rw [firstGiven, filterMap_concat, List.head?_append, firstGiven]
  cases value x <;> rfl

end Given

/-! ## What deployments make of a row -/

/-- An event that deploys something, with its payload. -/
abbrev Deployment (α : Type) := Event × α

/-- The deployment of an id that an event of a kind is. -/
def Event.deployment? {α : Type} [Payload α] (kind : EventKind) (key : α → String) (id : String) (e : Event) :
    Option (Deployment α) :=
  match (e.payload : Except EventFault α) with
  | .ok p => if e.kind? = some kind ∧ key p = id then some (e, p) else none
  | .error _ => none

/-- The events of a kind that deploy an id, of some moments. -/
def deployments {α : Type} [Payload α] (kind : EventKind) (key : α → String) (past : List Moment)
    (id : String) : List (Deployment α) :=
  past.filterMap fun m => m.event.deployment? kind key id

/-- What deployments make of a process definition: nothing, if there are none. -/
def ProcessDefinition.merged (id : String) (ds : List (Deployment DefinitionPayload)) :
    Option ProcessDefinition :=
  ds.getLast?.map fun (e, p) => {
    id
    key := lastGiven (fun d => d.2.key) ds
    name := lastGiven (fun d => d.2.name) ds
    description := lastGiven (fun d => d.2.description) ds
    version := lastGiven (fun d => d.2.version) ds
    formKey := lastGiven (fun d => d.2.formKey) ds
    category := lastGiven (fun d => d.2.category) ds
    service := { e.service with appVersion := p.appVersion.or e.service.appVersion } }

/-- The model that deployments leave: the last that one of them brought. -/
def ProcessModel.merged (id : String) (ds : List (Deployment DefinitionPayload)) : Option ProcessModel :=
  (lastGiven (fun d => d.2.modelContent) ds).map fun content => { definitionId := id, content }

/-- What deployments make of an application: nothing, if there are none. -/
def Application.merged (id : String) (ds : List (Deployment ApplicationPayload)) : Option Application :=
  ds.getLast?.map fun _ => {
    id
    name := (lastGiven (fun d => d.2.name) ds).or (firstGiven (fun d => d.1.service.appName) ds)
    version := (lastGiven (fun d => d.2.version) ds).or (firstGiven (fun d => d.1.service.appVersion) ds) }

/-! ## One more deployment -/

theorem ProcessDefinition.merged_concat (ds : List (Deployment DefinitionPayload)) (e : Event)
    (p : DefinitionPayload) :
    merged p.id (ds ++ [(e, p)]) = some (deploy e p (merged p.id ds)) := by
  simp only [merged, List.getLast?_concat, Option.map_some, lastGiven_concat, Option.some.injEq]
  cases hlast : ds.getLast? with
  | none =>
    rw [List.getLast?_eq_none_iff.1 hlast]
    rfl
  | some d => rfl

theorem ProcessModel.merged_concat (ds : List (Deployment DefinitionPayload)) (e : Event)
    (p : DefinitionPayload) (id : String) :
    merged id (ds ++ [(e, p)]) =
      (p.modelContent.map fun content => { definitionId := id, content }).or (merged id ds) := by
  rw [merged, lastGiven_concat, merged]
  cases p.modelContent <;> rfl

/-- The envelope counts after all that is known, so the first one that has a value is not overruled by another. -/
theorem Application.merged_concat (ds : List (Deployment ApplicationPayload)) (e : Event)
    (p : ApplicationPayload) :
    merged p.id (ds ++ [(e, p)]) = some (deployApplication e p (merged p.id ds)) := by
  simp only [merged, List.getLast?_concat, Option.map_some, lastGiven_concat, firstGiven_concat,
    Option.some.injEq, deployApplication, Option.or_assoc]
  cases hlast : ds.getLast? with
  | none =>
    rw [List.getLast?_eq_none_iff.1 hlast]
    rfl
  | some d => simp [Option.or_assoc]

/-! ## One event -/

section Moments

variable {α : Type} [Payload α] {kind : EventKind} {key : α → String} {past : List Moment}

theorem deployments_other (hk : e.kind? = some k) (hne : k ≠ kind) (s : Store) (id : String) :
    deployments kind key (past ++ [⟨e, s⟩]) id = deployments kind key past id := by
  have hnone : e.deployment? kind key id = none := by
    unfold Event.deployment?
    split
    · simp [hk, hne]
    · rfl
  simp [deployments, hnone]

theorem deployments_concat {p : α} (hk : e.kind? = some kind) (hp : e.payload = .ok p) (s : Store)
    (id : String) :
    deployments kind key (past ++ [⟨e, s⟩]) id =
      if key p = id then deployments kind key past id ++ [(e, p)] else deployments kind key past id := by
  have hdeployment : e.deployment? kind key id = if key p = id then some (e, p) else none := by
    simp [Event.deployment?, hk, hp]
  rw [deployments, filterMap_concat, hdeployment]
  split
  · rfl
  · exact List.append_nil _

end Moments

/-- An event deploys a definition, an application, or nothing of either. -/
theorem Effect.deployed (h : Effect u e s k s') :
    (k = .processDeployed ∧ ∃ p, e.payload = .ok p ∧ s' = s.withDefinition e p) ∨
    (k = .applicationDeployed ∧ ∃ p, e.payload = .ok p ∧
      s' = s.saveApplication (deployApplication e p (s.findApplication p.id))) ∨
    (k ≠ .processDeployed ∧ k ≠ .applicationDeployed ∧ s'.definitions = s.definitions ∧
      s'.models = s.models ∧ s'.applications = s.applications) := by
  cases h with
  | definitionDeployed hp => exact .inl ⟨rfl, _, hp, rfl⟩
  | applicationDeployed hp => exact .inr (.inl ⟨rfl, _, hp, rfl⟩)
  | instancePassed hk | instanceChanged hk | taskPassed hk | taskChanged hk | candidatePassed hk
  | taskCandidateChanged hk | starterChanged hk | activityEntered hk | callChanged hk =>
    cases hk <;> exact .inr (.inr ⟨nofun, nofun, rfl, rfl, rfl⟩)
  | _ => exact .inr (.inr ⟨nofun, nofun, rfl, rfl, rfl⟩)

theorem Store.findDefinition_withDefinition (e : Event) (p : DefinitionPayload) (id : String) :
    (s.withDefinition e p).findDefinition id =
      if p.id = id then some (deploy e p (s.findDefinition p.id)) else s.findDefinition id := by
  have hsaved : (s.saveDefinition (deploy e p (s.findDefinition p.id))).findDefinition id = _ :=
    Table.lookup_replace id
  rw [deploy_id] at hsaved
  unfold withDefinition
  cases p.modelContent <;> exact hsaved

theorem Store.findModel_withDefinition (e : Event) (p : DefinitionPayload) (id : String) :
    (s.withDefinition e p).findModel id =
      if p.id = id then
        (p.modelContent.map fun content => { definitionId := id, content }).or (s.findModel id)
      else s.findModel id := by
  unfold withDefinition
  cases p.modelContent with
  | none => simp [findModel, saveDefinition]
  | some content =>
    refine (Table.lookup_replace id).trans ?_
    rw [deploy_id]
    by_cases hid : p.id = id
    · subst hid
      rfl
    · simp only [if_neg hid]
      rfl

theorem Store.findApplication_deployed (e : Event) (p : ApplicationPayload) (old : Option Application)
    (id : String) :
    (s.saveApplication (deployApplication e p old)).findApplication id =
      if p.id = id then some (deployApplication e p old) else s.findApplication id :=
  Table.lookup_replace id

/-! ## Runs -/

/-- The rows of definitions, models and applications are what the deployments of some moments make of them. -/
structure Store.Merges (s : Store) (past : List Moment) : Prop where
  definitions : ∀ id, s.findDefinition id =
    ProcessDefinition.merged id (deployments .processDeployed DefinitionPayload.id past id)
  models : ∀ id, s.findModel id =
    ProcessModel.merged id (deployments .processDeployed DefinitionPayload.id past id)
  applications : ∀ id, s.findApplication id =
    Application.merged id (deployments .applicationDeployed ApplicationPayload.id past id)

theorem Store.Merges.definitionDeployed {past : List Moment} (h : s.Merges past) (s' : Store)
    (hk : e.kind? = some .processDeployed) {p : DefinitionPayload} (hp : e.payload = .ok p) :
    (s.withDefinition e p).Merges (past ++ [⟨e, s'⟩]) where
  definitions id := by
    rw [findDefinition_withDefinition, deployments_concat hk hp]
    split
    · rename_i hid
      rw [h.definitions, ← hid]
      exact (ProcessDefinition.merged_concat _ e p).symm
    · exact h.definitions id
  models id := by
    rw [findModel_withDefinition, deployments_concat hk hp]
    split
    · rw [h.models]
      exact (ProcessModel.merged_concat _ e p id).symm
    · exact h.models id
  applications id := by
    rw [deployments_other hk (by decide), ← h.applications, withDefinition]
    cases p.modelContent <;> rfl

theorem Store.Merges.applicationDeployed {past : List Moment} (h : s.Merges past) (s' : Store)
    (hk : e.kind? = some .applicationDeployed) {p : ApplicationPayload} (hp : e.payload = .ok p) :
    (s.saveApplication (deployApplication e p (s.findApplication p.id))).Merges (past ++ [⟨e, s'⟩]) where
  definitions id := by
    rw [deployments_other hk (by decide)]
    exact h.definitions id
  models id := by
    rw [deployments_other hk (by decide)]
    exact h.models id
  applications id := by
    rw [findApplication_deployed, deployments_concat hk hp]
    split
    · rename_i hid
      rw [h.applications, ← hid]
      exact (Application.merged_concat _ e p).symm
    · exact h.applications id

/-- An event that deploys nothing is in neither list of deployments, and leaves the rows. -/
theorem Store.Merges.passed {past : List Moment} (h : s.Merges past) (hk : e.kind? = some k)
    (hdefinition : k ≠ .processDeployed) (happlication : k ≠ .applicationDeployed)
    (hdefinitions : s'.definitions = s.definitions) (hmodels : s'.models = s.models)
    (happlications : s'.applications = s.applications) : s'.Merges (past ++ [⟨e, s'⟩]) where
  definitions id := by
    rw [deployments_other hk hdefinition, ← h.definitions, findDefinition, hdefinitions, findDefinition]
  models id := by
    rw [deployments_other hk hdefinition, ← h.models, findModel, hmodels, findModel]
  applications id := by
    rw [deployments_other hk happlication, ← h.applications, findApplication, happlications, findApplication]

theorem Effect.merges (h : Effect u e s k s') (hk : e.kind? = some k) {past : List Moment}
    (hs : s.Merges past) : s'.Merges (past ++ [⟨e, s'⟩]) := by
  rcases h.deployed with ⟨rfl, p, hp, rfl⟩ | ⟨rfl, p, hp, rfl⟩ | ⟨hne, hne', hd, hm, ha⟩
  · exact hs.definitionDeployed _ hk hp
  · exact hs.applicationDeployed _ hk hp
  · exact hs.passed hk hne hne' hd hm ha

/-- Over a history from empty tables a process definition is there if an event deployed it, and has of each
value the last that a payload gave and the service of the last event, with the version of the application
from its payload if it has one. A model is there if a payload brought one, and is the last. An application
is there if an event deployed it; its name and version are the last that a payload gave, and if none did the
first that an envelope has. -/
theorem deployments_merged {past : List Moment} (h : Store.History {} past s) (id : String) :
    s.findDefinition id =
      ProcessDefinition.merged id (deployments .processDeployed DefinitionPayload.id past id) ∧
    s.findModel id = ProcessModel.merged id (deployments .processDeployed DefinitionPayload.id past id) ∧
    s.findApplication id =
      Application.merged id (deployments .applicationDeployed ApplicationPayload.id past id) := by
  have hmerges : s.Merges past :=
    h.records (fun past m => m.Merges past) ⟨fun _ => rfl, fun _ => rfl, fun _ => rfl⟩
      fun _ _ _ hk heffect hmerges => heffect.merges hk hmerges
  exact ⟨hmerges.definitions id, hmerges.models id, hmerges.applications id⟩

namespace Sample

/-- A definition with its model, and an application that only the envelopes name at first. -/
def releases : List Event := [
  { event "PROCESS_DEPLOYED" [("id", .str "d1"), ("key", .str "order"), ("version", .int 1),
      ("processModelContent", .str "<m/>")] with service := { name := some "rb", appVersion := some "1" } },
  { event "APPLICATION_DEPLOYED" [("id", .str "a1"), ("version", .str "1")] with
      service := { appName := some "shop" } }]

/-- The definition is named, the application renamed by another envelope and then by a payload. -/
def rereleases : List Event := [
  { event "PROCESS_DEPLOYED" [("id", .str "d1"), ("name", .str "Order"), ("version", .int 2),
      ("appVersion", .str "3")] with service := { appVersion := some "2" } },
  { event "APPLICATION_DEPLOYED" [("id", .str "a1")] with
      service := { appName := some "store", appVersion := some "9" } },
  event "APPLICATION_DEPLOYED" [("id", .str "a1"), ("version", .str "2")]]

end Sample

/-- What the second batch leaves out stays, the first name of the application counts as no payload gives
another one, and nothing is known of what was not deployed. -/
theorem deployments_merged_releases :
    let s := (Registry.full.consume Supply.counting.backend Sample.releases {}).2
    let s' := (Registry.full.consume Supply.counting.backend Sample.rereleases s).2
    s'.findDefinition "d1" = some
        { id := "d1", key := some "order", name := some "Order", version := some 2,
          service := { appVersion := some "3" } } ∧
      s'.findModel "d1" = some { definitionId := "d1", content := "<m/>" } ∧
      s'.findApplication "a1" = some { id := "a1", name := some "shop", version := some "2" } ∧
      s'.findDefinition "d2" = none := by
  intro s s'
  have hfirst : Store.History {} _ s := .consume (.start {}) Registry.full Supply.counting Sample.releases
  have hboth := hfirst.consume Registry.full Supply.counting Sample.rereleases
  obtain ⟨hdefinition, hmodel, -⟩ := deployments_merged hboth "d1"
  obtain ⟨-, -, happlication⟩ := deployments_merged hboth "a1"
  rw [hdefinition, hmodel, happlication, (deployments_merged hboth "d2").1]
  decide +kernel

end FlowView

import FlowView.Call
import FlowView.FetchPlan
import FlowView.Memo
/-!
# Cache

A cache over a backend remembers the process instances, tasks, process variables and activities that
were asked for, saved or deleted within a transaction, and those that were not there. What it knows it
answers itself; changes go to the backend first. `Cache.prefetch` loads the keys of a plan ahead.
-/

namespace FlowView

/-- What is known of the rows behind, and how often it was enough. -/
structure Cache where
  instances : Memo String ProcessInstance := {}
  tasks : Memo String UserTask := {}
  processVariables : Memo (String × String) ProcessVariable := {}
  activities : Memo String Activity := {}
  hits : Nat := 0
  misses : Nat := 0

namespace Cache

variable {σ α : Type}

def hit (m : Cache) : Cache := { m with hits := m.hits + 1 }

def miss (m : Cache) : Cache := { m with misses := m.misses + 1 }

/-- A variable's instance and name. -/
def variableKey (v : ProcessVariable) : String × String := (v.instanceId, v.name)

def putInstance (m : Cache) (id : String) (r : Option ProcessInstance) : Cache :=
  { m with instances := m.instances.put id r }

def putTask (m : Cache) (id : String) (r : Option UserTask) : Cache :=
  { m with tasks := m.tasks.put id r }

def putVariable (m : Cache) (key : String × String) (r : Option ProcessVariable) : Cache :=
  { m with processVariables := m.processVariables.put key r }

def putActivity (m : Cache) (id : String) (r : Option Activity) : Cache :=
  { m with activities := m.activities.put id r }

/-- What the backend answers, noted by `note` if it answers. -/
def pass (step : σ → Outcome α σ) (note : α → Cache → Cache) : Cache × σ → Outcome α (Cache × σ)
  | (m, s) =>
    match step s with
    | (.ok a, s') => (.ok a, note a m, s')
    | (.error e, s') => (.error e, m, s')

/-- What is known, or else what the backend answers. -/
def consult (known : Option α) (step : σ → Outcome α σ) (note : α → Cache → Cache) :
    Cache × σ → Outcome α (Cache × σ)
  | (m, s) =>
    match known with
    | some a => (.ok a, m.hit, s)
    | none => pass step note (m.miss, s)

/-- Answers a call from what is known or from the backend. -/
def answer (b : Backend σ) : (c : Call) → Cache × σ → Outcome c.Answer (Cache × σ)
  | .findInstance id, (m, s) =>
    consult (m.instances.get? id) (b.answer (.findInstance id)) (fun r m => m.putInstance id r) (m, s)
  | .saveInstance r, ms =>
    pass (b.answer (.saveInstance r)) (fun _ m => m.putInstance r.id (some r)) ms
  | .deleteInstance id, ms =>
    pass (b.answer (.deleteInstance id)) (fun _ m => m.putInstance id none) ms
  | .findTask id, (m, s) =>
    consult (m.tasks.get? id) (b.answer (.findTask id)) (fun r m => m.putTask id r) (m, s)
  | .saveTask r, ms => pass (b.answer (.saveTask r)) (fun _ m => m.putTask r.id (some r)) ms
  | .deleteTask id, ms => pass (b.answer (.deleteTask id)) (fun _ m => m.putTask id none) ms
  | .findVariable instanceId name, (m, s) =>
    consult (m.processVariables.get? (instanceId, name)) (b.answer (.findVariable instanceId name))
      (fun r m => m.putVariable (instanceId, name) r) (m, s)
  | .saveVariable r, ms =>
    pass (b.answer (.saveVariable r)) (fun _ m => m.putVariable (variableKey r) (some r)) ms
  | .deleteVariable id, ms =>
    pass (b.answer (.deleteVariable id))
      (fun _ m => { m with processVariables := m.processVariables.forget (·.id = id) }) ms
  | .findActivity id, (m, s) =>
    consult (m.activities.get? id) (b.answer (.findActivity id)) (fun r m => m.putActivity id r) (m, s)
  | .saveActivity r, ms => pass (b.answer (.saveActivity r)) (fun _ m => m.putActivity r.id (some r)) ms
  | .deleteActivities instanceId, ms =>
    pass (b.answer (.deleteActivities instanceId))
      (fun _ m => { m with activities := m.activities.forget (·.instanceId = instanceId) }) ms
  | c, ms => pass (b.answer c) (fun _ m => m) ms

/-! ## Many keys -/

/-- Notes the tasks that were found for ids, and that the others are not there. -/
def noteTasks (ids : List String) (found : List UserTask) (m : Cache) : Cache :=
  { m with tasks := m.tasks.putAll ids UserTask.id found }

def noteVariables (instanceId : String) (names : List String) (found : List ProcessVariable)
    (m : Cache) : Cache :=
  { m with processVariables := m.processVariables.putAll (names.map (instanceId, ·)) variableKey found }

def noteActivities (ids : List String) (found : List Activity) (m : Cache) : Cache :=
  { m with activities := m.activities.putAll ids Activity.id found }

/-- Loads what is not known, if anything is not, and answers in the order that was asked. -/
def fill {β : Type} (unknown : List String) (step : σ → Outcome β σ) (note : β → Cache → Cache)
    (collect : Cache → α) : Cache × σ → Outcome α (Cache × σ)
  | (m, s) =>
    if unknown.isEmpty then (.ok (collect m), m.hit, s)
    else
      match pass step note (m.miss, s) with
      | (.ok _, m', s') => (.ok (collect m'), m', s')
      | (.error e, m', s') => (.error e, m', s')

/-- Answers a lookup of many keys from what is known, after loading the rest. -/
def look (b : Backend σ) : (l : Lookup) → Cache × σ → Outcome l.Answer (Cache × σ)
  | .tasks ids, (m, s) =>
    let unknown := ids.filter fun id => !m.tasks.knows id
    fill unknown (b.look (.tasks unknown)) (noteTasks unknown)
      (fun m => ids.filterMap m.tasks.row?) (m, s)
  | .processVariables instanceId names, (m, s) =>
    let unknown := names.filter fun name => !m.processVariables.knows (instanceId, name)
    fill unknown (b.look (.processVariables instanceId unknown)) (noteVariables instanceId unknown)
      (fun m => names.filterMap fun name => m.processVariables.row? (instanceId, name)) (m, s)
  | .activities ids, (m, s) =>
    let unknown := ids.filter fun id => !m.activities.knows id
    fill unknown (b.look (.activities unknown)) (noteActivities unknown)
      (fun m => ids.filterMap m.activities.row?) (m, s)

/-- The backend that a cache over another one is. -/
def backend (b : Backend σ) : Backend (Cache × σ) := ⟨answer b, look b⟩

/-! ## Loading ahead -/

/-- Goes on with a state unless the step before failed. -/
def andThen (r : Outcome Unit (Cache × σ)) (next : Cache × σ → Outcome Unit (Cache × σ)) :
    Outcome Unit (Cache × σ) :=
  match r with
  | (.ok _, ms) => next ms
  | (.error e, ms) => (.error e, ms)

/-- Loads an instance that is not known. -/
def prefetchInstance (b : Backend σ) (id : String) (ms : Cache × σ) : Outcome Unit (Cache × σ) :=
  if ms.1.instances.knows id then (.ok (), ms)
  else
    let (r, ms) := pass (b.answer (.findInstance id)) (fun r m => m.putInstance id r) ms
    (r.map fun _ => (), ms)

/-- Loads rows by their keys, known or not, if there are keys. -/
def prefetchAll {β : Type} (keys : List String) (step : σ → Outcome β σ) (note : β → Cache → Cache)
    (ms : Cache × σ) : Outcome Unit (Cache × σ) :=
  if keys.isEmpty then (.ok (), ms)
  else
    let (r, ms) := pass step note ms
    (r.map fun _ => (), ms)

/-- Loads the keys of a plan. Loading ahead is neither a hit nor a miss. -/
def prefetch (b : Backend σ) (p : FetchPlan) (ms : Cache × σ) : Outcome Unit (Cache × σ) :=
  let ofInstance := match p.instanceId with
    | none => (.ok (), ms)
    | some id =>
      andThen (prefetchInstance b id ms)
        (prefetchAll p.variableNames (b.look (.processVariables id p.variableNames))
          (noteVariables id p.variableNames))
  andThen
    (andThen ofInstance (prefetchAll p.taskIds (b.look (.tasks p.taskIds)) (noteTasks p.taskIds)))
    (prefetchAll p.activityIds (b.look (.activities p.activityIds)) (noteActivities p.activityIds))

end Cache
end FlowView

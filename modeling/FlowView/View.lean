import FlowView.Projection.Basic
/-!
# Views

What a reader of the read model asks for: an instance or a task together with what belongs to it.
-/

namespace FlowView

/-- A process instance with its variables by name. -/
structure InstanceView where
  record : ProcessInstance
  processVariables : List ProcessVariable

/-- A task with its own variables and the process variables that it shows, by name. -/
structure TaskView where
  task : UserTask
  taskVariables : List TaskVariable
  shown : List ProcessVariable

/-- A task with its candidates. -/
structure CandidateView where
  task : UserTask
  users : List String
  groups : List String

namespace View

def instanceWithVariables (id : String) : Program (Option InstanceView) := do
  match ← Program.ask (.findInstance id) with
  | none => return none
  | some r => return some ⟨r, ← Program.ask (.listVariables id)⟩

def taskWithVariables (id : String) : Program (Option TaskView) := do
  match ← Program.ask (.findTask id) with
  | none => return none
  | some task =>
    let own ← Program.ask (.listTaskVariables id)
    return some ⟨task, own, ← Program.ask (.listLinked id)⟩

def taskWithCandidates (id : String) : Program (Option CandidateView) := do
  match ← Program.ask (.findTask id) with
  | none => return none
  | some task =>
    let users ← Program.ask (.listCandidates .taskUser id)
    let groups ← Program.ask (.listCandidates .taskGroup id)
    return some ⟨task, users.map Candidate.candidate, groups.map Candidate.candidate⟩

end View
end FlowView

import FlowView.Projection.Basic
/-!
# Candidates

Users and groups that may work on a task or start a process. The candidates of a task change only while
it is open; those of a process definition need no row of the definition.
-/

namespace FlowView.Projection

/-- Adds a candidate that is not there. -/
def addCandidate (c : Candidate) : Program Unit := do
  if ← Program.ask (.isCandidate c) then return () else Program.ask (.addCandidate c)

/-- Removes a candidate that is there. -/
def removeCandidate (c : Candidate) : Program Unit := do
  if ← Program.ask (.isCandidate c) then Program.ask (.removeCandidate c) else return ()

/-- Changes a candidate, where the owner lets it. -/
def changeCandidate (role : Role) (change : Candidate → Program Unit) (e : Event) : Program Unit := do
  let p : CandidatePayload role ← payload e
  let c : Candidate := ⟨role, p.owner, p.candidate⟩
  if role.ofTask then
    let t ← requireTask p.owner
    if t.status.isFinal then return () else change c
  else change c

def candidateAdded (role : Role) : Event → Program Unit := changeCandidate role addCandidate

def candidateRemoved (role : Role) : Event → Program Unit := changeCandidate role removeCandidate

end FlowView.Projection

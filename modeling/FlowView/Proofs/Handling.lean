import FlowView.Proofs.Handling.Execution
import FlowView.Proofs.Handling.Instances
import FlowView.Proofs.Handling.Tasks
import FlowView.Proofs.Handling.Variables
/-!
# Every projection does what its effect says

On tables that batches lead to each projection ends in one of the cases of `Effect` or `Refusal`.
-/

namespace FlowView.Projection

variable {u : Supply} {e : Event} {s : Store} {k : EventKind}

/-- Every event of a kind is handled as its effect says, or refused. -/
theorem handled_project (hs : s.Inv) (k : EventKind) : Handled u e s k ((k.project e).run u.backend s) := by
  have hsound := hs.toSound
  cases k with
  | processDeployed => exact handled_definitionDeployed
  | applicationDeployed => exact handled_applicationDeployed
  | processCreated => exact handled_instanceCreated hsound
  | processStarted => exact handled_changeInstance hsound .started
  | processUpdated => exact handled_changeInstance hsound .updated
  | processSuspended => exact handled_changeInstance hsound .suspended
  | processResumed => exact handled_changeInstance hsound .resumed
  | processCompleted => exact handled_instanceCompleted hsound
  | processCancelled => exact handled_changeInstance hsound .cancelled
  | processDeleted => exact handled_instanceDeleted hsound
  | taskCreated => exact handled_taskCreated hsound
  | taskAssigned => exact handled_changeTask hsound .assigned
  | taskActivated => exact handled_changeTask hsound .activated
  | taskSuspended => exact handled_changeTask hsound .suspended
  | taskUpdated => exact handled_changeTask hsound .updated
  | taskCompleted => exact handled_changeTask hsound .completed
  | taskCancelled => exact handled_changeTask hsound .cancelled
  | taskCandidateUserAdded =>
    exact handled_changeCandidate hsound .taskUserAdded fun _ => run_addCandidate
  | taskCandidateUserRemoved =>
    exact handled_changeCandidate hsound .taskUserRemoved fun c _ => run_removeCandidate c
  | taskCandidateGroupAdded =>
    exact handled_changeCandidate hsound .taskGroupAdded fun _ => run_addCandidate
  | taskCandidateGroupRemoved =>
    exact handled_changeCandidate hsound .taskGroupRemoved fun c _ => run_removeCandidate c
  | processCandidateStarterUserAdded =>
    exact handled_changeCandidate hsound .starterUserAdded fun _ => run_addCandidate
  | processCandidateStarterUserRemoved =>
    exact handled_changeCandidate hsound .starterUserRemoved fun c _ => run_removeCandidate c
  | processCandidateStarterGroupAdded =>
    exact handled_changeCandidate hsound .starterGroupAdded fun _ => run_addCandidate
  | processCandidateStarterGroupRemoved =>
    exact handled_changeCandidate hsound .starterGroupRemoved fun c _ => run_removeCandidate c
  | variableCreated =>
    exact handled_byOwner rfl (fun _ => handled_createTaskVariable hsound) fun _ => handled_createVariable hs
  | variableUpdated =>
    exact handled_byOwner rfl (fun _ => handled_updateTaskVariable hsound) fun _ =>
      handled_updateVariable hsound
  | variableDeleted =>
    exact handled_byOwner rfl (fun _ => handled_dropTaskVariable hsound) fun _ => handled_dropVariable hsound
  | activityStarted => exact handled_activityEntered hsound .started
  | activityCompleted => exact handled_activityEntered hsound .completed
  | activityCancelled => exact handled_activityEntered hsound .cancelled
  | sequenceFlowTaken => exact handled_flowTaken
  | integrationRequested => exact handled_changeIntegration hsound .requested
  | integrationResultReceived => exact handled_changeIntegration hsound .resultReceived
  | integrationErrorReceived => exact handled_changeIntegration hsound .errorReceived

end FlowView.Projection

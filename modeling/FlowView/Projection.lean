import FlowView.Projection.Candidates
import FlowView.Projection.Deployments
import FlowView.Projection.Execution
import FlowView.Projection.Instances
import FlowView.Projection.Tasks
import FlowView.Projection.Variables
/-!
# Projections

The program of each kind of event.
-/

namespace FlowView

/-- What an event of a kind does to the read model. -/
def EventKind.project : EventKind → Event → Program Unit
  | .processDeployed => Projection.definitionDeployed
  | .applicationDeployed => Projection.applicationDeployed
  | .processCreated => Projection.instanceCreated
  | .processStarted => Projection.instanceStarted
  | .processUpdated => Projection.instanceUpdated
  | .processSuspended => Projection.instanceSuspended
  | .processResumed => Projection.instanceResumed
  | .processCompleted => Projection.instanceCompleted
  | .processCancelled => Projection.instanceCancelled
  | .processDeleted => Projection.instanceDeleted
  | .taskCreated => Projection.taskCreated
  | .taskAssigned => Projection.taskAssigned
  | .taskActivated => Projection.taskActivated
  | .taskSuspended => Projection.taskSuspended
  | .taskUpdated => Projection.taskUpdated
  | .taskCompleted => Projection.taskCompleted
  | .taskCancelled => Projection.taskCancelled
  | .taskCandidateUserAdded => Projection.candidateAdded .taskUser
  | .taskCandidateUserRemoved => Projection.candidateRemoved .taskUser
  | .taskCandidateGroupAdded => Projection.candidateAdded .taskGroup
  | .taskCandidateGroupRemoved => Projection.candidateRemoved .taskGroup
  | .processCandidateStarterUserAdded => Projection.candidateAdded .starterUser
  | .processCandidateStarterUserRemoved => Projection.candidateRemoved .starterUser
  | .processCandidateStarterGroupAdded => Projection.candidateAdded .starterGroup
  | .processCandidateStarterGroupRemoved => Projection.candidateRemoved .starterGroup
  | .variableCreated => Projection.variableCreated
  | .variableUpdated => Projection.variableUpdated
  | .variableDeleted => Projection.variableDeleted
  | .activityStarted => Projection.activityEntered .started
  | .activityCompleted => Projection.activityEntered .completed
  | .activityCancelled => Projection.activityEntered .cancelled
  | .sequenceFlowTaken => Projection.flowTaken
  | .integrationRequested => Projection.integrationRequested
  | .integrationResultReceived => Projection.integrationResultReceived
  | .integrationErrorReceived => Projection.integrationErrorReceived

end FlowView

import FlowView.Program
/-!
# What projections share

A projection is the program that an event runs. It reads the event's payload, looks for the rows that
the payload names, and saves them as they are after the event.
-/

namespace FlowView.Projection

/-- The event's payload. -/
def payload {α : Type} [Payload α] (e : Event) : Program α := .ofEvent e.payload

/-- The fault of an event whose payload is well formed but does not say whose it is. -/
def noOwner (e : Event) (field : String) : Failure := .event (.malformed e.typeName (.noOwner field))

/-- The process instance of an id, which must be there. -/
def requireInstance (id : String) : Program ProcessInstance := do
  match ← Program.ask (.findInstance id) with
  | some r => return r
  | none => .fail (.notFound "process instance" id)

/-- The task of an id, which must be there. -/
def requireTask (id : String) : Program UserTask := do
  match ← Program.ask (.findTask id) with
  | some r => return r
  | none => .fail (.notFound "task" id)

end FlowView.Projection

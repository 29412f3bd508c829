import FlowView.Cache
import FlowView.Registry
/-!
# Batches

A batch of events is one transaction: all of its changes or none. It is handled over a cache, into which
the keys that its events ask for are loaded first.
-/

namespace FlowView

namespace Registry

/-- Handles a batch over a cache and keeps the changes if no event fails. -/
def transact (g : Registry) (b : Backend Store) (events : List Event) (s : Store) :
    Outcome Counts Store :=
  match Cache.prefetch b (FetchPlan.ofEvents events) ({}, s) with
  | (.error f, _) => (.error f, s)
  | (.ok (), ms) =>
    match g.handle (Cache.backend b) events ms with
    | (.ok n, _, s') => (.ok n, s')
    | (.error f, _) => (.error f, s)

/-- Consumes a batch. An empty one is over before it begins. -/
def consume (g : Registry) (b : Backend Store) (events : List Event) (s : Store) :
    Outcome Counts Store :=
  if events.isEmpty then (.ok {}, s) else g.transact b events s

end Registry

/-- A store that may be closed or refuse changes. -/
structure Database where
  store : Store := {}
  isOpen : Bool := true
  readOnly : Bool := false

namespace Database

/-- How the store answers. -/
def backend (d : Database) : Backend Store :=
  if d.readOnly then Store.backend.readOnly else Store.backend

/-- Nothing begins on a closed database. -/
def begin? (d : Database) : Except Failure Store :=
  if d.isOpen then .ok d.store else .error (.query .closed)

def health (d : Database) : Except Failure Unit := d.begin?.map fun _ => ()

def close (d : Database) : Database := { d with isOpen := false }

/-- Consumes a batch of events. An empty one does not even need an open database. -/
def consume (d : Database) (g : Registry) (events : List Event) : Except Failure Counts × Database :=
  if events.isEmpty then (.ok {}, d)
  else
    match d.begin? with
    | .error f => (.error f, d)
    | .ok s =>
      let (r, s') := g.consume d.backend events s
      (r, { d with store := s' })

end Database
end FlowView

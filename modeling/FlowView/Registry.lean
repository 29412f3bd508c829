import FlowView.Projection
/-!
# Registry

The kinds of events that are handled. Events of other kinds and of unknown types are passed over and
counted. The first event that fails ends the run, and its failure names it.
-/

namespace FlowView

/-- The kinds that are handled, each once. -/
structure Registry where
  kinds : List EventKind
  nodup : kinds.Nodup
  deriving DecidableEq

/-- How many events were handled and how many passed over. -/
structure Counts where
  handled : Nat := 0
  skipped : Nat := 0
  deriving DecidableEq, Repr

namespace Registry

/-- The first kind that comes a second time. -/
def firstRepeat? : (seen rest : List EventKind) → Option EventKind
  | _, [] => none
  | seen, k :: rest => if k ∈ seen then some k else firstRepeat? (k :: seen) rest

/-- Registers kinds, none of them twice. -/
def ofKinds (kinds : List EventKind) : Except Failure Registry :=
  if h : kinds.Nodup then .ok ⟨kinds, h⟩
  else .error (.duplicateHandler ((firstRepeat? [] kinds).getD .processDeployed))

/-- All kinds. -/
def full : Registry := ⟨EventKind.all, by decide⟩

/-- The program of an event, if its kind is handled. -/
def program? (g : Registry) (e : Event) : Option (Program Unit) :=
  match e.kind? with
  | some k => if k ∈ g.kinds then some (k.project e) else none
  | none => none

/-- The registered kinds in one line, by name. -/
def display (g : Registry) : String :=
  let names := Table.sort (fun a b => a ≤ b) (g.kinds.map EventKind.name)
  "QueryEventHandlerContext \x7b handlers: [" ++ ", ".intercalate (names.map Text.quoted) ++ "] \x7d"

variable {σ : Type}

/-- Handles events one after the other, counting on from `n`. -/
def handleFrom (g : Registry) (b : Backend σ) (n : Counts) : List Event → σ → Outcome Counts σ
  | [], s => (.ok n, s)
  | e :: es, s =>
    match g.program? e with
    | none => handleFrom g b { n with skipped := n.skipped + 1 } es s
    | some p =>
      match p.run b s with
      | (.ok (), s') => handleFrom g b { n with handled := n.handled + 1 } es s'
      | (.error f, s') => (.error (.handling e.display f), s')

/-- Handles events one after the other. -/
def handle (g : Registry) (b : Backend σ) (events : List Event) (s : σ) : Outcome Counts σ :=
  g.handleFrom b {} events s

end Registry
end FlowView

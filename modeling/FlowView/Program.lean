import FlowView.Call
/-!
# Programs

A program makes calls one after the other, each depending on the answers before it, and ends with a
value or a failure. It says nothing about who answers: `Program.run` runs it on a backend, and a
failing call ends it with all changes before that call in place.
-/

namespace FlowView

/-- A sequence of calls that ends with a value or a failure. -/
inductive Program (α : Type)
  | done (a : α)
  | fail (e : Failure)
  | call (c : Call) (next : c.Answer → Program α)

namespace Program
variable {α β σ : Type}

/-- Goes on with the value that a program ends with. -/
def bind : Program α → (α → Program β) → Program β
  | .done a, f => f a
  | .fail e, _ => .fail e
  | .call c next, f => .call c fun r => (next r).bind f

instance : Monad Program where
  pure := .done
  bind := Program.bind

/-- Runs a program on a backend. -/
def run (b : Backend σ) : Program α → σ → Outcome α σ
  | .done a, s => (.ok a, s)
  | .fail e, s => (.error e, s)
  | .call c next, s =>
    match b.answer c s with
    | (.ok r, s') => (next r).run b s'
    | (.error e, s') => (.error e, s')

/-- One call. -/
def ask (c : Call) : Program c.Answer := .call c .done

/-- The value of a check of an event. -/
def ofEvent : Except EventFault α → Program α
  | .ok a => .done a
  | .error fault => .fail (.event fault)

/-- A program for each element of a list, in order. -/
def each (xs : List α) (f : α → Program Unit) : Program Unit :=
  match xs with
  | [] => .done ()
  | x :: xs => (f x).bind fun _ => each xs f

end Program
end FlowView

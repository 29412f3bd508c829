import FlowView.Proofs.Effects
/-!
# Steps that all projections share, handled

A projection is handled if it is from the step that is next on. A payload that does not decode and a row
that must be there and is not are refused here, once for all kinds.
-/

namespace FlowView.Projection

open Program

variable {u : Supply} {e : Event} {s : Store} {k : EventKind}

theorem handled_payload {α : Type} [Payload α] {f : α → Program Unit}
    (hk : k.fault? e = Event.fault? α e)
    (hf : ∀ p, e.payload = .ok p → Handled u e s k ((f p).run u.backend s)) :
    Handled u e s k ((payload e >>= f).run u.backend s) := by
  rw [run_bind, run_payload]
  cases hp : (e.payload : Except EventFault α) with
  | ok p => exact hf p hp
  | error fault => exact .refused (.undecoded (by simp [hk, Event.fault?, hp]))

theorem handled_requireInstance (hs : s.Sound) {id : String} {f : ProcessInstance → Program Unit}
    (hnone : s.instance? id = none → Refusal e s k (.notFound "process instance" id))
    (hsome : ∀ r, s.instance? id = some r → Handled u e s k ((f r).run u.backend s)) :
    Handled u e s k ((requireInstance id >>= f).run u.backend s) := by
  rw [run_bind, run_requireInstance u hs]
  cases hr : s.instance? id with
  | some r => exact hsome r hr
  | none => exact .refused (hnone hr)

theorem handled_requireTask (hs : s.Sound) {id : String} {f : UserTask → Program Unit}
    (hnone : s.task? id = none → Refusal e s k (.notFound "task" id))
    (hsome : ∀ t, s.task? id = some t → Handled u e s k ((f t).run u.backend s)) :
    Handled u e s k ((requireTask id >>= f).run u.backend s) := by
  rw [run_bind, run_requireTask u hs]
  cases ht : s.task? id with
  | some t => exact hsome t ht
  | none => exact .refused (hnone ht)

/-- A question goes on with its answer, on the same tables. -/
theorem handled_ask {c : Call} {f : c.Answer → Program Unit} {r : c.Answer}
    (hr : u.backend.answer c s = (.ok r, s)) (hf : Handled u e s k ((f r).run u.backend s)) :
    Handled u e s k ((ask c >>= f).run u.backend s) := by
  rw [run_bind, run_ask, hr]
  exact hf

end FlowView.Projection

import FlowView.Proofs.Transaction
import FlowView.Proofs.Twins
/-!
# Unrelated batches

A batch that mentions ids of one class only comes to the same in all stores that agree on the class, and
leaves the other classes as they are. So batches about different classes come to the same in any order
(`unrelated_commute`): each of them to what it would come to alone.
-/

namespace FlowView

variable {κ : Type} {side : Key → κ} {c : κ} {g : Registry} {e : Event} {events : List Event} {s s' t t' : Store}

/-! ## A batch in two stores -/

namespace Together

/-- The change is the same as the other one. -/
theorem content (h : Together side c s s' t t') : t'.content + s.content = t.content + s'.content := by
  obtain ⟨out, new, hs, ht⟩ := h
  refine add_right_cancel (b := out + new) ?_
  calc t'.content + s.content + (out + new)
    _ = (t'.content + out) + (s.content + new) := by abel
    _ = (t.content + new) + (s'.content + out) := by rw [ht.content, hs.content]
    _ = t.content + s'.content + (out + new) := by abel

theorem separated (h : Together side c s s' t t') (ht : t.Separated side) : t'.Separated side := by
  obtain ⟨out, new, -, hshift⟩ := h
  exact hshift.separated ht

theorem part_other [DecidableEq κ] (h : Together side c s s' t t') {c' : κ} (hne : c' ≠ c) :
    t'.part side c' = t.part side c' := by
  obtain ⟨out, new, -, hshift⟩ := h
  exact hshift.part_other hne

end Together

namespace Registry

variable [DecidableEq κ]

theorem twin_step (g : Registry) (u u' : Supply) (h : Alike side c s t) (habout : e.About side c) :
    (∃ f, g.step u.backend s e = .error f ∧ g.step u'.backend t e = .error f) ∨
      ∃ s' t', g.step u.backend s e = .ok s' ∧ g.step u'.backend t e = .ok t' ∧ Together side c s s' t t' := by
  cases hp : g.program? e with
  | none => exact .inr ⟨s, t, by simp [step, hp], by simp [step, hp], .stay s t⟩
  | some p =>
    obtain ⟨k, hk, -, rfl⟩ := program?_eq_some hp
    have hkeys : ∀ key ∈ k.keys e, side key = c := by simpa [Event.About, Event.keys, hk] using habout
    have htwin : Twin side c s t ((k.project e).run u.backend s) ((k.project e).run u'.backend t) :=
      Projection.twin_project h k hkeys
    generalize hr : (k.project e).run u.backend s = r at htwin
    generalize hr' : (k.project e).run u'.backend t = r' at htwin
    cases htwin with
    | refused f => exact .inl ⟨f, by simp [step, hp, hr], by simp [step, hp, hr']⟩
    | done htogether => exact .inr ⟨_, _, by simp [step, hp, hr], by simp [step, hp, hr'], htogether⟩

/-- The same event fails in both stores, or none does. -/
theorem twin_fold (g : Registry) (u u' : Supply) (h : Alike side c s t) (habout : ∀ e ∈ events, e.About side c) :
    (∃ ef, g.fold u.backend events s = .error ef ∧ g.fold u'.backend events t = .error ef) ∨
      ∃ s' t', g.fold u.backend events s = .ok s' ∧ g.fold u'.backend events t = .ok t' ∧
        Together side c s s' t t' := by
  induction events generalizing s t with
  | nil => exact .inr ⟨s, t, rfl, rfl, .stay s t⟩
  | cons e es ih =>
    rw [fold_cons, fold_cons]
    rcases twin_step g u u' h (habout e List.mem_cons_self) with
      ⟨f, hs, ht⟩ | ⟨s₁, t₁, hs, ht, hfirst⟩
    · exact .inl ⟨(e, f), by rw [hs], by rw [ht]⟩
    · rw [hs, ht]
      have hnext := h.next (step_inv h.left hs) (step_inv h.right ht) hfirst
      rcases ih hnext fun e he => habout e (List.mem_cons_of_mem _ he) with
        ⟨ef, hs, ht⟩ | ⟨s', t', hs, ht, hrest⟩
      · exact .inl ⟨ef, hs, ht⟩
      · exact .inr ⟨s', t', hs, ht, hfirst.trans hrest⟩

theorem twin_consume (g : Registry) (u u' : Supply) (h : Alike side c s t) (habout : ∀ e ∈ events, e.About side c) :
    (g.consume u.backend events s).1 = (g.consume u'.backend events t).1 ∧
      Together side c s (g.consume u.backend events s).2 t (g.consume u'.backend events t).2 := by
  rw [consume_sound g u events h.left.toSound, consume_sound g u' events h.right.toSound]
  rcases twin_fold g u u' h habout with ⟨ef, hs, ht⟩ | ⟨s', t', hs, ht, htogether⟩
  · rw [hs, ht]
    exact ⟨rfl, .stay s t⟩
  · rw [hs, ht]
    exact ⟨rfl, htogether⟩

/-! ## Batches one after the other -/

/-- Consumes a batch for each class of a list, and tells what each of them comes to. -/
def serve (g : Registry) (batch : κ → List Event) (u : κ → Supply) :
    List κ → Store → List (Except Failure Counts) × Store
  | [], s => ([], s)
  | c :: cs, s =>
    let (r, s₁) := g.consume (u c).backend (batch c) s
    let (rs, s') := serve g batch u cs s₁
    (r :: rs, s')

/-- What a batch comes to alone. -/
def alone (g : Registry) (batch : κ → List Event) (s : Store) (c : κ) : Outcome Counts Store :=
  g.consume Supply.counting.backend (batch c) s

variable {batch : κ → List Event} {cs cs' : List κ} (habout : ∀ c ∈ cs, ∀ e ∈ batch c, e.About side c)
  (hn : cs.Nodup)
include habout hn

/-- Where the stores agree on the classes to come, each batch comes to what it comes to alone, and
changes the content as it does alone. -/
theorem serve_alone (h : ∀ c ∈ cs, Alike side c s t) (ht : t.Inv) (v : κ → Supply) :
    (g.serve batch v cs t).1 = cs.map (fun c => (g.alone batch s c).1) ∧
      (g.serve batch v cs t).2.content + cs.length • s.content =
        t.content + (cs.map fun c => (g.alone batch s c).2.content).sum ∧
      (g.serve batch v cs t).2.Inv := by
  induction cs generalizing t with
  | nil => simp [serve, ht]
  | cons c cs ih =>
    obtain ⟨hc, hn⟩ := List.nodup_cons.1 hn
    obtain ⟨houtcome, htogether⟩ := twin_consume g Supply.counting (v c) (h c List.mem_cons_self)
      (habout c List.mem_cons_self)
    have ht₁ : (g.consume (v c).backend (batch c) t).2.Inv := consume_inv g (v c) (batch c) ht
    -- The batch leaves the classes to come as they were.
    have hrest : ∀ c' ∈ cs, Alike side c' s (g.consume (v c).backend (batch c) t).2 := by
      intro c' hc'
      have hne : c' ≠ c := fun heq => hc (heq ▸ hc')
      obtain ⟨hleft, -, hls, hrs, hpart⟩ := h c' (List.mem_cons_of_mem _ hc')
      exact ⟨hleft, ht₁, hls, htogether.separated hrs, hpart.trans (htogether.part_other hne).symm⟩
    obtain ⟨houtcomes, hcontent, hinv⟩ := ih (fun c' hc' => habout c' (List.mem_cons_of_mem _ hc')) hn hrest ht₁
    refine ⟨?_, ?_, hinv⟩
    · rw [List.map_cons, ← houtcomes]
      exact congrArg (· :: _) houtcome.symm
    · have hfirst : (g.consume (v c).backend (batch c) t).2.content + s.content =
          t.content + (g.alone batch s c).2.content := htogether.content
      rw [List.length_cons, succ_nsmul, ← add_assoc, List.map_cons, List.sum_cons]
      calc _ = (g.consume (v c).backend (batch c) t).2.content +
            (cs.map fun c => (g.alone batch s c).2.content).sum + s.content := congrArg (· + s.content) hcontent
        _ = _ := by rw [add_right_comm, hfirst, add_assoc]

/-- In any order each batch comes to what it comes to alone, and the tables become the same. -/
theorem serve_perm (hs : s.Inv) (hseparated : s.Separated side) (hperm : cs.Perm cs') (v v' : κ → Supply) :
    (g.serve batch v cs s).1 = cs.map (fun c => (g.alone batch s c).1) ∧
      (g.serve batch v' cs' s).1 = cs'.map (fun c => (g.alone batch s c).1) ∧
      Store.SameTables (g.serve batch v cs s).2 (g.serve batch v' cs' s).2 := by
  have hself (c : κ) : Alike side c s s := ⟨hs, hs, hseparated, hseparated, rfl⟩
  obtain ⟨houtcomes, hcontent, hinv⟩ := serve_alone (g := g) habout hn (fun c _ => hself c) hs v
  obtain ⟨houtcomes', hcontent', hinv'⟩ := serve_alone (g := g) (fun c hc => habout c (hperm.mem_iff.2 hc))
    (hperm.nodup_iff.1 hn) (fun c _ => hself c) hs v'
  refine ⟨houtcomes, houtcomes', .of_content hinv.toSound hinv'.toSound ?_⟩
  rw [← hperm.length_eq, ← (hperm.map _).sum_eq] at hcontent'
  exact add_right_cancel (hcontent.trans hcontent'.symm)

end Registry

/-! ## Orders that have nothing to do with each other -/

namespace Sample

/-- The second order with its task, and all else. -/
def second : Key → Bool
  | .processInstance id => id = "p2"
  | .task id => id = "t3"
  | _ => false

/-- The first order gets a variable, the second one is completed and deleted. -/
def news : Bool → List Event
  | true => [ofInstance "PROCESS_COMPLETED" "p2", ofInstance "PROCESS_DELETED" "p2"]
  | false => [ofVariable "VARIABLE_CREATED" "colour" "p1"]

theorem separated : store.Separated second := by
  have hrows : ∀ x ∈ store.parts.flatten, x.Of second true ∨ x.Of second false := by decide +kernel
  exact fun x hx => (hrows x hx).elim (fun h => ⟨true, h⟩) fun h => ⟨false, h⟩

theorem about_second (c : Bool) : ∀ e ∈ news c, e.About second c := by
  cases c <;> decide +kernel

end Sample

/-! ## Unrelated batches commute -/

/-- Let ids be split into classes, and the rows of the tables and the events of each batch mention ids of
one class only. Then two batches about different classes come to the same in both orders: each of them has
the same outcome, and the tables are the same up to the choice of generated ids. So it is with any number
of batches about different classes, in any two orders. -/
theorem unrelated_commute {κ : Type} [DecidableEq κ] (side : Key → κ) (g : Registry) {s : Store}
    (hs : s.Reachable) (hseparated : s.Separated side) :
    (∀ c₁ c₂ : κ, c₁ ≠ c₂ → ∀ b₁ b₂ : List Event,
      (∀ e ∈ b₁, e.About side c₁) → (∀ e ∈ b₂, e.About side c₂) → ∀ u₁ u₂ v₁ v₂ : Supply,
        let first := g.consume u₁.backend b₁ s
        let thenSecond := g.consume u₂.backend b₂ first.2
        let second := g.consume v₂.backend b₂ s
        let thenFirst := g.consume v₁.backend b₁ second.2
        first.1 = thenFirst.1 ∧ thenSecond.1 = second.1 ∧ Store.SameTables thenSecond.2 thenFirst.2) ∧
    ∀ (batch : κ → List Event) (cs cs' : List κ), (∀ c ∈ cs, ∀ e ∈ batch c, e.About side c) → cs.Nodup →
      cs.Perm cs' → ∀ v v' : κ → Supply, ∃ outcome : κ → Except Failure Counts,
        (g.serve batch v cs s).1 = cs.map outcome ∧ (g.serve batch v' cs' s).1 = cs'.map outcome ∧
        Store.SameTables (g.serve batch v cs s).2 (g.serve batch v' cs' s).2 := by
  constructor
  · intro c₁ c₂ hne b₁ b₂ h₁ h₂ u₁ u₂ v₁ v₂
    have hother : c₂ ≠ c₁ := hne.symm
    let batch (c : κ) : List Event := if c = c₁ then b₁ else b₂
    have habout : ∀ c ∈ [c₁, c₂], ∀ e ∈ batch c, e.About side c := by
      simp only [batch, List.forall_mem_cons, if_pos, if_neg hother]
      exact ⟨h₁, h₂, by simp⟩
    have hserved := Registry.serve_perm (g := g) habout (by simp [hne]) hs.inv hseparated (.swap c₂ c₁ [])
      (fun c => if c = c₁ then u₁ else u₂) fun c => if c = c₁ then v₁ else v₂
    simp only [Registry.serve, batch, if_pos, if_neg hother, List.map_cons, List.map_nil, List.cons.injEq, and_true]
      at hserved
    obtain ⟨⟨hfirst, hthen⟩, ⟨hsecond, hthen'⟩, hsame⟩ := hserved
    exact ⟨hfirst.trans hthen'.symm, hthen.trans hsecond.symm, hsame⟩
  · intro batch cs cs' habout hn hperm v v'
    exact ⟨_, Registry.serve_perm habout hn hs.inv hseparated hperm v v'⟩

/-- Working on the first order and deleting the second come to the same, whichever is done first. -/
theorem unrelated_commute_workAndDeletion :
    let consume (c : Bool) := Registry.full.consume Supply.counting.backend (Sample.news c)
    let serve := Registry.full.serve Sample.news fun _ => Supply.counting
    (consume false (consume true Sample.store).2).1 = .ok { handled := 1, skipped := 0 } ∧
    (consume true (consume false Sample.store).2).1 = .ok { handled := 2, skipped := 0 } ∧
    Store.SameTables (consume true (consume false Sample.store).2).2
      (consume false (consume true Sample.store).2).2 ∧
    ∃ outcome : Bool → Except Failure Counts,
      (serve [false, true] Sample.store).1 = [outcome false, outcome true] ∧
      (serve [true, false] Sample.store).1 = [outcome true, outcome false] ∧
      Store.SameTables (serve [false, true] Sample.store).2 (serve [true, false] Sample.store).2 := by
  intro consume serve
  obtain ⟨hpair, horders⟩ := unrelated_commute Sample.second Registry.full Sample.reachable Sample.separated
  obtain ⟨hfirst, hsecond, hsame⟩ := hpair false true (by decide) _ _ (Sample.about_second false)
    (Sample.about_second true) Supply.counting Supply.counting Supply.counting Supply.counting
  have hserved := horders Sample.news [false, true] [true, false] (fun c _ => Sample.about_second c) (by decide)
    (.swap _ _ _) (fun _ => Supply.counting) fun _ => Supply.counting
  exact ⟨hfirst.symm.trans rfl, hsecond.trans rfl, hsame, hserved⟩

end FlowView

import Jmap2Telegram.Transition.Execution

/-!
# Parties that keep to themselves

A state shared by many parties, seen by each through a view of its own, and a step function each of
whose events belongs to one of them. The parties are isolated when an event changes the view of its
owner at most: what one of them does, alone or along a run, the others cannot see.

* `Isolated.run`: a run without events of a party leaves its view.
-/

namespace Transition

universe u v w x

variable {σ : Type u} {ε : Type v} {κ : Type w} {τ : Type x}

/-- A step changes the view of the event's owner at most. -/
def Isolated (step : σ → ε → Option σ) (owner : ε → κ) (view : σ → κ → τ) : Prop :=
  ∀ s e s', step s e = some s' → ∀ k, owner e ≠ k → view s' k = view s k

variable {step : σ → ε → Option σ} {owner : ε → κ} {view : σ → κ → τ}

/-- **A run leaves the view** of every party that has no event in it. -/
theorem Isolated.run (h : Isolated step owner view) {s s' : σ} {es : List ε} {k : κ}
    (hes : ∀ e ∈ es, owner e ≠ k) (hrun : run step s es = some s') : view s' k = view s k := by
  induction es generalizing s with
  | nil =>
    cases hrun
    rfl
  | cons e es ih =>
    obtain ⟨he, hes⟩ := List.forall_mem_cons.mp hes
    rw [run_cons, Option.bind_eq_some_iff] at hrun
    obtain ⟨m, hm, hrest⟩ := hrun
    exact (ih hes hrest).trans (h s e m hm k he)

end Transition

import Mathlib.Tactic.Common

/-!
# Observers

An observer of a system asks it one question after another, each chosen from the answers so far, and
the system may answer the same question otherwise the next time.

* `transcript_eq_iff`: observers tell two systems apart if and only if some answer differs.
-/

namespace Transition

universe u v

variable {Q : Type u} {A : Type v}

/-- The answers to the first `n` questions of an observer. -/
def transcript (respond : ℕ → Q → A) (strategy : List A → Q) : ℕ → List A
  | 0 => []
  | n + 1 =>
    let seen := transcript respond strategy n
    seen ++ [respond n (strategy seen)]

variable {respond respond' : ℕ → Q → A} {strategy : List A → Q}

/-- **What observers can learn** is the answers: two systems that answer alike cannot be told apart
by any observer, and any other two can. -/
theorem transcript_eq_iff :
    (∀ (strategy : List A → Q) (n : ℕ),
        transcript respond strategy n = transcript respond' strategy n) ↔
      ∀ n q, respond n q = respond' n q := by
  constructor
  · intro h n q
    -- the observer that asks the one question over and over
    have hn := h (fun _ => q) (n + 1)
    rw [transcript, transcript] at hn
    exact List.singleton_inj.mp (List.append_inj' hn rfl).2
  · intro h strategy n
    induction n with
    | zero => rfl
    | succ n ih => rw [transcript, transcript, ih, h]

end Transition

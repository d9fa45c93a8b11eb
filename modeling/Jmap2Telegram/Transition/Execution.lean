import Mathlib.Data.List.Basic
import Mathlib.Order.Monotone.Basic
import Mathlib.Tactic.Common

/-!
# Executions of a step function

A system is given by a partial step function `step : σ → ε → Option σ`: `step s e = none` says
that the event `e` is not enabled in `s`. `run` feeds it a list of events, and an `Execution`
is a list of events together with the proof that every one of them was enabled, so that
`Execution.state k`, the state after `k` events, is total.

* `run_append`, `run_concat`: runs compose.
* `run_induction`: what every step preserves, every run preserves.
* `Execution.state_succ`: consecutive states are related by `step`.
* `Execution.induction`: the invariant rule indexed by the moment `k`.
* `Execution.length_le`: the ranking rule, from the moment `k` on.
* `Reachable`: the states some run leads to, closed under further steps.
-/

namespace Transition

universe u v

variable {σ : Type u} {ε : Type v} {step : σ → ε → Option σ}

/-- Feed a list of events to a step function; `none` once an event is not enabled. -/
def run (step : σ → ε → Option σ) : σ → List ε → Option σ
  | s, [] => some s
  | s, e :: es => (step s e).bind fun s' => run step s' es

@[simp]
theorem run_nil (s : σ) : run step s [] = some s := rfl

@[simp]
theorem run_cons (s : σ) (e : ε) (es : List ε) :
    run step s (e :: es) = (step s e).bind fun s' => run step s' es := rfl

theorem run_append (s : σ) (es fs : List ε) :
    run step s (es ++ fs) = (run step s es).bind fun s' => run step s' fs := by
  induction es generalizing s with
  | nil => rfl
  | cons e es ih =>
    simp only [List.cons_append, run_cons, Option.bind_assoc]
    exact congrArg _ (funext fun s' => ih s')

theorem run_concat (s : σ) (es : List ε) (e : ε) :
    run step s (es ++ [e]) = (run step s es).bind fun s' => step s' e := by
  rw [run_append]
  exact congrArg _ (funext fun s' => by simp)

/-- A run that goes through splits at every point. -/
theorem run_append_eq_some {s t : σ} {es fs : List ε} (h : run step s (es ++ fs) = some t) :
    ∃ m, run step s es = some m ∧ run step m fs = some t := by
  rw [run_append, Option.bind_eq_some_iff] at h
  exact h

theorem run_trans {s m t : σ} {es fs : List ε} (h : run step s es = some m)
    (h' : run step m fs = some t) : run step s (es ++ fs) = some t := by
  rw [run_append, h]
  exact h'

/-- **The invariant rule.** What every enabled step preserves holds after every run. -/
theorem run_induction (Inv : σ → Prop)
    (hstep : ∀ s e s', Inv s → step s e = some s' → Inv s') {s t : σ} {es : List ε}
    (hs : Inv s) (h : run step s es = some t) : Inv t := by
  induction es generalizing s with
  | nil =>
    cases h
    exact hs
  | cons e es ih =>
    rw [run_cons, Option.bind_eq_some_iff] at h
    obtain ⟨m, hm, ht⟩ := h
    exact ih (hstep s e m hs hm) ht

/-- The states some run leads to. -/
def Reachable (step : σ → ε → Option σ) (s t : σ) : Prop := ∃ es, run step s es = some t

theorem Reachable.trans {s m t : σ} (h : Reachable step s m) (h' : Reachable step m t) :
    Reachable step s t := by
  obtain ⟨es, hes⟩ := h
  obtain ⟨fs, hfs⟩ := h'
  exact ⟨es ++ fs, run_trans hes hfs⟩

theorem Reachable.single {s t : σ} {e : ε} (h : step s e = some t) : Reachable step s t :=
  ⟨[e], by simp [h]⟩

/-! ### Executions -/

/-- A finite execution from `start`: the events, and the proof that each was enabled. -/
structure Execution (step : σ → ε → Option σ) (start : σ) where
  /-- The events, in order. -/
  events : List ε
  /-- Every event was enabled when it happened. -/
  enabled : (run step start events).isSome

namespace Execution

variable {start : σ} (x : Execution step start)

theorem isSome_run_take (k : ℕ) : (run step start (x.events.take k)).isSome := by
  obtain ⟨t, ht⟩ := Option.isSome_iff_exists.mp x.enabled
  rw [← List.take_append_drop k x.events] at ht
  obtain ⟨m, hm, -⟩ := run_append_eq_some ht
  rw [hm]
  rfl

/-- The state after the first `k` events. -/
def state (k : ℕ) : σ := (run step start (x.events.take k)).get (x.isSome_run_take k)

/-- The final state. -/
def final : σ := (run step start x.events).get x.enabled

theorem run_take (k : ℕ) : run step start (x.events.take k) = some (x.state k) :=
  (Option.some_get _).symm

theorem run_events : run step start x.events = some x.final := (Option.some_get _).symm

@[simp]
theorem state_zero : x.state 0 = start := by
  have h := x.run_take 0
  rw [List.take_zero, run_nil] at h
  exact (Option.some.inj h).symm

theorem state_length : x.state x.events.length = x.final := by
  have h := x.run_take x.events.length
  rw [List.take_length, x.run_events] at h
  exact (Option.some.inj h).symm

/-- Consecutive states are related by the step function. -/
theorem state_succ {k : ℕ} (hk : k < x.events.length) :
    step (x.state k) x.events[k] = some (x.state (k + 1)) := by
  have h := x.run_take (k + 1)
  rwa [List.take_succ_eq_append_getElem hk, run_concat, x.run_take k, Option.bind_some] at h

/-- **The invariant rule along an execution**, with the moment available to the invariant. -/
theorem induction (Inv : ℕ → σ → Prop) (h0 : Inv 0 start)
    (hstep : ∀ k (hk : k < x.events.length), Inv k (x.state k) →
      step (x.state k) x.events[k] = some (x.state (k + 1)) → Inv (k + 1) (x.state (k + 1)))
    {k : ℕ} (hk : k ≤ x.events.length) : Inv k (x.state k) := by
  induction k with
  | zero => simpa using h0
  | succ k ih => exact hstep k hk (ih (Nat.le_of_succ_le hk)) (x.state_succ hk)

/-- After the last event nothing happens. -/
theorem state_of_length_le {k : ℕ} (hk : x.events.length ≤ k) : x.state k = x.final := by
  have h := x.run_take k
  rw [List.take_of_length_le hk, x.run_events] at h
  exact (Option.some.inj h).symm

/-- What every step keeps but the exceptional ones, stays until an exceptional step. -/
theorem stays_or {P : σ → Prop} {Q : σ → ε → Prop}
    (hstep : ∀ k (hk : k < x.events.length), P (x.state k) →
      P (x.state (k + 1)) ∨ Q (x.state k) x.events[k])
    {k : ℕ} (hP : P (x.state k)) (n : ℕ) :
    P (x.state (k + n)) ∨
      ∃ j e, k ≤ j ∧ j < k + n ∧ x.events[j]? = some e ∧ Q (x.state j) e := by
  induction n with
  | zero => exact .inl hP
  | succ n ih =>
    rcases ih with hn | ⟨j, e, hkj, hjn, he⟩
    · by_cases hlength : k + n < x.events.length
      · refine (hstep (k + n) hlength hn).imp id fun hQ => ?_
        exact ⟨k + n, _, Nat.le_add_right k n, Nat.lt_succ_self _,
          List.getElem?_eq_getElem hlength, hQ⟩
      · have hle : x.events.length ≤ k + n := not_lt.mp hlength
        rw [x.state_of_length_le hle] at hn
        exact .inl (x.state_of_length_le (Nat.le_succ_of_le hle) ▸ hn)
    · exact .inr ⟨j, e, hkj, Nat.lt_succ_of_lt hjn, he⟩

/-- What every step keeps, stays. -/
theorem stays {P : σ → Prop} (hstep : ∀ s e s', P s → step s e = some s' → P s') {k : ℕ}
    (hP : P (x.state k)) (n : ℕ) : P (x.state (k + n)) := by
  refine (x.stays_or (Q := fun _ _ => False) (fun j hj hP => ?_) hP n).elim id ?_
  · exact .inl (hstep _ _ _ hP (x.state_succ hj))
  · rintro ⟨_, _, _, _, _, hfalse⟩
    exact hfalse.elim

/-- **The ranking rule.** A rank that every step from some moment on lowers bounds the execution
from there. -/
theorem length_le {P : σ → ℕ → Prop} {k : ℕ}
    (hstep : ∀ j (hj : j < x.events.length) n, k ≤ j → P (x.state j) n →
      step (x.state j) x.events[j] = some (x.state (j + 1)) → ∃ n' < n, P (x.state (j + 1)) n')
    {n : ℕ} (h : P (x.state k) n) :
    x.events.length ≤ k + n := by
  induction n using Nat.strong_induction_on generalizing k with
  | h n ih =>
    rcases Nat.lt_or_ge k x.events.length with hk | hk
    · obtain ⟨n', hlt, hn'⟩ := hstep k hk n le_rfl h (x.state_succ hk)
      have hrest := ih n' hlt (fun j hj m hle => hstep j hj m (Nat.le_of_succ_le hle)) hn'
      omega
    · omega

/-- The execution cut after its first `k` events. -/
def truncate (k : ℕ) : Execution step start := ⟨x.events.take k, x.isSome_run_take k⟩

end Execution

end Transition

import Mathlib.Data.List.Nodup
import Mathlib.Tactic.Common

/-!
# Change logs and their cursors

A server's change log is a sequence of changes, some of which create an object; between two changes
the log has a state string, from which the server finds the place again. A client that holds a state
string asks for what was created after it and gets the objects of some stretch of the log, with the
state at its end.

* `between_add`: two stretches in a row are one stretch.
* `ChangeLog.changes_stateAt`: what a query from a known state answers.
-/

/-- A change log: the object each change creates, if it creates one, the state string after the
first `n` changes, and the place each state string stands for. -/
structure ChangeLog (α : Type*) where
  created : ℕ → Option α
  stateAt : ℕ → String
  position : String → Option ℕ
  position_stateAt : ∀ n, position (stateAt n) = some n

namespace ChangeLog

variable {α : Type*} (log : ChangeLog α)

theorem stateAt_injective : Function.Injective log.stateAt := by
  intro m n h
  have hm := log.position_stateAt m
  rw [h, log.position_stateAt n] at hm
  exact (Option.some.inj hm).symm

/-- What the `n` changes from the `p`-th on create, in order. -/
def between (p n : ℕ) : List α := (List.range' p n).filterMap log.created

@[simp]
theorem between_zero (p : ℕ) : log.between p 0 = [] := rfl

/-- Two stretches in a row are one stretch. -/
theorem between_add (p m n : ℕ) :
    log.between p (m + n) = log.between p m ++ log.between (p + m) n := by
  rw [between, between, between, ← List.filterMap_append, ← List.range'_append_1]

theorem mem_between {p n : ℕ} {a : α} :
    a ∈ log.between p n ↔ ∃ i, p ≤ i ∧ i < p + n ∧ log.created i = some a := by
  simp only [between, List.mem_filterMap, List.mem_range'_1, and_assoc]

/-- When no two changes create the same object, a stretch lists each of its objects once. -/
theorem nodup_between (hcreated : ∀ i j a, log.created i = some a → log.created j = some a → i = j)
    (p n : ℕ) : (log.between p n).Nodup :=
  List.Nodup.filterMap (fun i j a hi hj => hcreated i j a hi hj) List.nodup_range'

/-- The answer to a query from a state: what the next `n` changes create, and the state after
them; nothing when the server does not know the state. -/
def changes (since : String) (n : ℕ) : Option (List α × String) :=
  (log.position since).map fun p => (log.between p n, log.stateAt (p + n))

@[simp]
theorem changes_stateAt (p n : ℕ) :
    log.changes (log.stateAt p) n = some (log.between p n, log.stateAt (p + n)) := by
  rw [changes, log.position_stateAt, Option.map_some]

end ChangeLog

import Jmap2Telegram.Transition.Programs

/-!
# Locks that programs hold

An instruction may have to take a lock, and another releases it: a task holds the locks that its
program has still to release. When an instruction that takes a lock waits for every task that holds
it, and only such an instruction brings the release into its program, no two tasks hold a lock at
once.

* `Exclusive.step`: mutual exclusion is kept by every step.
-/

namespace Transition

universe u v w x

variable {σ : Type u} {ι : Type v} {α : Type w} {Λ : Type x} (unlocks : ι → Option Λ)

/-- A program holds a lock that it has still to release. -/
def Holds (l : Λ) (program : List ι) : Prop := ∃ i ∈ program, unlocks i = some l

/-- No two tasks hold the same lock. -/
def Exclusive (tasks : List (List ι)) : Prop :=
  ∀ (l : Λ) (i j : ℕ) (p q : List ι), tasks[i]? = some p → tasks[j]? = some q →
    Holds unlocks l p → Holds unlocks l q → i = j

variable {unlocks} {l : Λ} {instr : ι} {p q : List ι}

theorem Holds.cons (h : Holds unlocks l p) : Holds unlocks l (instr :: p) := by
  obtain ⟨i, hi, hl⟩ := h
  exact ⟨i, List.mem_cons_of_mem _ hi, hl⟩

theorem holds_append : Holds unlocks l (p ++ q) ↔ Holds unlocks l p ∨ Holds unlocks l q := by
  simp only [Holds, List.mem_append, or_and_right, exists_or]

/-- Tasks that hold nothing exclude each other. -/
theorem Exclusive.of_forall {tasks : List (List ι)}
    (h : ∀ p ∈ tasks, ∀ i ∈ p, unlocks i = none) : Exclusive unlocks tasks := by
  intro l i j p q hp _ hheld _
  obtain ⟨instr, hinstr, hl⟩ := hheld
  rw [h p (List.mem_of_getElem? hp) instr hinstr] at hl
  cases hl

variable {blocked : List (List ι) → ι → Bool} {exec : α → ι → σ → σ × List ι}
  {locks : ι → Option Λ} {s s' : System σ ι} {e : ℕ × α}

/-- **Mutual exclusion.** A step keeps it, when the instruction that takes a lock waits for the
tasks that hold it. -/
theorem Exclusive.step (h : Exclusive unlocks s.tasks)
    (hwaits : ∀ (instr : ι) (l : Λ), locks instr = some l → blocked s.tasks instr = false →
      ∀ p ∈ s.tasks, ¬Holds unlocks l p)
    (hexec : ∀ (a : α) (instr : ι) (state : σ) (l : Λ),
      Holds unlocks l (exec a instr state).2 → locks instr = some l)
    (hstep : System.step blocked exec s e = some s') : Exclusive unlocks s'.tasks := by
  obtain ⟨instr, rest, htask, hfree, rfl⟩ := System.step_eq_some_iff.mp hstep
  -- what the task that moves holds, it held before, or nobody did
  have hmoved : ∀ (l : Λ) (j : ℕ) (q : List ι), j ≠ e.1 → s.tasks[j]? = some q →
      Holds unlocks l ((exec e.2 instr s.state).2 ++ rest) → Holds unlocks l q → False := by
    intro l j q hj hq hp hheld
    rcases holds_append.mp hp with hnew | hold
    · exact hwaits instr l (hexec _ _ _ _ hnew) hfree q (List.mem_of_getElem? hq) hheld
    · exact hj (h l j e.1 q _ hq htask hheld hold.cons)
  have hself : (s.tasks.set e.1 ((exec e.2 instr s.state).2 ++ rest))[e.1]? =
      some ((exec e.2 instr s.state).2 ++ rest) := by
    rw [List.getElem?_set_self', htask]
    rfl
  intro l i j p q hp hq hheldp hheldq
  dsimp only at hp hq
  -- of the two that hold the lock, one, both or neither may have moved
  by_cases hi : i = e.1 <;> by_cases hj : j = e.1
  · rw [hi, hj]
  · subst hi
    cases hself.symm.trans hp
    rw [List.getElem?_set_ne (Ne.symm hj)] at hq
    exact (hmoved l j q hj hq hheldp hheldq).elim
  · subst hj
    cases hself.symm.trans hq
    rw [List.getElem?_set_ne (Ne.symm hi)] at hp
    exact (hmoved l i p hi hp hheldq hheldp).elim
  · rw [List.getElem?_set_ne (Ne.symm hi)] at hp
    rw [List.getElem?_set_ne (Ne.symm hj)] at hq
    exact h l i j p q hp hq hheldp hheldq

end Transition

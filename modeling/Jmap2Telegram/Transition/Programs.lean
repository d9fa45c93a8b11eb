import Jmap2Telegram.Transition.Execution

/-!
# Programs interleaved over a shared state

Tasks that run programs, lists of atomic instructions, over a shared state. An instruction changes
the state and says what its task runs before the rest of its program, so that programs branch and
loop; an `Answer` stands for what the outside makes of it. A task whose next instruction is blocked
has to wait; what blocks it may depend on what the other tasks have still to do, as a lock does that
another task has still to release.

* `System.step_eq_some_iff`: what a step does.
* `Runs`: a program run to its end without interruption; `Runs.append`: runs compose.
-/

namespace Transition

universe u v w

/-- A shared state, and what each task has still to do. -/
structure System (σ : Type u) (ι : Type v) where
  state : σ
  tasks : List (List ι)

namespace System

variable {σ : Type u} {ι : Type v} {α : Type w} (blocked : List (List ι) → ι → Bool)
  (exec : α → ι → σ → σ × List ι)

/-- The next instruction of a task, with the answer it gets. -/
def step (s : System σ ι) (e : ℕ × α) : Option (System σ ι) :=
  match s.tasks[e.1]? with
  | some (instr :: rest) =>
    if blocked s.tasks instr then none
    else
      some ⟨(exec e.2 instr s.state).1, s.tasks.set e.1 ((exec e.2 instr s.state).2 ++ rest)⟩
  | _ => none

variable {blocked exec} {s s' : System σ ι} {e : ℕ × α}

/-- A step runs the next instruction of a task that is not blocked. -/
theorem step_eq_some_iff : step blocked exec s e = some s' ↔
    ∃ instr rest, s.tasks[e.1]? = some (instr :: rest) ∧ blocked s.tasks instr = false ∧
      s' = ⟨(exec e.2 instr s.state).1,
        s.tasks.set e.1 ((exec e.2 instr s.state).2 ++ rest)⟩ := by
  rw [step]
  rcases htask : s.tasks[e.1]? with - | (- | ⟨instr, rest⟩)
  · simp
  · simp
  · simp only [Option.some.injEq, List.cons.injEq]
    constructor
    · intro h
      split at h
      · cases h
      case isFalse hblocked =>
        cases h
        exact ⟨instr, rest, ⟨rfl, rfl⟩, Bool.eq_false_iff.mpr hblocked, rfl⟩
    · rintro ⟨instr', rest', ⟨rfl, rfl⟩, hblocked, rfl⟩
      rw [if_neg (Bool.eq_false_iff.mp hblocked)]

end System

/-! ### Programs by themselves -/

/-- A program runs to its end, without interruption, and takes one state to the other. -/
inductive Runs {σ : Type u} {ι : Type v} {α : Type w} (exec : α → ι → σ → σ × List ι) :
    List ι → σ → σ → Prop where
  | nil (s : σ) : Runs exec [] s s
  | cons {instr : ι} {rest : List ι} {s s' : σ} (answer : α)
    (h : Runs exec ((exec answer instr s).2 ++ rest) (exec answer instr s).1 s') :
    Runs exec (instr :: rest) s s'

theorem Runs.append {σ : Type u} {ι : Type v} {α : Type w} {exec : α → ι → σ → σ × List ι}
    {p q : List ι} {s m s' : σ} (h : Runs exec p s m) (h' : Runs exec q m s') :
    Runs exec (p ++ q) s s' := by
  induction h with
  | nil => exact h'
  | cons answer _ ih =>
    refine .cons answer ?_
    have hrest := ih h'
    rwa [List.append_assoc] at hrest

end Transition

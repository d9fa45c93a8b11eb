import Jmap2Telegram.Transition.Programs

/-!
# Brackets in a program

Some instructions open a bracket and others close it. A program that will close before it opens
again is within the bracket: it has been opened and is not closed yet. A program that runs changes
as it goes, since an instruction may expand to others; here are the conditions under which it is
within the bracket from the step that opens it to the one that closes it, and at no other time.

* `Bracket.tidy_step`: programs that are tidy stay tidy.
* `Bracket.inside_of_step`, `Bracket.inside_step`: a step into a bracket opens it, and a step out of
  it closes it.
-/

namespace Transition

universe u v w

/-- The instructions that open a bracket and those that close it. -/
structure Bracket (ι : Type u) where
  opens : ι → Prop
  closes : ι → Prop
  /-- The instruction may expand to brackets of its own. -/
  brings : ι → Prop

namespace Bracket

variable {ι : Type u} (b : Bracket ι)

/-- The program closes before it opens. -/
def Within : List ι → Prop
  | [] => False
  | i :: rest => b.closes i ∨ ¬b.opens i ∧ Within rest

/-- What is opened is closed, before what may bring another bracket. -/
def Tidy : List ι → Prop
  | [] => True
  | i :: rest => (b.opens i → b.Within rest) ∧ (b.brings i → ¬b.Within rest) ∧ Tidy rest

/-- What an instruction may expand to. -/
structure Expands (i : ι) (new : List ι) : Prop where
  not_within : ¬b.Within new
  tidy : ∀ rest, b.Tidy rest → b.Tidy (new ++ rest)
  opens : ∀ j ∈ new, b.opens j → b.brings i

variable {b} {i : ι} {p q new rest : List ι}

theorem not_within_of_forall (h : ∀ i ∈ p, ¬b.closes i) : ¬b.Within p := by
  induction p with
  | nil => exact id
  | cons i p ih =>
    rintro (hcloses | ⟨-, hp⟩)
    · exact h i List.mem_cons_self hcloses
    · exact ih (fun j hj => h j (List.mem_cons_of_mem _ hj)) hp

theorem within_of_append (hp : ¬b.Within p) (h : b.Within (p ++ q)) : b.Within q := by
  induction p with
  | nil => exact h
  | cons i p ih =>
    rcases h with hcloses | ⟨hopens, hrest⟩
    · exact (hp (.inl hcloses)).elim
    · exact ih (fun hp' => hp (.inr ⟨hopens, hp'⟩)) hrest

theorem Within.append (hq : b.Within q) (hp : ∀ i ∈ p, ¬b.opens i) : b.Within (p ++ q) := by
  induction p with
  | nil => exact hq
  | cons i p ih =>
    exact .inr ⟨hp i List.mem_cons_self, ih fun j hj => hp j (List.mem_cons_of_mem _ hj)⟩

/-- Instructions that neither open nor bring a bracket can stand anywhere. -/
theorem Tidy.append (hq : b.Tidy q) (hp : ∀ i ∈ p, ¬b.opens i ∧ ¬b.brings i) :
    b.Tidy (p ++ q) := by
  induction p with
  | nil => exact hq
  | cons i p ih =>
    obtain ⟨hopens, hbrings⟩ := hp i List.mem_cons_self
    exact ⟨fun h => (hopens h).elim, fun h => (hbrings h).elim,
      ih fun j hj => hp j (List.mem_cons_of_mem _ hj)⟩

/-- An instruction that expands to others that have nothing to do with the bracket. -/
theorem Expands.of_forall (h : ∀ j ∈ new, ¬b.opens j ∧ ¬b.closes j ∧ ¬b.brings j) :
    b.Expands i new where
  not_within := not_within_of_forall fun j hj => (h j hj).2.1
  tidy _ hrest := hrest.append fun j hj => ⟨(h j hj).1, (h j hj).2.2⟩
  opens j hj hopens := ((h j hj).1 hopens).elim

/-- A program gets into the bracket by opening it. -/
theorem within_expand (hnew : b.Expands i new) (h : b.Within (new ++ rest)) :
    b.Within (i :: rest) ∨ b.opens i := by
  have hrest := within_of_append hnew.not_within h
  by_cases hopens : b.opens i
  · exact .inr hopens
  · exact .inl (.inr ⟨hopens, hrest⟩)

/-- A tidy program is within the bracket after it has opened it, and until it closes it. -/
theorem Tidy.within_expand (h : b.Tidy (i :: rest)) (hnew : b.Expands i new)
    (hwithin : b.opens i ∨ b.Within (i :: rest) ∧ ¬b.closes i) : b.Within (new ++ rest) := by
  have hrest : b.Within rest := by
    rcases hwithin with hopens | ⟨hcloses | ⟨-, hrest⟩, hnot⟩
    · exact h.1 hopens
    · exact (hnot hcloses).elim
    · exact hrest
  -- so the instruction brings no other bracket
  exact hrest.append fun j hj hopens => h.2.1 (hnew.opens j hj hopens) hrest

/-! ### Tasks -/

section

variable {σ : Type v} {α : Type w} {blocked : List (List ι) → ι → Bool}
  {exec : α → ι → σ → σ × List ι} {s s' : System σ ι} {e : ℕ × α}

/-- Some task is within the bracket. -/
def Inside (b : Bracket ι) (s : System σ ι) : Prop := ∃ p ∈ s.tasks, b.Within p

variable (hexec : ∀ a i s, b.Expands i (exec a i s).2)
  (hstep : System.step blocked exec s e = some s')

include hexec hstep

/-- Tidy programs stay tidy. -/
theorem tidy_step (htidy : ∀ p ∈ s.tasks, b.Tidy p) : ∀ p ∈ s'.tasks, b.Tidy p := by
  obtain ⟨i, rest, htask, -, rfl⟩ := System.step_eq_some_iff.mp hstep
  intro p hp
  rcases List.mem_or_eq_of_mem_set hp with hp | rfl
  · exact htidy p hp
  · exact (hexec e.2 i s.state).tidy rest (htidy _ (List.mem_of_getElem? htask)).2.2

/-- A task that gets into the bracket opens it. -/
theorem inside_of_step (htask : s.tasks[e.1]? = some (i :: rest)) (h : b.Inside s') :
    b.Inside s ∨ b.opens i := by
  obtain ⟨i', rest', htask', -, rfl⟩ := System.step_eq_some_iff.mp hstep
  cases htask.symm.trans htask'
  obtain ⟨p, hp, hwithin⟩ := h
  rcases List.mem_or_eq_of_mem_set hp with hp | rfl
  · exact .inl ⟨p, hp, hwithin⟩
  · exact (within_expand (hexec e.2 i s.state) hwithin).imp_left fun hbefore =>
      ⟨_, List.mem_of_getElem? htask, hbefore⟩

/-- A task that opens the bracket is within it, and one that is stays until it closes it. -/
theorem inside_step (htidy : ∀ p ∈ s.tasks, b.Tidy p) (htask : s.tasks[e.1]? = some (i :: rest))
    (h : b.opens i ∨ b.Inside s ∧ ¬b.closes i) : b.Inside s' := by
  obtain ⟨i', rest', htask', -, rfl⟩ := System.step_eq_some_iff.mp hstep
  cases htask.symm.trans htask'
  have hlt : e.1 < s.tasks.length := (List.getElem?_eq_some_iff.mp htask).1
  have hmoved : b.opens i ∨ b.Within (i :: rest) ∧ ¬b.closes i →
      b.Inside ⟨(exec e.2 i s.state).1, s.tasks.set e.1 ((exec e.2 i s.state).2 ++ rest)⟩ :=
    fun h => ⟨_, List.mem_set hlt _,
      (htidy _ (List.mem_of_getElem? htask)).within_expand (hexec e.2 i s.state) h⟩
  rcases h with hopens | ⟨⟨p, hp, hwithin⟩, hcloses⟩
  · exact hmoved (.inl hopens)
  · obtain ⟨j, hj⟩ := List.getElem?_of_mem hp
    rcases eq_or_ne e.1 j with rfl | hne
    · cases htask.symm.trans hj
      exact hmoved (.inr ⟨hwithin, hcloses⟩)
    · refine ⟨p, List.mem_of_getElem? (i := j) ?_, hwithin⟩
      rw [List.getElem?_set_ne hne, hj]

end

end Bracket

end Transition

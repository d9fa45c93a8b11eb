import Mathlib.Data.List.Basic
import Mathlib.Data.List.Infix
import Mathlib.Order.Bounds.Defs
import Mathlib.Tactic.Common

/-!
# Cutting a list greedily

A list is cut into consecutive groups, each of which has to fit. The greedy cut puts an element into
the group before it whenever the group still fits with it. When what fits goes on fitting without
its ends, no cut has fewer groups.

* `Cut`: the ways to cut a list into groups that fit.
* `cut_greedy`: the greedy cut is one of them, if every element fits by itself.
* `isLeast_length_greedy`: it has the least number of groups.
-/

namespace Packing

universe u

variable {α : Type u}

/-- A cut of a list into consecutive groups that fit. -/
structure Cut (fits : List α → Prop) (l : List α) (groups : List (List α)) : Prop where
  flatten_eq : groups.flatten = l
  ne_nil : ∀ group ∈ groups, group ≠ []
  fits : ∀ group ∈ groups, fits group

/-- What fits goes on fitting without its ends. -/
def Hereditary (fits : List α → Prop) : Prop := ∀ a b : List α, a <:+: b → fits b → fits a

section

variable (fits : List α → Prop) [DecidablePred fits]

/-- The greedy cut of a list, after the elements `group` of the group that is being filled. -/
def greedyFrom (group : List α) : List α → List (List α)
  | [] => [group]
  | x :: xs =>
    if fits (group ++ [x]) then greedyFrom (group ++ [x]) xs else group :: greedyFrom [x] xs

/-- The greedy cut of a list. -/
def greedy : List α → List (List α)
  | [] => []
  | x :: xs => greedyFrom fits [x] xs

end

variable {fits : List α → Prop} [DecidablePred fits] {group l xs : List α}

theorem greedyFrom_cons_of_fits {x : α} (h : fits (group ++ [x])) :
    greedyFrom fits group (x :: xs) = greedyFrom fits (group ++ [x]) xs := if_pos h

theorem greedyFrom_cons_of_not_fits {x : α} (h : ¬fits (group ++ [x])) :
    greedyFrom fits group (x :: xs) = group :: greedyFrom fits [x] xs := if_neg h

/-- The first group of the greedy cut goes on from the group that is being filled. -/
theorem exists_greedyFrom_eq_cons (fits : List α → Prop) [DecidablePred fits] (group xs : List α) :
    ∃ rest groups, greedyFrom fits group xs = (group ++ rest) :: groups := by
  induction xs generalizing group with
  | nil => exact ⟨[], [], by rw [greedyFrom, List.append_nil]⟩
  | cons x xs ih =>
    by_cases hfits : fits (group ++ [x])
    · obtain ⟨rest, groups, heq⟩ := ih (group ++ [x])
      refine ⟨x :: rest, groups, ?_⟩
      rw [greedyFrom_cons_of_fits hfits, heq, List.append_cons group x rest]
    · exact ⟨[], _, by rw [greedyFrom_cons_of_not_fits hfits, List.append_nil]⟩

/-- The greedy cut has the elements of the list. -/
theorem flatten_greedyFrom (fits : List α → Prop) [DecidablePred fits] (group xs : List α) :
    (greedyFrom fits group xs).flatten = group ++ xs := by
  induction xs generalizing group with
  | nil => rw [greedyFrom, List.flatten_singleton, List.append_nil]
  | cons x xs ih =>
    rw [greedyFrom]
    split
    · rw [ih, ← List.append_cons]
    · rw [List.flatten_cons, ih, List.singleton_append]

/-! ### A cut -/

theorem cut_greedyFrom (hne : group ≠ []) (hgroup : fits group) (hxs : ∀ x ∈ xs, fits [x]) :
    Cut fits (group ++ xs) (greedyFrom fits group xs) := by
  suffices h : ∀ g ∈ greedyFrom fits group xs, g ≠ [] ∧ fits g from
    ⟨flatten_greedyFrom fits group xs, fun g hg => (h g hg).1, fun g hg => (h g hg).2⟩
  induction xs generalizing group with
  | nil =>
    rw [greedyFrom]
    exact List.forall_mem_singleton.mpr ⟨hne, hgroup⟩
  | cons x xs ih =>
    have hrest : ∀ y ∈ xs, fits [y] := fun y hy => hxs y (List.mem_cons_of_mem x hy)
    by_cases hfits : fits (group ++ [x])
    · rw [greedyFrom_cons_of_fits hfits]
      exact ih (by simp) hfits hrest
    · rw [greedyFrom_cons_of_not_fits hfits]
      exact List.forall_mem_cons.mpr
        ⟨⟨hne, hgroup⟩, ih (List.cons_ne_nil x []) (hxs x List.mem_cons_self) hrest⟩

/-- **The greedy cut** is a cut, if every element fits by itself. -/
theorem cut_greedy (h : ∀ x ∈ l, fits [x]) : Cut fits l (greedy fits l) := by
  rcases l with - | ⟨x, xs⟩
  · exact ⟨rfl, List.forall_mem_nil _, List.forall_mem_nil _⟩
  · exact cut_greedyFrom (List.cons_ne_nil x []) (h x List.mem_cons_self)
      fun y hy => h y (List.mem_cons_of_mem x hy)

/-! ### The least number of groups -/

omit [DecidablePred fits] in
/-- The first group of a cut does not reach beyond what the greedy cut fills its group with. -/
theorem length_le_of_not_fits (hfits : Hereditary fits) {a b g rest : List α} {x : α}
    (hg : fits g) (hcut : g ++ rest = a ++ b ++ x :: xs) (hx : ¬fits (b ++ [x])) :
    g.length ≤ (a ++ b).length := by
  by_contra hlong
  have hprefix : a ++ b ++ [x] <+: g := by
    refine List.prefix_of_prefix_length_le ?_ (List.prefix_append g rest) ?_
    · rw [hcut]
      exact ⟨xs, by simp⟩
    · rw [List.length_append, List.length_singleton]
      omega
  have hinfix : b ++ [x] <:+: g := by
    refine List.IsInfix.trans ?_ hprefix.isInfix
    exact ⟨a, [], by simp⟩
  exact hx (hfits _ _ hinfix hg)

/-- The greedy cut of the end of a list has no more groups than any cut of the list. -/
theorem length_greedyFrom_le (hfits : Hereditary fits) (hne : group ≠ [])
    {groups : List (List α)} (hcut : Cut fits l groups) (hl : group ++ xs <:+ l) :
    (greedyFrom fits group xs).length ≤ groups.length := by
  induction xs generalizing group l groups with
  | nil =>
    have hgroups : groups ≠ [] := by
      rintro rfl
      rw [← hcut.flatten_eq] at hl
      exact hne (by simpa using hl)
    have hpos := List.length_pos_iff.mpr hgroups
    rw [greedyFrom, List.length_singleton]
    omega
  | cons x xs ih =>
    by_cases hx : fits (group ++ [x])
    · rw [greedyFrom_cons_of_fits hx]
      exact ih (by simp) hcut (by rwa [← List.append_cons])
    · rw [greedyFrom_cons_of_not_fits hx, List.length_cons]
      obtain ⟨before, hl⟩ := hl
      rcases groups with - | ⟨g, groups⟩
      · have hnil := hcut.flatten_eq
        rw [List.flatten_nil, ← hl] at hnil
        simp at hnil
      · -- the first group ends before `x`, so the others still have to hold it
        have hflatten : g ++ groups.flatten = before ++ group ++ x :: xs := by
          rw [List.append_assoc, hl, ← hcut.flatten_eq, List.flatten_cons]
        have hlength := length_le_of_not_fits hfits (hcut.fits g List.mem_cons_self) hflatten hx
        have hsuffix : [x] ++ xs <:+ groups.flatten := by
          have hxs : [x] ++ xs <:+ before ++ group ++ x :: xs := ⟨before ++ group, by simp⟩
          have hgroups' : groups.flatten <:+ before ++ group ++ x :: xs := ⟨g, hflatten⟩
          refine List.suffix_of_suffix_length_le hxs hgroups' ?_
          have hlengths := congrArg List.length hflatten
          simp only [List.length_append, List.length_cons, List.length_nil] at hlengths hlength ⊢
          omega
        have hrest : Cut fits groups.flatten groups :=
          ⟨rfl, fun g' hg' => hcut.ne_nil g' (List.mem_cons_of_mem g hg'),
            fun g' hg' => hcut.fits g' (List.mem_cons_of_mem g hg')⟩
        have hle := ih (List.cons_ne_nil x []) hrest hsuffix
        rw [List.length_cons]
        omega

/-- **The greedy cut has the least number of groups** of all cuts of a list, if what fits goes on
fitting without its ends. -/
theorem isLeast_length_greedy (hfits : Hereditary fits) (h : ∀ x ∈ l, fits [x]) :
    IsLeast {n | ∃ groups, Cut fits l groups ∧ groups.length = n} (greedy fits l).length := by
  refine ⟨⟨_, cut_greedy h, rfl⟩, ?_⟩
  rintro n ⟨groups, hcut, rfl⟩
  rcases l with - | ⟨x, xs⟩
  · exact Nat.zero_le _
  · exact length_greedyFrom_le hfits (List.cons_ne_nil x []) hcut List.suffix_rfl

end Packing

import Mathlib.Data.List.Basic
import Mathlib.Logic.Relation
import Mathlib.Tactic.Common

/-!
# Searching a finite graph by its frontier

A search keeps the nodes it has seen and, of these, the ones it has not read yet: its frontier.
A round reads the frontier: the children it had not seen are seen now, and are the next frontier.
`Round` says what a round does, whatever the order in which it reads, and these rules hold of every
search made of such rounds.

* `Inv.of_round`: a round keeps the invariant of the search.
* `Inv.mem_iff`: with nothing left in the frontier, what is seen is what is reachable.
* `Round.unseen_lt`: a round that leaves a frontier has used up a node, so that a search ends.
-/

namespace Frontier

/-- A graph whose edges lead to finitely many nodes. -/
structure Graph (α : Type*) where
  nodes : List α
  children : α → List α
  children_mem : ∀ a, ∀ b ∈ children a, b ∈ nodes

variable {α : Type*}

namespace Graph

/-- An edge. -/
def Child (g : Graph α) (a b : α) : Prop := b ∈ g.children a

/-- A path leads to the node from a root, possibly of no edge. -/
def Reachable (g : Graph α) (roots : List α) (b : α) : Prop :=
  ∃ a ∈ roots, Relation.ReflTransGen g.Child a b

/-- The same nodes, of which these have lost their children. -/
def without (g : Graph α) (lost : α → Bool) : Graph α where
  nodes := g.nodes
  children a := if lost a then [] else g.children a
  children_mem a b hb := by
    split at hb
    · exact absurd hb List.not_mem_nil
    · exact g.children_mem a b hb

variable {g : Graph α} {roots : List α} {a b : α}

theorem reachable_of_mem (ha : a ∈ roots) : g.Reachable roots a := ⟨a, ha, .refl⟩

theorem Reachable.child (ha : g.Reachable roots a) (hb : g.Child a b) : g.Reachable roots b :=
  ha.imp fun _ h => ⟨h.1, h.2.tail hb⟩

/-- What holds of the roots and of the children of what it holds of, holds of what is reachable. -/
theorem Reachable.induction {p : α → Prop} (hroots : ∀ a ∈ roots, p a)
    (hchild : ∀ a b, p a → g.Child a b → p b) (h : g.Reachable roots b) : p b := by
  obtain ⟨a, ha, hpath⟩ := h
  induction hpath with
  | refl => exact hroots a ha
  | tail _ hbc ih => exact hchild _ _ ih hbc

end Graph

/-! ### A round -/

/-- What a round does with the nodes seen and the frontier. -/
structure Round (g : Graph α) (seen frontier seen' next : List α) : Prop where
  mem_seen : ∀ b, b ∈ seen' ↔ b ∈ seen ∨ ∃ a ∈ frontier, g.Child a b
  mem_next : ∀ b, b ∈ next ↔ b ∉ seen ∧ ∃ a ∈ frontier, g.Child a b

/-- What a search knows: it saw the roots, only what is reachable, and the children of everything
but the frontier. -/
structure Inv (g : Graph α) (roots seen frontier : List α) : Prop where
  roots_seen : ∀ a ∈ roots, a ∈ seen
  sound : ∀ a ∈ seen, g.Reachable roots a
  pending : ∀ a ∈ frontier, a ∈ seen
  closed : ∀ a ∈ seen, a ∉ frontier → ∀ b, g.Child a b → b ∈ seen

variable {g : Graph α} {roots seen frontier seen' next : List α}

/-- A search begins with its roots. -/
theorem Inv.init : Inv g roots roots roots where
  roots_seen _ ha := ha
  sound _ ha := Graph.reachable_of_mem ha
  pending _ ha := ha
  closed _ ha hfrontier := absurd ha hfrontier

theorem Inv.of_round (h : Inv g roots seen frontier) (hround : Round g seen frontier seen' next) :
    Inv g roots seen' next where
  roots_seen a ha := (hround.mem_seen a).mpr (.inl (h.roots_seen a ha))
  sound b hb := by
    rcases (hround.mem_seen b).mp hb with hseen | ⟨a, ha, hab⟩
    · exact h.sound b hseen
    · exact (h.sound a (h.pending a ha)).child hab
  pending b hb := (hround.mem_seen b).mpr (.inr ((hround.mem_next b).mp hb).2)
  closed a ha hnext b hab := by
    rw [hround.mem_seen]
    -- what a round sees and does not leave in the frontier was seen before
    have hseen : a ∈ seen := by
      by_contra hnot
      have hchild := ((hround.mem_seen a).mp ha).resolve_left hnot
      exact hnext ((hround.mem_next a).mpr ⟨hnot, hchild⟩)
    by_cases hfrontier : a ∈ frontier
    · exact .inr ⟨a, hfrontier, hab⟩
    · exact .inl (h.closed a hseen hfrontier b hab)

/-- **Main result.** A search with nothing left in its frontier saw exactly what is reachable. -/
theorem Inv.mem_iff (h : Inv g roots seen []) (b : α) : b ∈ seen ↔ g.Reachable roots b :=
  ⟨h.sound b, fun hb => hb.induction h.roots_seen
    fun a b ha hab => h.closed a ha List.not_mem_nil b hab⟩

/-! ### The end of a search -/

variable [DecidableEq α]

/-- How many nodes were not seen. -/
def unseen (g : Graph α) (seen : List α) : ℕ := (g.nodes.filter fun a => a ∉ seen).length

theorem unseen_le (g : Graph α) (seen : List α) : unseen g seen ≤ g.nodes.length :=
  List.length_filter_le ..

/-- A round that leaves a frontier has seen a node for the first time. -/
theorem Round.unseen_lt (hround : Round g seen frontier seen' next) (hnext : next ≠ []) :
    unseen g seen' < unseen g seen := by
  obtain ⟨b, hb⟩ := List.exists_mem_of_ne_nil next hnext
  obtain ⟨hnot, a, ha, hab⟩ := (hround.mem_next b).mp hb
  have hseen' : b ∈ seen' := (hround.mem_seen b).mpr (.inr ⟨a, ha, hab⟩)
  have hnode : b ∈ g.nodes.filter fun a => a ∉ seen := by
    simpa using And.intro (g.children_mem a b hab) hnot
  have hsub : ∀ a, a ∉ seen' → a ∉ seen := fun a h hseen => h ((hround.mem_seen a).mpr (.inl hseen))
  have hfilter : (g.nodes.filter fun a => a ∉ seen') =
      (g.nodes.filter fun a => a ∉ seen).filter fun a => a ∉ seen' := by
    rw [List.filter_filter]
    refine List.filter_congr fun a _ => ?_
    by_cases ha' : a ∈ seen'
    · simp [ha']
    · simp [ha', hsub a ha']
  rw [unseen, unseen, hfilter]
  exact List.length_filter_lt_length_iff_exists.mpr ⟨b, hnode, by simpa using hseen'⟩

end Frontier

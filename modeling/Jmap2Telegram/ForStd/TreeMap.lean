import Std.Data.ExtTreeMap
import Mathlib.Tactic.Common

/-!
# Finite maps

`Std.ExtTreeMap` is the finite map of this development: it is extensional, its entries come out
in key order, and Std proves its lookup lemmas. `Map` fixes the comparison to the keys' own order,
with pairs ordered lexicographically, and a few lookup lemmas are stated in the form the models
use: what `filter` does to a lookup, and which entry comes first.
-/

attribute [instance] lexOrd

/-- The finite maps of the development, ordered by the keys' own order. -/
abbrev Map (κ : Type*) (ν : Type*) [Ord κ] := Std.ExtTreeMap κ ν compare

namespace Map

variable {κ ν : Type*} [Ord κ] [Std.TransOrd κ]

/-- A key is there if something is found under it. -/
theorem mem_iff_exists {m : Map κ ν} {k : κ} : k ∈ m ↔ ∃ v, m[k]? = some v := by
  rw [← Std.ExtTreeMap.isSome_getElem?_iff_mem, Option.isSome_iff_exists]

theorem mem_of_getElem? {m : Map κ ν} {k : κ} {v : ν} (h : m[k]? = some v) : k ∈ m :=
  mem_iff_exists.mpr ⟨v, h⟩

variable [Std.LawfulEqOrd κ]

theorem isEmpty_iff_forall_not_mem {m : Map κ ν} : m.isEmpty = true ↔ ∀ k, k ∉ m := by
  rw [Std.ExtTreeMap.isEmpty_iff]
  refine ⟨fun h k => by simp [h], fun h => Std.ExtTreeMap.ext_getElem? fun k => ?_⟩
  rw [Std.ExtTreeMap.getElem?_eq_none (h k), Std.ExtTreeMap.getElem?_empty]

theorem getElem?_insert [DecidableEq κ] {m : Map κ ν} {k a : κ} {v : ν} :
    (m.insert k v)[a]? = if k = a then some v else m[a]? := by
  rw [Std.ExtTreeMap.getElem?_insert]
  simp only [Std.LawfulEqOrd.compare_eq_iff_eq]

theorem getElem?_erase [DecidableEq κ] {m : Map κ ν} {k a : κ} :
    (m.erase k)[a]? = if k = a then none else m[a]? := by
  rw [Std.ExtTreeMap.getElem?_erase]
  simp only [Std.LawfulEqOrd.compare_eq_iff_eq]

theorem getElem?_modify [DecidableEq κ] {m : Map κ ν} {k a : κ} {f : ν → ν} :
    (m.modify k f)[a]? = if k = a then m[a]?.map f else m[a]? := by
  rw [Std.ExtTreeMap.getElem?_modify]
  simp only [Std.LawfulEqOrd.compare_eq_iff_eq]
  split
  case isTrue h => rw [h]
  case isFalse => rfl

/-- An edit of a value in place leaves what is read of every value, if it leaves it of that one. -/
theorem map_getElem?_modify {β : Type*} {m : Map κ ν} {k a : κ} {f : ν → ν} {g : ν → β}
    (hf : ∀ v, g (f v) = g v) : (m.modify k f)[a]?.map g = m[a]?.map g := by
  classical
  rw [getElem?_modify]
  split
  · rw [Option.map_map]
    exact congrArg (fun g' => Option.map g' m[a]?) (funext hf)
  · rfl

/-- A `filter` that looks at keys only keeps the lookups of the keys that pass. -/
theorem getElem?_filter_key {m : Map κ ν} {p : κ → Bool} {k : κ} :
    (m.filter fun k _ => p k)[k]? = if p k then m[k]? else none := by
  rw [Std.ExtTreeMap.getElem?_filter']
  cases p k <;> cases m[k]? <;> simp

/-- A filter keeps what satisfies it. -/
theorem getElem?_filter_eq_some {m : Map κ ν} {p : κ → ν → Bool} {k : κ} {v : ν} :
    (m.filter p)[k]? = some v ↔ m[k]? = some v ∧ p k v = true := by
  rw [Std.ExtTreeMap.getElem?_filter', Option.filter_eq_some_iff]

/-- A key survives `filter` exactly when its value passes. -/
theorem mem_filter_iff {m : Map κ ν} {p : κ → ν → Bool} {k : κ} :
    k ∈ m.filter p ↔ ∃ v, m[k]? = some v ∧ p k v = true := by
  rw [mem_iff_exists]
  simp only [getElem?_filter_eq_some]

/-- A key survives a `filter` that looks at keys only exactly when it passes. -/
theorem mem_filter_key {m : Map κ ν} {p : κ → Bool} {k : κ} :
    k ∈ m.filter (fun k _ => p k) ↔ k ∈ m ∧ p k = true := by
  rw [mem_filter_iff, mem_iff_exists]
  exact ⟨fun ⟨v, hv, hp⟩ => ⟨⟨v, hv⟩, hp⟩, fun ⟨⟨v, hv⟩, hp⟩ => ⟨v, hv, hp⟩⟩

/-- The values, in key order. -/
def values (m : Map κ ν) : List ν := m.toList.map Prod.snd

/-- The first value belongs to the least key. -/
theorem head?_values (m : Map κ ν) : m.values.head? = m.minKey?.bind fun k => m[k]? := by
  have hkeys : m.toList.map Prod.fst = m.keys := Std.ExtTreeMap.map_fst_toList_eq_keys
  have hmem : ∀ k v, (k, v) ∈ m.toList → m[k]? = some v := fun _ _ =>
    Std.ExtTreeMap.mem_toList_iff_getElem?_eq_some.mp
  rw [Std.ExtTreeMap.minKey?_eq_head?_keys, ← hkeys, values]
  rcases hl : m.toList with - | ⟨⟨k, v⟩, rest⟩
  · rfl
  · have hv : m[k]? = some v := hmem k v (by simp [hl])
    simp [hv]

/-- A map is rebuilt from its entries, in any order. -/
theorem ofList_of_perm {l : List (κ × ν)} {m : Map κ ν} (h : l.Perm m.toList) :
    (.ofList l : Map κ ν) = m := by
  let _ : BEq κ := beqOfOrd
  have hdistinct : l.Pairwise fun a b => ¬compare a.1 b.1 = .eq :=
    (h.pairwise_iff fun hab hba => hab (Std.OrientedCmp.eq_symm hba)).mpr
      Std.ExtTreeMap.distinct_keys_toList
  refine Std.ExtTreeMap.ext_getElem? fun k => ?_
  cases hk : m[k]? with
  | some v =>
    exact Std.ExtTreeMap.getElem?_ofList_of_mem Std.ReflCmp.compare_self hdistinct
      (h.mem_iff.mpr (Std.ExtTreeMap.mem_toList_iff_getElem?_eq_some.mpr hk))
  | none =>
    refine Std.ExtTreeMap.getElem?_ofList_of_contains_eq_false ?_
    rw [← Bool.not_eq_true, List.contains_iff_mem, (h.map Prod.fst).mem_iff,
      Std.ExtTreeMap.map_fst_toList_eq_keys, Std.ExtTreeMap.mem_keys, mem_iff_exists]
    rintro ⟨v, hv⟩
    cases hk.symm.trans hv

/-- A map is rebuilt from its entries. -/
theorem ofList_toList (m : Map κ ν) : (.ofList m.toList : Map κ ν) = m :=
  ofList_of_perm (.refl _)

private theorem of_getElem?_insertMany {l : List (κ × ν)} {m : Map κ ν} {k : κ} {v : ν}
    (h : (m.insertMany l)[k]? = some v) : m[k]? = some v ∨ (k, v) ∈ l := by
  induction l generalizing m with
  | nil =>
    rw [Std.ExtTreeMap.insertMany_nil] at h
    exact Or.inl h
  | cons entry l ih =>
    rw [Std.ExtTreeMap.insertMany_cons] at h
    rcases ih h with hm | hl
    · rw [Std.ExtTreeMap.getElem?_insert] at hm
      split at hm
      case isTrue hk =>
        rw [Std.LawfulEqOrd.compare_eq_iff_eq] at hk
        subst hk
        cases hm
        exact Or.inr List.mem_cons_self
      case isFalse => exact Or.inl hm
    · exact Or.inr (List.mem_cons_of_mem _ hl)

/-- Every entry of a map built from a list is in the list. -/
theorem mem_of_getElem?_ofList {l : List (κ × ν)} {k : κ} {v : ν}
    (h : (.ofList l : Map κ ν)[k]? = some v) : (k, v) ∈ l := by
  rw [Std.ExtTreeMap.ofList_eq_insertMany_empty] at h
  rcases of_getElem?_insertMany h with h | h
  · simp at h
  · exact h

/-- Inserting the entries of a map one after another, in any order: they are found under their keys,
and what was there before under the others. -/
theorem getElem?_foldl_insert {μ : Type*} {l : List (κ × ν)} {m : Map κ ν} (h : l.Perm m.toList)
    (f : κ → ν → μ) (start : Map κ μ) (k : κ) :
    (l.foldl (fun acc entry => acc.insert entry.1 (f entry.1 entry.2)) start)[k]? =
      (m[k]?.map (f k)).or start[k]? := by
  let _ : BEq κ := beqOfOrd
  have hfold : ∀ start : Map κ μ,
      l.foldl (fun acc entry => acc.insert entry.1 (f entry.1 entry.2)) start =
        start.insertMany (l.map fun entry => (entry.1, f entry.1 entry.2)) := by
    clear h
    induction l with
    | nil => exact fun start => Std.ExtTreeMap.insertMany_nil.symm
    | cons entry l ih =>
      intro start
      rw [List.foldl_cons, ih, List.map_cons, Std.ExtTreeMap.insertMany_cons]
  have hdistinct : (l.map fun entry => (entry.1, f entry.1 entry.2)).Pairwise
      fun a b => ¬compare a.1 b.1 = .eq := by
    rw [List.pairwise_map]
    exact (h.pairwise_iff fun hab hba => hab (Std.OrientedCmp.eq_symm hba)).mpr
      Std.ExtTreeMap.distinct_keys_toList
  rw [hfold]
  cases hk : m[k]? with
  | some v =>
    have hmem : (k, f k v) ∈ l.map fun entry => (entry.1, f entry.1 entry.2) :=
      List.mem_map.mpr
        ⟨(k, v), h.mem_iff.mpr (Std.ExtTreeMap.mem_toList_iff_getElem?_eq_some.mpr hk), rfl⟩
    exact Std.ExtTreeMap.getElem?_insertMany_list_of_mem Std.ReflCmp.compare_self hdistinct hmem
  | none =>
    refine Std.ExtTreeMap.getElem?_insertMany_list_of_contains_eq_false ?_
    rw [← Bool.not_eq_true, List.contains_iff_mem, List.map_map]
    intro hmem
    obtain ⟨entry, hentry, rfl⟩ := List.mem_map.mp hmem
    have hfound := Std.ExtTreeMap.mem_toList_iff_getElem?_eq_some.mp (h.mem_iff.mp hentry)
    cases hk.symm.trans hfound

/-- Mapping over a map whose values are all fixed changes nothing. -/
theorem map_eq_self {m : Map κ ν} {f : ν → ν} (h : ∀ (k : κ) (v : ν), m[k]? = some v → f v = v) :
    m.map (fun _ v => f v) = m := by
  refine Std.ExtTreeMap.ext_getElem? fun k => ?_
  rw [Std.ExtTreeMap.getElem?_map]
  cases hk : m[k]? with
  | none => rfl
  | some v => exact congrArg some (h k v hk)

end Map

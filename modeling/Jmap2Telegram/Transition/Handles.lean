import Mathlib.Data.Finset.Basic

/-!
# Handles of an outside service

A service makes resources for a program and names each by a handle it never used before; a resource
is live until it is deleted. The program keeps the handles in its own records, at most one in each
place. The records are exact if the resources recorded are the live ones: none is orphaned, and
none is recorded that is gone.

* `Recorded.create`, `Recorded.forget`: handles that were issued, each recorded in one place, stay
  so when a resource is made, and when records and resources are given up.
* `Recorded.exact_create_iff`: a resource that is made and recorded leaves the records as exact as
  they were.
* `exact_forget_iff`: exact records stay exact if and only if the resources deleted are those whose
  record is given up.
-/

namespace Transition

universe u v

variable {κ : Type u} {ι : Type v} [DecidableEq κ]

/-- The handles a service has issued, and those whose resource is live. -/
structure Handles (κ : Type u) [DecidableEq κ] where
  issued : Finset κ
  live : Finset κ
  live_subset : live ⊆ issued

namespace Handles

/-- Before anything is made. -/
def empty : Handles κ := ⟨∅, ∅, Finset.Subset.refl ∅⟩

/-- Make a resource; its handle is a new one. -/
def create? (h : Handles κ) (k : κ) : Option (Handles κ) :=
  if k ∈ h.issued then none
  else some ⟨insert k h.issued, insert k h.live, Finset.insert_subset_insert k h.live_subset⟩

/-- Delete a resource. -/
def delete (h : Handles κ) (k : κ) : Handles κ :=
  ⟨h.issued, h.live.erase k, (Finset.erase_subset k h.live).trans h.live_subset⟩

/-- Delete several resources, one after another. -/
def deleteAll (h : Handles κ) (ks : List κ) : Handles κ := ks.foldl delete h

variable {h h' : Handles κ} {k : κ} {ks : List κ}

theorem create?_eq_some (hk : h.create? k = some h') :
    k ∉ h.issued ∧ h'.issued = insert k h.issued ∧ h'.live = insert k h.live := by
  rw [create?] at hk
  split at hk
  case isTrue => cases hk
  case isFalse hnew =>
    cases hk
    exact ⟨hnew, rfl, rfl⟩

@[simp]
theorem issued_deleteAll : (h.deleteAll ks).issued = h.issued := by
  induction ks generalizing h with
  | nil => rfl
  | cons k ks ih => exact ih

theorem deleteAll_append {ls : List κ} : h.deleteAll (ks ++ ls) = (h.deleteAll ks).deleteAll ls :=
  List.foldl_append

theorem mem_live_deleteAll {l : κ} : l ∈ (h.deleteAll ks).live ↔ l ∈ h.live ∧ l ∉ ks := by
  induction ks generalizing h with
  | nil => simp [deleteAll]
  | cons k ks ih =>
    rw [deleteAll, List.foldl_cons, ← deleteAll, ih, delete, Finset.mem_erase, List.mem_cons,
      not_or]
    constructor
    · rintro ⟨⟨hne, hl⟩, hks⟩
      exact ⟨hl, hne, hks⟩
    · rintro ⟨hl, hne, hks⟩
      exact ⟨⟨hne, hl⟩, hks⟩

/-- Every handle in the records was issued, and is recorded in one place. -/
structure Recorded (h : Handles κ) (held : ι → Option κ) : Prop where
  issued : ∀ i k, held i = some k → k ∈ h.issued
  unique : ∀ i j k, held i = some k → held j = some k → i = j

/-- The recorded resources are the live ones. -/
def Exact (h : Handles κ) (held : ι → Option κ) : Prop := ∀ k, k ∈ h.live ↔ ∃ i, held i = some k

variable {held held' : ι → Option κ} {i : ι}

/-- Nothing is recorded. -/
theorem recorded_none (hnone : ∀ i, held i = none) : h.Recorded held where
  issued i k hk := by simp [hnone i] at hk
  unique i j k hk := by simp [hnone i] at hk

/-! ### Making a resource -/

section

variable [DecidableEq ι]

/-- A resource is made and recorded. -/
theorem Recorded.create (hr : h.Recorded held) (hk : h.create? k = some h')
    (hheld : ∀ j, held' j = if i = j then some k else held j) : h'.Recorded held' := by
  obtain ⟨hnew, hissued, -⟩ := create?_eq_some hk
  constructor
  · intro j l hl
    rw [hissued, Finset.mem_insert]
    rw [hheld] at hl
    split at hl
    · exact .inl (Option.some.inj hl).symm
    · exact .inr (hr.issued j l hl)
  · intro j j' l hj hj'
    rw [hheld] at hj hj'
    split at hj <;> split at hj'
    case isTrue.isTrue hij hij' => exact hij.symm.trans hij'
    -- no other place records a handle that is new
    case isTrue.isFalse =>
      cases hj
      exact absurd (hr.issued j' k hj') hnew
    case isFalse.isTrue =>
      cases hj'
      exact absurd (hr.issued j k hj) hnew
    case isFalse.isFalse => exact hr.unique j j' l hj hj'

/-- **Making and recording a resource orphans none.** -/
theorem Recorded.exact_create_iff (hr : h.Recorded held) (hi : held i = none)
    (hk : h.create? k = some h') (hheld : ∀ j, held' j = if i = j then some k else held j) :
    h'.Exact held' ↔ h.Exact held := by
  obtain ⟨hnew, -, hlive⟩ := create?_eq_some hk
  have hrecorded : ∀ l, (∃ j, held' j = some l) ↔ l = k ∨ ∃ j, held j = some l := by
    intro l
    constructor
    · rintro ⟨j, hj⟩
      rw [hheld] at hj
      split at hj
      · exact .inl (Option.some.inj hj).symm
      · exact .inr ⟨j, hj⟩
    · rintro (rfl | ⟨j, hj⟩)
      · exact ⟨i, by rw [hheld, if_pos rfl]⟩
      · refine ⟨j, ?_⟩
        rwa [hheld, if_neg fun hij => by simp [← hij, hi] at hj]
  have hfresh : ¬∃ j, held j = some k := fun ⟨j, hj⟩ => hnew (hr.issued j k hj)
  have hdead : k ∉ h.live := fun hmem => hnew (h.live_subset hmem)
  constructor
  · intro he l
    have hl := he l
    rw [hlive, Finset.mem_insert, hrecorded] at hl
    obtain rfl | hne := eq_or_ne l k
    · exact iff_of_false hdead hfresh
    · simpa [hne] using hl
  · intro he l
    rw [hlive, Finset.mem_insert, hrecorded, he l]

end

/-! ### Giving up records and resources -/

/-- Records are given up, and resources deleted. -/
theorem Recorded.forget (hr : h.Recorded held) (hheld : ∀ i, held' i = none ∨ held' i = held i) :
    (h.deleteAll ks).Recorded held' := by
  have hbefore : ∀ i k, held' i = some k → held i = some k := by
    intro i k hk
    obtain hnone | heq := hheld i
    · simp [hnone] at hk
    · exact heq ▸ hk
  constructor
  · intro i k hk
    rw [issued_deleteAll]
    exact hr.issued i k (hbefore i k hk)
  · exact fun i j k hi hj => hr.unique i j k (hbefore i k hi) (hbefore j k hj)

/-- **Exact records stay exact** if and only if the resources deleted are those whose record is
given up. -/
theorem exact_forget_iff (hr : h.Recorded held) (he : h.Exact held)
    (hheld : ∀ i, held' i = none ∨ held' i = held i) :
    (h.deleteAll ks).Exact held' ↔ ∀ i k, held i = some k → (k ∈ ks ↔ held' i = none) := by
  constructor
  · intro he' i k hk
    have hlive : k ∈ h.live := (he k).mpr ⟨i, hk⟩
    have hk' := he' k
    rw [mem_live_deleteAll, and_iff_right hlive] at hk'
    constructor
    · intro hmem
      obtain hnone | heq := hheld i
      · exact hnone
      · exact absurd hmem (hk'.mpr ⟨i, heq.trans hk⟩)
    · intro hnone
      by_contra hmem
      obtain ⟨j, hj⟩ := hk'.mp hmem
      obtain hnone' | heq := hheld j
      · simp [hnone'] at hj
      · have hij : i = j := hr.unique i j k hk (heq ▸ hj)
        subst hij
        simp [hnone] at hj
  · intro hcond k
    rw [mem_live_deleteAll, he k]
    constructor
    · rintro ⟨⟨i, hi⟩, hmem⟩
      refine ⟨i, ((hheld i).resolve_left fun hnone => ?_).trans hi⟩
      exact hmem ((hcond i k hi).mpr hnone)
    · rintro ⟨i, hi⟩
      obtain hnone | heq := hheld i
      · simp [hnone] at hi
      · have hbefore : held i = some k := heq ▸ hi
        refine ⟨⟨i, hbefore⟩, fun hmem => ?_⟩
        have hnone := (hcond i k hbefore).mp hmem
        simp [hnone] at hi

end Handles

end Transition

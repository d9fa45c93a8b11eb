import Mathlib.Data.List.TakeWhile
import Mathlib.Tactic.Common

/-!
# Sections of a list

A list in which some elements start a section and some end the one they come after, as the headings
of a text do. A section is the element that starts it and what follows up to the next one that ends
it, or up to the end.

* `mem_sections`, `mem_sections_after`: the sections of a list, and those after some element,
  without reference to how it is cut.
-/

namespace Text

open List

variable {α : Type*} (starts ends : α → Bool)

/-- The sections of a list, in order, each with its first element apart. -/
def sections : List α → List (α × List α)
  | [] => []
  | a :: l => if starts a then (a, l.takeWhile fun b => !ends b) :: sections l else sections l

variable {starts ends} {l : List α} {a : α} {body : List α}

theorem sections_cons_of_starts (h : starts a = true) :
    sections starts ends (a :: l) =
      (a, l.takeWhile fun b => !ends b) :: sections starts ends l := by
  rw [sections, if_pos h]

theorem sections_cons_of_not_starts (h : starts a = false) :
    sections starts ends (a :: l) = sections starts ends l := by
  rw [sections, h, if_neg Bool.false_ne_true]

/-- What is taken up to a boundary. -/
theorem takeWhile_eq_iff {p : α → Bool} {body : List α} :
    l.takeWhile p = body ↔
      ∃ rest, l = body ++ rest ∧ (∀ b ∈ body, p b = true) ∧ ∀ b ∈ rest.head?, p b = false := by
  constructor
  · rintro rfl
    refine ⟨l.dropWhile p, (takeWhile_append_dropWhile).symm, fun b hb => mem_takeWhile_imp hb,
      fun b hb => ?_⟩
    have hnot := head?_dropWhile_not p l
    rw [Option.mem_def.mp hb] at hnot
    simpa using hnot
  · rintro ⟨rest, rfl, hbody, hrest⟩
    rw [takeWhile_append_of_pos hbody]
    cases rest with
    | nil => rw [takeWhile_nil, append_nil]
    | cons b rest => rw [takeWhile_cons_of_neg (by simp [hrest b rfl]), append_nil]

/-- **The sections of a list.** -/
theorem mem_sections : (a, body) ∈ sections starts ends l ↔
    ∃ before rest, l = before ++ a :: (body ++ rest) ∧ starts a = true ∧
      (∀ b ∈ body, ends b = false) ∧ ∀ b ∈ rest.head?, ends b = true := by
  induction l with
  | nil => simp [sections]
  | cons c l ih =>
    have hhere : starts c = true → ((a, body) = (c, l.takeWhile fun b => !ends b) ↔
        ∃ rest, c :: l = a :: (body ++ rest) ∧ starts a = true ∧
          (∀ b ∈ body, ends b = false) ∧ ∀ b ∈ rest.head?, ends b = true) := by
      intro hc
      rw [Prod.mk.injEq, eq_comm (b := l.takeWhile _), takeWhile_eq_iff]
      simp only [Bool.not_eq_true', Bool.not_eq_false', cons.injEq]
      constructor
      · rintro ⟨rfl, rest, rfl, hbody, hrest⟩
        exact ⟨rest, ⟨rfl, rfl⟩, hc, hbody, hrest⟩
      · rintro ⟨rest, ⟨rfl, rfl⟩, -, hbody, hrest⟩
        exact ⟨rfl, rest, rfl, hbody, hrest⟩
    constructor
    · intro h
      cases hc : starts c with
      | true =>
        rw [sections_cons_of_starts hc, mem_cons] at h
        rcases h with h | h
        · obtain ⟨rest, hl, hrest⟩ := (hhere hc).mp h
          exact ⟨[], rest, hl, hrest⟩
        · obtain ⟨before, rest, rfl, hrest⟩ := ih.mp h
          exact ⟨c :: before, rest, rfl, hrest⟩
      | false =>
        rw [sections_cons_of_not_starts hc] at h
        obtain ⟨before, rest, rfl, hrest⟩ := ih.mp h
        exact ⟨c :: before, rest, rfl, hrest⟩
    · rintro ⟨before, rest, hl, hstarts, hrest⟩
      cases before with
      | nil =>
        cases hl
        rw [sections_cons_of_starts hstarts, mem_cons]
        exact .inl ((hhere hstarts).mpr ⟨rest, rfl, hstarts, hrest⟩)
      | cons d before =>
        cases hl
        have htail := ih.mpr ⟨before, rest, rfl, hstarts, hrest⟩
        cases hd : starts c with
        | true =>
          rw [sections_cons_of_starts hd]
          exact mem_cons_of_mem _ htail
        | false =>
          rw [sections_cons_of_not_starts hd]
          exact htail

/-- The sections that come after some element. -/
theorem mem_sections_after {p : α → Bool} :
    (a, body) ∈ sections starts ends (l.dropWhile fun b => !p b).tail ↔
      ∃ before rest, l = before ++ a :: (body ++ rest) ∧ (∃ b ∈ before, p b = true) ∧
        starts a = true ∧ (∀ b ∈ body, ends b = false) ∧ ∀ b ∈ rest.head?, ends b = true := by
  rw [mem_sections]
  constructor
  · rintro ⟨before, rest, htail, hrest⟩
    cases hdrop : l.dropWhile fun b => !p b with
    | nil =>
      rw [hdrop] at htail
      simp at htail
    | cons k tail =>
      rw [hdrop, tail_cons] at htail
      have hk : p k = true := by
        have hnot := head?_dropWhile_not (fun b => !p b) l
        rw [hdrop] at hnot
        simpa using hnot
      refine ⟨l.takeWhile (fun b => !p b) ++ k :: before, rest, ?_, ⟨k, by simp, hk⟩, hrest⟩
      rw [append_assoc, cons_append, ← htail, ← hdrop, takeWhile_append_dropWhile]
  · rintro ⟨before, rest, rfl, ⟨b, hb, hpb⟩, hrest⟩
    cases hdrop : before.dropWhile fun b => !p b with
    | nil =>
      have hnot := dropWhile_eq_nil_iff.mp hdrop b hb
      rw [hpb] at hnot
      cases hnot
    | cons k tail =>
      refine ⟨tail, rest, ?_, hrest⟩
      rw [dropWhile_append, hdrop, if_neg (by simp), cons_append, tail_cons]

end Text

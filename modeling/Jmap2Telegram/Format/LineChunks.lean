import Jmap2Telegram.Format.Chunks
import Jmap2Telegram.Packing.Greedy

/-!
# Cutting at the ends of lines

`chunk_text` on texts whose lines all fit into a chunk: the chunks are groups of lines, joined again
by line feeds. An empty buffer says both that nothing was put into it yet and that a blank line was,
so that a blank line that would begin a chunk is left out.

* `finish_foldl_pushLine`: the chunks are the groups of `keptFrom`, joined.
* `rejoins_iff`: joined again, the chunks are the text's lines if and only if no group of the greedy
  cut of the lines begins with a blank one.
* `fewest_chunks`: no cut of lines that are not blank has fewer groups than there are chunks.
-/

namespace Jmap2Telegram

open Packing Str

/-- Lines joined by line feeds. -/
def joinLines (ls : List (List Char)) : List Char := ['\n'].intercalate ls

/-- The lines, joined, fit into a chunk. -/
def FitTogether (maxLen : ℕ) (ls : List (List Char)) : Prop := utf16Len (joinLines ls) ≤ maxLen

instance (maxLen : ℕ) : DecidablePred (FitTogether maxLen) := fun ls =>
  inferInstanceAs (Decidable (utf16Len (joinLines ls) ≤ maxLen))

/-! ### Lines that are joined -/

section

variable {maxLen : ℕ} {ls group : List (List Char)} {l : List Char}

@[simp]
theorem joinLines_nil : joinLines [] = [] := rfl

@[simp]
theorem joinLines_singleton : joinLines [l] = l := List.intercalate_singleton

theorem joinLines_cons (h : ls ≠ []) : joinLines (l :: ls) = l ++ '\n' :: joinLines ls := by
  rw [joinLines, List.intercalate_cons_of_ne_nil h, joinLines]
  simp

/-- Joining two groups puts a line feed between them. -/
theorem joinLines_append {ls' : List (List Char)} (h : ls ≠ []) (h' : ls' ≠ []) :
    joinLines (ls ++ ls') = joinLines ls ++ '\n' :: joinLines ls' := by
  induction ls with
  | nil => exact absurd rfl h
  | cons l ls ih =>
    rcases ls with - | ⟨l', ls⟩
    · rw [List.singleton_append, joinLines_cons h', joinLines_singleton]
    · have hne : l' :: ls ≠ [] := List.cons_ne_nil l' ls
      rw [List.cons_append, joinLines_cons (by simp), ih hne, joinLines_cons hne]
      simp

theorem joinLines_concat (h : group ≠ []) :
    joinLines (group ++ [l]) = joinLines group ++ '\n' :: l := by
  rw [joinLines_append h (List.cons_ne_nil l []), joinLines_singleton]

/-- The groups of a cut, each of them joined and all of them together, are the lines joined. -/
theorem joinLines_map_joinLines {groups : List (List (List Char))}
    (h : ∀ group ∈ groups, group ≠ []) :
    joinLines (groups.map joinLines) = joinLines groups.flatten := by
  induction groups with
  | nil => rfl
  | cons group groups ih =>
    have hgroup := h group List.mem_cons_self
    have hgroups : ∀ g ∈ groups, g ≠ [] := fun g hg => h g (List.mem_cons_of_mem group hg)
    rcases groups with - | ⟨group', groups⟩
    · simp
    · have hflatten : (group' :: groups).flatten ≠ [] := by
        have hne := hgroups group' List.mem_cons_self
        simp [hne]
      rw [List.map_cons, joinLines_cons (by simp), ih hgroups, List.flatten_cons (l := group),
        joinLines_append hgroup hflatten]

/-- A line fits into a group when the line feed before it does as well. -/
theorem fitTogether_concat_iff (h : group ≠ []) :
    FitTogether maxLen (group ++ [l]) ↔ utf16Len (joinLines group) + utf16Len l + 1 ≤ maxLen := by
  have hfeed : lenUtf16 '\n' = 1 := rfl
  rw [FitTogether, joinLines_concat h, utf16Len_append, utf16Len_cons, hfeed]
  omega

/-- Fewer lines are shorter when they are joined. -/
theorem hereditary_fitTogether (maxLen : ℕ) : Hereditary (FitTogether maxLen) := by
  rintro b c ⟨a, d, rfl⟩ hfits
  rw [FitTogether, joinLines, utf16Len_intercalate] at hfits ⊢
  have hfeed : utf16Len ['\n'] = 1 := rfl
  simp only [List.map_append, List.sum_append, List.length_append, hfeed, mul_one] at hfits ⊢
  omega

end

/-! ### The groups of lines -/

/-- The lines a group begins with: a blank line leaves the buffer empty. -/
def opening (l : List Char) : List (List Char) := if l = [] then [] else [l]

/-- The groups whose lines `chunk_text` joins, after the lines `group` in the buffer. -/
def keptFrom (maxLen : ℕ) (group : List (List Char)) : List (List Char) → List (List (List Char))
  | [] => if group = [] then [] else [group]
  | l :: ls =>
    if group = [] then keptFrom maxLen (opening l) ls
    else if FitTogether maxLen (group ++ [l]) then keptFrom maxLen (group ++ [l]) ls
    else group :: keptFrom maxLen (opening l) ls

section

variable {maxLen : ℕ} {ls group : List (List Char)} {l : List Char}

/-- A first line opens the group it makes. -/
theorem joinLines_opening : joinLines (opening l) = l := by
  rw [opening]
  split
  case isTrue h => rw [h, joinLines_nil]
  case isFalse => exact joinLines_singleton

theorem opening_eq_nil (h : joinLines (opening l) = []) : opening l = [] := by
  rw [joinLines_opening] at h
  rw [opening, if_pos h]

/-- A line that fits into a chunk, when nothing is in the buffer. -/
theorem pushLine_of_nil {s : Chunker} (hl : utf16Len l ≤ maxLen) (hnil : s.current = [])
    (hlen : s.currentLen = 0) : s.pushLine maxLen l = ⟨s.chunks, l, utf16Len l⟩ := by
  have hshort : ¬utf16Len l > maxLen := not_lt.mpr hl
  simp [Chunker.pushLine, hshort, hnil, hlen]

/-- A line that fits after what is in the buffer. -/
theorem pushLine_of_room {s : Chunker} (hne : s.current ≠ [])
    (hroom : s.currentLen + utf16Len l + 1 ≤ maxLen) :
    s.pushLine maxLen l =
      ⟨s.chunks, s.current ++ '\n' :: l, s.currentLen + 1 + utf16Len l⟩ := by
  have hshort : ¬utf16Len l > maxLen := by omega
  have hfull : ¬s.currentLen + utf16Len l + 1 > maxLen := not_lt.mpr hroom
  simp [Chunker.pushLine, hshort, hfull, hne]

/-- A line that fits into a chunk, but not after what is in the buffer. -/
theorem pushLine_of_full {s : Chunker} (hl : utf16Len l ≤ maxLen) (hne : s.current ≠ [])
    (hfull : maxLen < s.currentLen + utf16Len l + 1) :
    s.pushLine maxLen l = ⟨s.chunks ++ [s.current], l, utf16Len l⟩ := by
  have hshort : ¬utf16Len l > maxLen := not_lt.mpr hl
  simp [Chunker.pushLine, hshort, hfull, hne, Chunker.flush]

/-- **The chunks are the groups, joined.** The buffer holds a group of lines, and is empty only if
the group is. -/
theorem finish_foldl_pushLine {s : Chunker} (hcurrent : s.current = joinLines group)
    (hlen : s.currentLen = utf16Len s.current) (hgroup : joinLines group = [] → group = [])
    (hls : ∀ l ∈ ls, utf16Len l ≤ maxLen) :
    (ls.foldl (Chunker.pushLine maxLen) s).finish =
      s.chunks ++ (keptFrom maxLen group ls).map joinLines := by
  induction ls generalizing s group with
  | nil =>
    rw [List.foldl_nil, Chunker.finish, keptFrom, hcurrent]
    by_cases hnil : group = []
    · rw [if_neg (by simp [hnil]), if_pos hnil]
      simp
    · rw [if_pos fun h => hnil (hgroup h), if_neg hnil]
      simp
  | cons l ls ih =>
    have hl := hls l List.mem_cons_self
    have hrest : ∀ l' ∈ ls, utf16Len l' ≤ maxLen :=
      fun l' hl' => hls l' (List.mem_cons_of_mem l hl')
    rw [List.foldl_cons, keptFrom]
    by_cases hnil : group = []
    -- nothing is in the buffer
    · have hempty : s.current = [] := by rw [hcurrent, hnil, joinLines_nil]
      have hzero : s.currentLen = 0 := by rw [hlen, hempty, utf16Len_nil]
      rw [if_pos hnil, pushLine_of_nil hl hempty hzero]
      exact ih joinLines_opening.symm rfl opening_eq_nil hrest
    · have hne : s.current ≠ [] := fun h => hnil (hgroup (hcurrent.symm.trans h))
      have hfits : FitTogether maxLen (group ++ [l]) ↔
          s.currentLen + utf16Len l + 1 ≤ maxLen := by
        rw [hlen, hcurrent]
        exact fitTogether_concat_iff hnil
      rw [if_neg hnil]
      by_cases hroom : FitTogether maxLen (group ++ [l])
      · have hlen' : s.currentLen + 1 + utf16Len l = utf16Len (s.current ++ '\n' :: l) := by
          have hfeed : lenUtf16 '\n' = 1 := rfl
          rw [utf16Len_append, utf16Len_cons, hlen, hfeed]
          omega
        have hconcat : s.current ++ '\n' :: l = joinLines (group ++ [l]) := by
          rw [hcurrent, joinLines_concat hnil]
        have hgroup' : joinLines (group ++ [l]) = [] → group ++ [l] = [] := by
          rw [← hconcat]
          simp
        rw [if_pos hroom, pushLine_of_room hne (hfits.mp hroom)]
        exact ih hconcat hlen' hgroup' hrest
      -- the buffer is pushed, and the line is the first of the next group
      · have hfull : maxLen < s.currentLen + utf16Len l + 1 :=
          not_le.mp fun h => hroom (hfits.mpr h)
        rw [if_neg hroom, pushLine_of_full hl hne hfull,
          ih joinLines_opening.symm rfl opening_eq_nil hrest, hcurrent]
        simp

/-- The chunks of lines that fit. -/
theorem chunkLines_eq (hls : ∀ l ∈ ls, utf16Len l ≤ maxLen) :
    chunkLines maxLen ls = (keptFrom maxLen [] ls).map joinLines :=
  finish_foldl_pushLine rfl rfl (fun _ => rfl) hls

/-! ### The groups and the greedy cut -/

/-- A group does not begin with a blank line. -/
def Begun (group : List (List Char)) : Prop := group.head? ≠ some []

/-- No chunk is without lines. -/
theorem ne_nil_of_mem_keptFrom {g : List (List Char)} (hg : g ∈ keptFrom maxLen group ls) :
    g ≠ [] := by
  induction ls generalizing group with
  | nil =>
    rw [keptFrom] at hg
    split at hg
    · cases hg
    · rwa [List.mem_singleton.mp hg]
  | cons l ls ih =>
    rw [keptFrom] at hg
    split at hg
    · exact ih hg
    · split at hg
      · exact ih hg
      · rcases List.mem_cons.mp hg with rfl | hg
        · assumption
        · exact ih hg

/-- The groups have no lines but those there are. -/
theorem flatten_keptFrom_sublist : (keptFrom maxLen group ls).flatten.Sublist (group ++ ls) := by
  have hopening : ∀ l ls', (opening l ++ ls').Sublist (l :: ls') := by
    intro l ls'
    rw [opening]
    split
    · exact List.sublist_cons_self l ls'
    · exact .refl _
  induction ls generalizing group with
  | nil =>
    rw [keptFrom]
    split
    · exact List.nil_sublist _
    · simp
  | cons l ls ih =>
    rw [keptFrom]
    split
    case isTrue hnil =>
      rw [hnil]
      exact ih.trans (hopening l ls)
    case isFalse =>
      split
      · rw [List.append_cons group l ls]
        exact ih
      · exact (ih.trans (hopening l ls)).append_left group

/-- When no group of the greedy cut begins with a blank line, these are the groups. -/
theorem keptFrom_eq_greedyFrom (hne : group ≠ [])
    (h : ∀ g ∈ greedyFrom (FitTogether maxLen) group ls, Begun g) :
    keptFrom maxLen group ls = greedyFrom (FitTogether maxLen) group ls := by
  induction ls generalizing group with
  | nil => rw [keptFrom, greedyFrom, if_neg hne]
  | cons l ls ih =>
    rw [keptFrom, if_neg hne]
    by_cases hfits : FitTogether maxLen (group ++ [l])
    · rw [greedyFrom_cons_of_fits hfits] at h ⊢
      rw [if_pos hfits]
      exact ih (by simp) h
    · rw [greedyFrom_cons_of_not_fits hfits] at h ⊢
      have hrest := fun g hg => h g (List.mem_cons_of_mem group hg)
      have hl : l ≠ [] := by
        obtain ⟨rest, groups, heq⟩ := exists_greedyFrom_eq_cons (FitTogether maxLen) [l] ls
        have hbegun := hrest ([l] ++ rest) (by rw [heq]; exact List.mem_cons_self)
        rintro rfl
        exact hbegun rfl
      rw [if_neg hfits, opening, if_neg hl, ih (List.cons_ne_nil l []) hrest]

/-- If no line is left out, no group of the greedy cut but the first begins with a blank line. -/
theorem begun_of_flatten_eq (hne : group ≠ []) (hbegun : Begun group)
    (h : (keptFrom maxLen group ls).flatten = group ++ ls) :
    ∀ g ∈ greedyFrom (FitTogether maxLen) group ls, Begun g := by
  induction ls generalizing group with
  | nil =>
    rw [greedyFrom]
    exact List.forall_mem_singleton.mpr hbegun
  | cons l ls ih =>
    rw [keptFrom, if_neg hne] at h
    by_cases hfits : FitTogether maxLen (group ++ [l])
    · have hbegun' : Begun (group ++ [l]) := by
        rw [Begun, List.head?_append_of_ne_nil group hne]
        exact hbegun
      rw [if_pos hfits, List.append_cons group l ls] at h
      rw [greedyFrom_cons_of_fits hfits]
      exact ih (by simp) hbegun' h
    · rw [if_neg hfits, List.flatten_cons, List.append_right_inj] at h
      -- a blank line would be left out here
      have hl : l ≠ [] := by
        rintro rfl
        have hlength : (keptFrom maxLen (opening []) ls).flatten.length ≤
            (opening [] ++ ls).length :=
          flatten_keptFrom_sublist.length_le
        rw [h, opening, if_pos rfl, List.nil_append, List.length_cons] at hlength
        omega
      rw [opening, if_neg hl] at h
      rw [greedyFrom_cons_of_not_fits hfits]
      refine List.forall_mem_cons.mpr ⟨hbegun, ih (List.cons_ne_nil l []) ?_ h⟩
      rw [Begun, List.head?_cons]
      exact fun heq => hl (Option.some.inj heq)

/-- **No line is left out** if and only if no group of the greedy cut begins with a blank line. -/
theorem flatten_keptFrom_eq_iff (maxLen : ℕ) (ls : List (List Char)) :
    (keptFrom maxLen [] ls).flatten = ls ↔ ∀ g ∈ greedy (FitTogether maxLen) ls, Begun g := by
  rcases ls with - | ⟨l, ls⟩
  · exact iff_of_true rfl (List.forall_mem_nil _)
  · rw [keptFrom, if_pos rfl, greedy, opening]
    by_cases hl : l = []
    -- the first line is blank
    · rw [if_pos hl]
      refine iff_of_false (fun h => ?_) fun h => ?_
      · have hlength : (keptFrom maxLen [] ls).flatten.length ≤ ([] ++ ls).length :=
          flatten_keptFrom_sublist.length_le
        rw [h, List.nil_append, List.length_cons] at hlength
        omega
      · obtain ⟨rest, groups, heq⟩ := exists_greedyFrom_eq_cons (FitTogether maxLen) [l] ls
        refine h ([l] ++ rest) (by rw [heq]; exact List.mem_cons_self) ?_
        rw [hl]
        rfl
    · rw [if_neg hl]
      constructor
      · refine begun_of_flatten_eq (List.cons_ne_nil l []) ?_
        rw [Begun, List.head?_cons]
        exact fun heq => hl (Option.some.inj heq)
      · intro h
        rw [keptFrom_eq_greedyFrom (List.cons_ne_nil l []) h, flatten_greedyFrom]
        rfl

/-- Lines of which none begins a group as a blank one are cut greedily. -/
theorem chunkLines_eq_greedy (hls : ∀ l ∈ ls, utf16Len l ≤ maxLen)
    (h : ∀ g ∈ greedy (FitTogether maxLen) ls, Begun g) :
    chunkLines maxLen ls = (greedy (FitTogether maxLen) ls).map joinLines := by
  rw [chunkLines_eq hls]
  rcases ls with - | ⟨l, ls⟩
  · rfl
  · have hl : l ≠ [] := by
      obtain ⟨rest, groups, heq⟩ := exists_greedyFrom_eq_cons (FitTogether maxLen) [l] ls
      have hbegun := h ([l] ++ rest) (by rw [greedy, heq]; exact List.mem_cons_self)
      rintro rfl
      exact hbegun rfl
    rw [keptFrom, if_pos rfl, opening, if_neg hl]
    rw [greedy] at h ⊢
    rw [keptFrom_eq_greedyFrom (List.cons_ne_nil l []) h]

end

/-! ### Joined again -/

section

variable {text : String} {maxLen : ℕ}

/-- Lines that give the same text when they are joined are the same, but that no line and one blank
line give the same. -/
theorem joinLines_inj {ls ls' : List (List Char)} (hls : ∀ l ∈ ls, '\n' ∉ l)
    (hls' : ∀ l ∈ ls', '\n' ∉ l) (hne : ls ≠ []) (hne' : ls' ≠ []) :
    joinLines ls = joinLines ls' ↔ ls = ls' := by
  refine ⟨fun h => ?_, congrArg joinLines⟩
  rw [← List.splitOn_intercalate '\n' hls hne, ← List.splitOn_intercalate '\n' hls' hne']
  exact congrArg (List.splitOn '\n') h

/-- A text has a line. -/
theorem lines_ne_nil (htext : text ≠ "") : lines text.toList ≠ [] := by
  have hne : [] ++ text.toList ≠ [] := by
    rw [List.nil_append]
    exact fun h => htext (String.toList_eq_nil_iff.mp h)
  exact linesFrom_ne_nil hne

/-- **Joined again, the chunks are the lines of the text** if and only if the text is one blank line
or no group of the greedy cut of its lines begins with a blank line. -/
theorem rejoins_iff (htext : text ≠ "") (hls : ∀ l ∈ lines text.toList, utf16Len l ≤ maxLen) :
    joinLines ((chunkText text maxLen).map String.toList) = joinLines (lines text.toList) ↔
      lines text.toList = [[]] ∨
        ∀ group ∈ greedy (FitTogether maxLen) (lines text.toList), Begun group := by
  have hne := lines_ne_nil htext
  have hfeeds : ∀ l ∈ lines text.toList, '\n' ∉ l := fun l hl => not_mem_of_mem_lines hl
  generalize hlines : lines text.toList = ls at hls hne hfeeds
  have hchunks : (chunkText text maxLen).map String.toList =
      (keptFrom maxLen [] ls).map joinLines := by
    rw [chunkText_of_ne_empty htext, hlines, chunkLines_eq hls]
    simp
  rw [hchunks, joinLines_map_joinLines fun g hg => ne_nil_of_mem_keptFrom hg]
  rw [← flatten_keptFrom_eq_iff]
  have hsublist : (keptFrom maxLen [] ls).flatten.Sublist ls := flatten_keptFrom_sublist
  by_cases hkept : (keptFrom maxLen [] ls).flatten = []
  -- no chunk at all
  · rw [hkept, joinLines_nil, or_iff_left fun h => hne h.symm]
    constructor
    · intro h
      have hnil : joinLines [[]] = joinLines ls := by rw [joinLines_singleton, h]
      exact ((joinLines_inj (by simp) hfeeds (by simp) hne).mp hnil).symm
    · rintro rfl
      rfl
  · have hblank : ls ≠ [[]] := by
      rintro rfl
      exact hkept rfl
    have hkeptFeeds : ∀ l ∈ (keptFrom maxLen [] ls).flatten, '\n' ∉ l := fun l hl =>
      hfeeds l (hsublist.subset hl)
    rw [joinLines_inj hkeptFeeds hfeeds hkept hne, or_iff_right hblank]

/-- A text that begins with a blank line. -/
theorem not_forall_rejoins : ¬∀ (text : String) (maxLen : ℕ), text ≠ "" → 2 ≤ maxLen →
    (∀ l ∈ lines text.toList, utf16Len l ≤ maxLen) →
      joinLines ((chunkText text maxLen).map String.toList) = joinLines (lines text.toList) := by
  intro h
  exact absurd (h "\na" 5 (by decide) (by decide) (by decide)) (by decide)

/-- A text with a blank line in the middle of a chunk. -/
theorem rejoins_iff_blankMiddle :
    joinLines ((chunkText "a\n\nb" 5).map String.toList) = joinLines (lines "a\n\nb".toList) ↔
      lines "a\n\nb".toList = [[]] ∨
        ∀ group ∈ greedy (FitTogether 5) (lines "a\n\nb".toList), Begun group :=
  rejoins_iff (by decide) (by decide)

/-! ### The fewest chunks -/

/-- **Chunking sends as few messages as possible**: when no line is blank or longer than a chunk, no
way to cut the list of lines into groups that fit has fewer groups than there are chunks. -/
theorem fewest_chunks (htext : text ≠ "")
    (hls : ∀ l ∈ lines text.toList, l ≠ [] ∧ utf16Len l ≤ maxLen) :
    IsLeast {n | ∃ groups, Cut (FitTogether maxLen) (lines text.toList) groups ∧ groups.length = n}
      (chunkText text maxLen).length := by
  have hshort : ∀ l ∈ lines text.toList, utf16Len l ≤ maxLen := fun l hl => (hls l hl).2
  have halone : ∀ l ∈ lines text.toList, FitTogether maxLen [l] := by
    intro l hl
    rw [FitTogether, joinLines_singleton]
    exact hshort l hl
  -- a line that begins a group is a line of the text
  have hbegun : ∀ g ∈ greedy (FitTogether maxLen) (lines text.toList), Begun g := by
    intro g hg hblank
    have hmem : [] ∈ lines text.toList := by
      rw [← (cut_greedy halone).flatten_eq]
      exact List.mem_flatten_of_mem hg (List.mem_of_head? hblank)
    exact (hls [] hmem).1 rfl
  rw [chunkText_of_ne_empty htext, chunkLines_eq_greedy hshort hbegun, List.length_map,
    List.length_map]
  exact isLeast_length_greedy (hereditary_fitTogether maxLen) halone

/-- Two lines that fit into one chunk exactly. -/
theorem fewest_chunks_exactFit :
    IsLeast {n | ∃ groups, Cut (FitTogether 6) (lines "aa\nbbb".toList) groups ∧ groups.length = n}
      (chunkText "aa\nbbb" 6).length :=
  fewest_chunks (by decide) (by decide)

end

end Jmap2Telegram

import Jmap2Telegram.ForStd.Str

/-!
# Cutting a text into messages

`chunk_text` (`format.rs`) cuts a text into chunks of at most `maxLen` UTF-16 code units, the unit
Telegram counts in. It goes through the lines of the text with a buffer and the length of the
buffer: a line that does not fit after what is in the buffer starts a new chunk, and a line that is
longer than a chunk is cut between characters.

* `Chunker.Inv`: what the buffer, its length and the chunks say of the text so far.
* `chunks_keep_lines`: every chunk fits, and together they have every character of the lines.
-/

namespace Jmap2Telegram

open Str

/-- The variables of `chunk_text`. -/
structure Chunker where
  chunks : List (List Char)
  current : List Char
  currentLen : ℕ

namespace Chunker

/-- The variables at the start. -/
def start : Chunker := ⟨[], [], 0⟩

variable (maxLen : ℕ) (s : Chunker)

/-- Push the buffer, and begin an empty one. -/
def flush : Chunker := ⟨s.chunks ++ [s.current], [], 0⟩

/-- A character of a line that is longer than a chunk. -/
def pushChar (c : Char) : Chunker :=
  let units := lenUtf16 c
  let s := if s.currentLen + units > maxLen then s.flush else s
  { s with current := s.current ++ [c], currentLen := s.currentLen + units }

/-- A line. -/
def pushLine (line : List Char) : Chunker :=
  let lineLen := utf16Len line
  -- the one more is the line feed that would join the line onto the buffer
  let s := if s.currentLen + lineLen + 1 > maxLen ∧ s.current ≠ [] then s.flush else s
  if lineLen > maxLen then line.foldl (pushChar maxLen) s
  else
    let s := if s.current ≠ [] then
        { s with current := s.current ++ ['\n'], currentLen := s.currentLen + 1 }
      else s
    { s with current := s.current ++ line, currentLen := s.currentLen + lineLen }

/-- The chunks at the end. -/
def finish : List (List Char) := if s.current ≠ [] then s.chunks ++ [s.current] else s.chunks

end Chunker

/-- The loop of `chunk_text`, for a text that is not empty. -/
def chunkLines (maxLen : ℕ) (lines : List (List Char)) : List (List Char) :=
  (lines.foldl (Chunker.pushLine maxLen) .start).finish

/-- `chunk_text`. -/
def chunkText (text : String) (maxLen : ℕ) : List String :=
  if text.isEmpty then ["(message vide)"]
  else (chunkLines maxLen (lines text.toList)).map String.ofList

/-! ### The invariant -/

namespace Chunker

/-- What the variables say of the lines so far, which have the characters `done`. -/
structure Inv (maxLen : ℕ) (done : List Char) (s : Chunker) : Prop where
  len : s.currentLen = utf16Len s.current
  le : s.currentLen ≤ maxLen
  chunks : ∀ chunk ∈ s.chunks, chunk ≠ [] ∧ utf16Len chunk ≤ maxLen
  text : (s.chunks.flatten ++ s.current).filter (· != '\n') = done

variable {maxLen : ℕ} {done line : List Char} {s : Chunker} {c : Char}

theorem inv_start : Inv maxLen [] start :=
  ⟨rfl, Nat.zero_le _, List.forall_mem_nil _, rfl⟩

/-- A buffer that is pushed has something in it. -/
theorem Inv.flush (h : Inv maxLen done s) (hne : s.current ≠ []) : Inv maxLen done s.flush where
  len := rfl
  le := Nat.zero_le _
  chunks chunk hchunk := by
    rcases List.mem_append.mp hchunk with hchunk | hchunk
    · exact h.chunks chunk hchunk
    · rw [List.mem_singleton.mp hchunk, ← h.len]
      exact ⟨hne, h.le⟩
  text := by
    have htext := h.text
    simpa [Chunker.flush] using htext

/-- A buffer that a character does not fit into has something in it, if chunks have room for every
character. -/
theorem Inv.current_ne_nil (h : Inv maxLen done s) (hmax : 2 ≤ maxLen)
    (hfull : s.currentLen + lenUtf16 c > maxLen) : s.current ≠ [] := by
  intro hnil
  have hlen := h.len
  rw [hnil, utf16Len_nil] at hlen
  have hunits := lenUtf16_le c
  omega

theorem Inv.pushChar (h : Inv maxLen done s) (hmax : 2 ≤ maxLen) (hc : c ≠ '\n') :
    Inv maxLen (done ++ [c]) (s.pushChar maxLen c) := by
  have hunits := lenUtf16_le c
  -- either way there is room for the character
  have hroom : ∃ s', Inv maxLen done s' ∧ s'.currentLen + lenUtf16 c ≤ maxLen ∧
      s.pushChar maxLen c =
        { s' with current := s'.current ++ [c], currentLen := s'.currentLen + lenUtf16 c } := by
    by_cases hfull : s.currentLen + lenUtf16 c > maxLen
    · refine ⟨s.flush, h.flush (h.current_ne_nil hmax hfull), ?_, ?_⟩
      · have hzero : s.flush.currentLen = 0 := rfl
        omega
      · rw [Chunker.pushChar, if_pos hfull]
    · refine ⟨s, h, by omega, ?_⟩
      rw [Chunker.pushChar, if_neg hfull]
  obtain ⟨s', h', hfits, heq⟩ := hroom
  rw [heq]
  refine ⟨?_, hfits, h'.chunks, ?_⟩
  · have hlen := h'.len
    simp [hlen]
  · have htext := h'.text
    rw [← htext]
    simp [hc]

/-- A line that is cut between characters. -/
theorem Inv.foldl_pushChar (h : Inv maxLen done s) (hmax : 2 ≤ maxLen) (hline : '\n' ∉ line) :
    Inv maxLen (done ++ line) (line.foldl (Chunker.pushChar maxLen) s) := by
  induction line generalizing done s with
  | nil =>
    rw [List.append_nil]
    exact h
  | cons c line ih =>
    have hc : c ≠ '\n' := fun heq => hline (heq ▸ List.mem_cons_self)
    have hrest : '\n' ∉ line := fun hmem => hline (List.mem_cons_of_mem c hmem)
    have hstep := ih (h.pushChar hmax hc) hrest
    rwa [List.append_assoc, List.singleton_append] at hstep

/-- A line that fits into a chunk, when the buffer has room for it. -/
theorem Inv.appendLine (h : Inv maxLen done s) (hline : '\n' ∉ line)
    (hfits : utf16Len line ≤ maxLen)
    (hroom : s.current ≠ [] → s.currentLen + utf16Len line + 1 ≤ maxLen) :
    let s' : Chunker := if s.current ≠ [] then
        { s with current := s.current ++ ['\n'], currentLen := s.currentLen + 1 }
      else s
    Inv maxLen (done ++ line)
      { s' with current := s'.current ++ line, currentLen := s'.currentLen + utf16Len line } := by
  have hfilter : line.filter (· != '\n') = line := by
    refine List.filter_eq_self.mpr fun c hc => ?_
    rw [bne_iff_ne]
    rintro rfl
    exact hline hc
  have hlen := h.len
  have htext := h.text
  dsimp only
  split
  case isTrue hne =>
    have hle := hroom hne
    refine ⟨?_, ?_, h.chunks, ?_⟩
    · simp [hlen, show lenUtf16 '\n' = 1 from rfl, Nat.add_assoc]
    · simp only
      omega
    · rw [← htext]
      simp [hfilter]
  case isFalse hne =>
    rw [ne_eq, not_not] at hne
    refine ⟨?_, ?_, h.chunks, ?_⟩
    · simp [hlen]
    · rw [hne, utf16Len_nil] at hlen
      simp only
      omega
    · rw [← htext]
      simp [hfilter]

/-- **A line.** -/
theorem Inv.pushLine (h : Inv maxLen done s) (hmax : 2 ≤ maxLen) (hline : '\n' ∉ line) :
    Inv maxLen (done ++ line) (s.pushLine maxLen line) := by
  -- the buffer that is left has room for the line, or is empty
  have hroom : ∃ s', Inv maxLen done s' ∧
      (s'.current ≠ [] → s'.currentLen + utf16Len line + 1 ≤ maxLen) ∧
      (if s.currentLen + utf16Len line + 1 > maxLen ∧ s.current ≠ [] then s.flush else s) = s' := by
    split
    case isTrue hfull => exact ⟨s.flush, h.flush hfull.2, fun hne => absurd rfl hne, rfl⟩
    case isFalse hfull =>
      refine ⟨s, h, fun hne => ?_, rfl⟩
      by_contra hgt
      exact hfull ⟨by omega, hne⟩
  obtain ⟨s', h', hroom, heq⟩ := hroom
  rw [Chunker.pushLine, heq]
  split
  case isTrue => exact h'.foldl_pushChar hmax hline
  case isFalse hshort => exact h'.appendLine hline (by omega) hroom

theorem Inv.foldl_pushLine {ls : List (List Char)} (h : Inv maxLen done s) (hmax : 2 ≤ maxLen)
    (hls : ∀ l ∈ ls, '\n' ∉ l) :
    Inv maxLen (done ++ ls.flatten) (ls.foldl (Chunker.pushLine maxLen) s) := by
  induction ls generalizing done s with
  | nil =>
    rw [List.flatten_nil, List.append_nil]
    exact h
  | cons l ls ih =>
    have hstep := ih (h.pushLine hmax (hls l List.mem_cons_self))
      fun l' hl' => hls l' (List.mem_cons_of_mem l hl')
    rwa [List.append_assoc, ← List.flatten_cons] at hstep

/-- What is left in the buffer at the end is the last chunk. -/
theorem Inv.finish (h : Inv maxLen done s) :
    (∀ chunk ∈ s.finish, chunk ≠ [] ∧ utf16Len chunk ≤ maxLen) ∧
      s.finish.flatten.filter (· != '\n') = done := by
  have htext := h.text
  rw [Chunker.finish]
  split
  case isTrue hne =>
    exact ⟨(h.flush hne).chunks, by simpa using htext⟩
  case isFalse hne =>
    rw [ne_eq, not_not] at hne
    rw [hne, List.append_nil] at htext
    exact ⟨h.chunks, htext⟩

end Chunker

/-! ### Every character -/

section

variable {maxLen : ℕ} {ls : List (List Char)}

/-- The chunks of lines fit, and have every character of the lines. -/
theorem chunkLines_keep (hmax : 2 ≤ maxLen) (hls : ∀ l ∈ ls, '\n' ∉ l) :
    (∀ chunk ∈ chunkLines maxLen ls, chunk ≠ [] ∧ utf16Len chunk ≤ maxLen) ∧
      (chunkLines maxLen ls).flatten.filter (· != '\n') = ls.flatten :=
  (Chunker.inv_start.foldl_pushLine hmax hls).finish

theorem chunkText_of_ne_empty {text : String} (htext : text ≠ "") (maxLen : ℕ) :
    chunkText text maxLen = (chunkLines maxLen (lines text.toList)).map String.ofList := by
  rw [chunkText, if_neg (by simpa using htext)]

/-- But for the line feeds, the chunks are the characters of the text's lines. -/
theorem filter_flatMap_chunkText {text : String} (htext : text ≠ "") (hmax : 2 ≤ maxLen) :
    ((chunkText text maxLen).flatMap String.toList).filter (· != '\n') =
      (lines text.toList).flatten := by
  have hlines : ∀ l ∈ lines text.toList, '\n' ∉ l := fun l hl => not_mem_of_mem_lines hl
  obtain ⟨-, hkeep⟩ := chunkLines_keep hmax hlines
  rw [chunkText_of_ne_empty htext, List.flatMap_map]
  simpa [List.flatMap_id'] using hkeep

/-- **Chunks fit and keep every character**: no chunk is empty or longer than a chunk may be, and
but for the line feeds the chunks are the characters of the text's lines, in their order. -/
theorem chunks_keep_lines {text : String} (htext : text ≠ "") (hmax : 2 ≤ maxLen) :
    (∀ chunk ∈ chunkText text maxLen, chunk ≠ "" ∧ utf16Len chunk.toList ≤ maxLen) ∧
      ((chunkText text maxLen).flatMap String.toList).filter (· != '\n') =
        (lines text.toList).flatten := by
  have hlines : ∀ l ∈ lines text.toList, '\n' ∉ l := fun l hl => not_mem_of_mem_lines hl
  obtain ⟨hfits, -⟩ := chunkLines_keep hmax hlines
  refine ⟨fun chunk hchunk => ?_, filter_flatMap_chunkText htext hmax⟩
  rw [chunkText_of_ne_empty htext] at hchunk
  obtain ⟨cs, hcs, rfl⟩ := List.mem_map.mp hchunk
  rw [String.toList_ofList]
  refine ⟨fun hempty => (hfits cs hcs).1 ?_, (hfits cs hcs).2⟩
  simpa using congrArg String.toList hempty

/-- A long line and a blank one. -/
theorem chunks_keep_lines_longLine :
    (∀ chunk ∈ chunkText "aaaaa\n\nb" 4, chunk ≠ "" ∧ utf16Len chunk.toList ≤ 4) ∧
      ((chunkText "aaaaa\n\nb" 4).flatMap String.toList).filter (· != '\n') =
        (lines "aaaaa\n\nb".toList).flatten :=
  chunks_keep_lines (by decide) (by decide)

end

end Jmap2Telegram

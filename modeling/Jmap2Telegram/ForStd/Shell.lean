import Mathlib.Data.List.Dedup
import Mathlib.Data.String.Basic
import Mathlib.Tactic.Common

/-!
# The text tools of a shell script

A script handles lines of text with `grep`, `awk`, `sort` and the prefix expansion of its shell.
This file gives what such a script needs of them, on `String`, with the rules its proofs use.

* `grepX_iff`: a pattern without a dot is found as a line of the file.
* `not_grepX`: a pattern with a character no line has is not found.
* `words_intercalate`: what is joined by blanks is split into the same words.
-/

namespace Shell

/-! ### `grep -x` -/

/-- A basic regular expression against a whole line. The dot is read as any character; the other
special characters of such expressions (`*`, `[`, `\`, `^`, `$`) are not modelled, and the callers'
patterns have none. -/
def matchesLine : List Char → List Char → Bool
  | [], [] => true
  | p :: ps, c :: cs => (p == '.' || p == c) && matchesLine ps cs
  | _, _ => false

/-- `grep -qx PATTERN FILE`: some line of the file is matched as a whole. -/
def grepX (pattern : String) (file : List String) : Bool :=
  file.any fun line => matchesLine pattern.toList line.toList

/-- A line matches itself. -/
theorem matchesLine_self (cs : List Char) : matchesLine cs cs = true := by
  induction cs with
  | nil => rfl
  | cons c cs ih => simp [matchesLine, ih]

/-- Without a dot a pattern matches itself only. -/
theorem matchesLine_iff {ps cs : List Char} (hdot : '.' ∉ ps) :
    matchesLine ps cs = true ↔ ps = cs := by
  induction ps generalizing cs with
  | nil => cases cs <;> simp [matchesLine]
  | cons p ps ih =>
    rw [List.mem_cons, not_or] at hdot
    cases cs with
    | nil => simp [matchesLine]
    | cons c cs => simp [matchesLine, ih hdot.2, Ne.symm hdot.1]

/-- A matched line has every character of the pattern but the dots. -/
theorem mem_of_matchesLine {ps cs : List Char} (h : matchesLine ps cs = true) {c : Char}
    (hc : c ∈ ps) (hdot : c ≠ '.') : c ∈ cs := by
  induction ps generalizing cs with
  | nil => exact absurd hc List.not_mem_nil
  | cons p ps ih =>
    cases cs with
    | nil => simp [matchesLine] at h
    | cons d cs =>
      simp only [matchesLine, Bool.and_eq_true, Bool.or_eq_true, beq_iff_eq] at h
      rcases List.mem_cons.mp hc with rfl | hc
      · exact List.mem_cons.mpr (.inl (h.1.resolve_left hdot))
      · exact List.mem_cons_of_mem _ (ih h.2 hc)

/-- A line of the file is found. -/
theorem grepX_of_mem {line : String} {file : List String} (h : line ∈ file) :
    grepX line file = true :=
  List.any_eq_true.mpr ⟨line, h, matchesLine_self _⟩

/-- A pattern without a dot is found as a line of the file. -/
theorem grepX_iff {pattern : String} {file : List String} (hdot : '.' ∉ pattern.toList) :
    grepX pattern file = true ↔ pattern ∈ file := by
  simp only [grepX, List.any_eq_true, matchesLine_iff hdot, String.toList_inj, exists_eq_right']

/-- A pattern with a character that no line has is not found. -/
theorem not_grepX {pattern : String} {file : List String} {c : Char} (hc : c ∈ pattern.toList)
    (hdot : c ≠ '.') (hfile : ∀ line ∈ file, c ∉ line.toList) : grepX pattern file = false := by
  rw [grepX, List.any_eq_false]
  exact fun line hline h => hfile line hline (mem_of_matchesLine h hc hdot)

/-! ### Prefixes -/

/-- `case "$s" in p*)`. -/
def startsWith (p s : String) : Bool := p.toList.isPrefixOf s.toList

/-- `${s#p}`: the text without this prefix, or the text itself. -/
def dropPrefix (p s : String) : String :=
  if startsWith p s then String.ofList (s.toList.drop p.toList.length) else s

theorem startsWith_append (p s : String) : startsWith p (p ++ s) = true := by
  simp [startsWith]

/-- `case` with a pattern `p*`. -/
theorem startsWith_iff {p s : String} : startsWith p s = true ↔ ∃ t, s = p ++ t := by
  constructor
  · intro h
    obtain ⟨t, ht⟩ := List.isPrefixOf_iff_prefix.mp h
    exact ⟨String.ofList t, String.toList_inj.mp (by simp [← ht])⟩
  · rintro ⟨t, rfl⟩
    exact startsWith_append p t

theorem dropPrefix_append (p s : String) : dropPrefix p (p ++ s) = s := by
  simp [dropPrefix, startsWith_append]

/-! ### `awk` -/

/-- What separates two words of `awk`. -/
def isBlank (c : Char) : Bool := c == ' ' || c == '\t' || c == '\n'

/-- `split(s, a, " ")`: the words of a text. -/
def words (s : String) : List String :=
  ((s.toList.splitOnP isBlank).filter fun w => w ≠ []).map String.ofList

/-- Words joined by blanks are split again. -/
theorem splitOnP_intercalate {ws : List (List Char)} (hne : ws ≠ [])
    (hblank : ∀ w ∈ ws, ∀ c ∈ w, isBlank c = false) :
    ([' '].intercalate ws).splitOnP isBlank = ws := by
  induction ws with
  | nil => exact absurd rfl hne
  | cons w ws ih =>
    obtain ⟨hw, hws⟩ := List.forall_mem_cons.mp hblank
    cases ws with
    | nil => rw [List.intercalate_singleton, List.splitOnP_eq_singleton hw]
    | cons v vs =>
      rw [List.intercalate_cons_cons, List.append_assoc, List.singleton_append,
        List.splitOnP_append_cons_of_forall_mem hw ' ' rfl, ih (List.cons_ne_nil v vs) hws]

/-- What is joined by blanks is split into the same words. -/
theorem words_intercalate {ws : List String} (hne : ∀ w ∈ ws, w ≠ "")
    (hblank : ∀ w ∈ ws, ∀ c ∈ w.toList, isBlank c = false) :
    words (" ".intercalate ws) = ws := by
  rcases eq_or_ne ws [] with rfl | hws
  · rfl
  · have hlists : ∀ w ∈ ws.map String.toList, ∀ c ∈ w, isBlank c = false := by
      simpa using hblank
    have hwords : (" ".intercalate ws).toList = [' '].intercalate (ws.map String.toList) :=
      String.toList_intercalate
    have hkept : (ws.map String.toList).filter (fun w => w ≠ []) = ws.map String.toList := by
      rw [List.filter_eq_self]
      simpa using hne
    rw [words, hwords, splitOnP_intercalate (by simpa using hws) hlists, hkept]
    simp

/-! ### `sort` -/

section

variable {α : Type*} (key : α → String)

/-- `sort -r` of lines with these texts. -/
def sortReverse (lines : List α) : List α := lines.mergeSort fun a b => key b ≤ key a

/-- `sort -u` of lines with these texts. -/
def sortUnique [DecidableEq α] (lines : List α) : List α :=
  (lines.mergeSort fun a b => key a ≤ key b).dedup

/-- `sort -r` keeps the lines. -/
theorem mem_sortReverse {lines : List α} {a : α} : a ∈ sortReverse key lines ↔ a ∈ lines :=
  List.mem_mergeSort

/-- `sort -u` keeps each line once. -/
theorem mem_sortUnique [DecidableEq α] {lines : List α} {a : α} :
    a ∈ sortUnique key lines ↔ a ∈ lines := by
  rw [sortUnique, List.mem_dedup, List.mem_mergeSort]

end

end Shell

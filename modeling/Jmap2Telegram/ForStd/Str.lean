import Mathlib.Algebra.GroupWithZero.Nat
import Mathlib.Data.List.DropRight
import Mathlib.Data.List.TakeDrop
import Mathlib.Tactic.Common

/-!
# The string methods of the source language

Strings are sequences of Unicode scalar values. This file gives the `str` methods the program
calls that Lean's own `String` does not have in the same form: Unicode white space and control
characters, `trim`, `lines`, comparison up to ASCII case, and the length in UTF-16 code units.
They are stated on lists of characters and lifted to `String`.
-/

namespace Str

/-- What is said of the characters of a text is decided by going through the text. Where all
characters can be gone through as well, that instance must not be chosen. -/
instance (priority := 2000) decidableForallMem (cs : List Char) (p : Char → Prop)
    [DecidablePred p] : Decidable (∀ c ∈ cs, p c) :=
  List.decidableBAll p cs

/-- `char::is_whitespace`: the code points with the Unicode property `White_Space`. -/
def isWhitespace (c : Char) : Bool :=
  let n := c.toNat
  (0x09 ≤ n && n ≤ 0x0D) || n == 0x20 || n == 0x85 || n == 0xA0 || n == 0x1680 ||
    (0x2000 ≤ n && n ≤ 0x200A) || n == 0x2028 || n == 0x2029 || n == 0x202F || n == 0x205F ||
    n == 0x3000

/-- `char::is_control`: the code points of general category `Cc`. -/
def isControl (c : Char) : Bool :=
  let n := c.toNat
  n ≤ 0x1F || (0x7F ≤ n && n ≤ 0x9F)

/-- `str::trim` on characters. -/
def trimChars (cs : List Char) : List Char :=
  (cs.dropWhile isWhitespace).rdropWhile isWhitespace

/-- `str::trim`. -/
def trim (s : String) : String := String.ofList (trimChars s.toList)

@[simp]
theorem toList_trim (s : String) : (trim s).toList = trimChars s.toList := by
  simp [trim]

/-- A text without white space is trimmed. -/
theorem trimChars_of_forall {cs : List Char} (h : ∀ c ∈ cs, isWhitespace c = false) :
    trimChars cs = cs := by
  have hfront : cs.dropWhile isWhitespace = cs :=
    List.dropWhile_eq_self_iff.mpr fun hl => Bool.eq_false_iff.mp (h _ (List.getElem_mem hl))
  rw [trimChars, hfront, List.rdropWhile_eq_self_iff]
  exact fun hl => Bool.eq_false_iff.mp (h _ (List.getLast_mem hl))

/-- A text of nothing but white space. -/
def Blank (cs : List Char) : Prop := ∀ c ∈ cs, isWhitespace c = true

/-- Nothing is left of a blank text, and of no other. -/
theorem trimChars_eq_nil_iff {cs : List Char} : trimChars cs = [] ↔ Blank cs := by
  rw [trimChars, List.rdropWhile_eq_nil_iff]
  constructor
  · intro h
    by_contra hblank
    have hne : cs.dropWhile isWhitespace ≠ [] := fun hnil =>
      hblank (List.dropWhile_eq_nil_iff.mp hnil)
    -- what is left begins with something that is not blank
    have hhead := List.head_dropWhile_not isWhitespace hne
    rw [h _ (List.head_mem hne)] at hhead
    cases hhead
  · exact fun h c hc => h c (List.dropWhile_subset _ hc)

theorem isEmpty_eq_isEmpty_toList (s : String) : s.isEmpty = s.toList.isEmpty := by
  rw [Bool.eq_iff_iff, String.isEmpty_iff, List.isEmpty_iff, String.toList_eq_nil_iff]

theorem isEmpty_trim (s : String) : (trim s).isEmpty = true ↔ Blank s.toList := by
  rw [isEmpty_eq_isEmpty_toList, toList_trim, List.isEmpty_iff, trimChars_eq_nil_iff]

/-- A trimmed text does not end in white space. -/
theorem getLast?_trimChars {cs : List Char} {c : Char} (h : (trimChars cs).getLast? = some c) :
    isWhitespace c = false := by
  have hne : trimChars cs ≠ [] := by
    rintro he
    rw [he] at h
    cases h
  have hlast := List.rdropWhile_last_not isWhitespace (cs.dropWhile isWhitespace) hne
  rw [List.getLast?_eq_getLast_of_ne_nil hne, Option.some.injEq] at h
  rw [← h]
  exact Bool.eq_false_iff.mpr hlast

/-- `str::eq_ignore_ascii_case`. -/
def eqIgnoreAsciiCase (a b : String) : Bool :=
  a.toList.map Char.toLower == b.toList.map Char.toLower

theorem eqIgnoreAsciiCase_comm (a b : String) : eqIgnoreAsciiCase a b = eqIgnoreAsciiCase b a :=
  BEq.comm

theorem eqIgnoreAsciiCase_trans {a b c : String} (h : eqIgnoreAsciiCase a b = true)
    (h' : eqIgnoreAsciiCase b c = true) : eqIgnoreAsciiCase a c = true := by
  rw [eqIgnoreAsciiCase, beq_iff_eq] at *
  exact h.trans h'

/-- `str::split_once` at the first character that satisfies `p`. -/
def splitOnce (p : Char → Bool) (s : String) : Option (String × String) :=
  match s.toList.span fun c => !p c with
  | (_, []) => none
  | (before, _ :: after) => some (String.ofList before, String.ofList after)

/-- `str::splitn` at characters that satisfy `p`: at most `n` parts, the last one uncut. -/
def splitn (p : Char → Bool) : ℕ → String → List String
  | 0, _ => []
  | 1, s => [s]
  | n + 2, s =>
    match splitOnce p s with
    | some (before, after) => before :: splitn p (n + 1) after
    | none => [s]

/-- A text without the separator is not split. -/
theorem splitOnce_eq_none {p : Char → Bool} {s : String} (h : ∀ c ∈ s.toList, p c = false) :
    splitOnce p s = none := by
  have hall : s.toList.dropWhile (fun c => !p c) = [] :=
    List.dropWhile_eq_nil_iff.mpr fun c hc => by simp [h c hc]
  rw [splitOnce, List.span_eq_takeWhile_dropWhile, hall]

/-- A text is cut at its first separator. -/
theorem splitOnce_append {p : Char → Bool} {before : String} {sep : Char}
    (hbefore : ∀ c ∈ before.toList, p c = false) (hsep : p sep = true) (after : String) :
    splitOnce p (before ++ String.singleton sep ++ after) = some (before, after) := by
  have hall : ∀ c ∈ before.toList, (!p c) = true := fun c hc => by simp [hbefore c hc]
  rw [splitOnce, List.span_eq_takeWhile_dropWhile, String.toList_append, String.toList_append,
    String.toList_singleton, List.append_assoc, List.takeWhile_append_of_pos hall,
    List.dropWhile_append_of_pos hall]
  simp [hsep]

/-- `splitn` takes what is before the first separator off. -/
theorem splitn_append {p : Char → Bool} {before : String} {sep : Char}
    (hbefore : ∀ c ∈ before.toList, p c = false) (hsep : p sep = true) (after : String) (n : ℕ) :
    splitn p (n + 2) (before ++ String.singleton sep ++ after) =
      before :: splitn p (n + 1) after := by
  rw [splitn, splitOnce_append hbefore hsep]

theorem splitn_of_forall {p : Char → Bool} {s : String} (h : ∀ c ∈ s.toList, p c = false) (n : ℕ) :
    splitn p (n + 1) s = [s] := by
  cases n with
  | zero => rw [splitn]
  | succ n => rw [splitn, splitOnce_eq_none h]

/-! ### Replacement -/

/-- `str::replace` of a character. -/
def replace (s : String) (pattern : Char) (new : String) : String :=
  String.ofList (s.toList.flatMap fun c => if c = pattern then new.toList else [c])

@[simp]
theorem toList_replace (s : String) (pattern : Char) (new : String) :
    (replace s pattern new).toList =
      s.toList.flatMap fun c => if c = pattern then new.toList else [c] := by
  simp [replace]

/-! ### Building a text in a loop -/

/-- A loop that appends a piece for each item appends all the pieces. -/
theorem toList_foldl_append {α : Type*} {f : String → α → String} {g : α → List Char}
    {items : List α} (h : ∀ out, ∀ item ∈ items, (f out item).toList = out.toList ++ g item)
    (out : String) : (items.foldl f out).toList = out.toList ++ items.flatMap g := by
  induction items generalizing out with
  | nil => simp
  | cons item items ih =>
    have hitems : ∀ out, ∀ item ∈ items, (f out item).toList = out.toList ++ g item :=
      fun out item' h' => h out item' (List.mem_cons_of_mem _ h')
    rw [List.foldl_cons, ih hitems, h out item List.mem_cons_self, List.append_assoc,
      List.flatMap_cons]

/-! ### Containment -/

/-- What stands across a separator stands on one side of it, or takes it in. -/
theorem infix_append_cons_iff {α : Type*} {l as bs : List α} {c : α} :
    l <:+: as ++ c :: bs ↔
      l <:+: as ∨ l <:+: bs ∨ ∃ x y, l = x ++ c :: y ∧ x <:+ as ∧ y <+: bs := by
  rw [List.infix_append_iff]
  constructor
  · rintro (has | hbs | ⟨x, y, hl, hx, hy⟩)
    · exact .inl has
    · rcases List.infix_cons_iff.mp hbs with hprefix | hinfix
      · rcases List.prefix_cons_iff.mp hprefix with rfl | ⟨y, rfl, hy⟩
        · exact .inl List.nil_infix
        · exact .inr (.inr ⟨[], y, rfl, List.nil_suffix, hy⟩)
      · exact .inr (.inl hinfix)
    · rcases List.prefix_cons_iff.mp hy with rfl | ⟨y', rfl, hy'⟩
      · rw [hl, List.append_nil]
        exact .inl hx.isInfix
      · exact .inr (.inr ⟨x, y', hl, hx, hy'⟩)
  · rintro (has | hbs | ⟨x, y, hl, hx, hy⟩)
    · exact .inl has
    · exact .inr (.inl (List.infix_cons hbs))
    · exact .inr (.inr ⟨x, c :: y, hl, hx, List.cons_prefix_cons.mpr ⟨rfl, hy⟩⟩)

/-! ### Lines -/

/-- Drop one trailing carriage return, the first half of a `\r\n` line ending. -/
def stripCr (line : List Char) : List Char :=
  if line.getLast? = some '\r' then line.dropLast else line

/-- `lines`, after the characters `line` of the current line. -/
def linesFrom (line : List Char) : List Char → List (List Char)
  | [] => if line = [] then [] else [line]
  | c :: cs => if c = '\n' then stripCr line :: linesFrom [] cs else linesFrom (line ++ [c]) cs

/-- `str::lines` on characters: lines end in `\n` or `\r\n`, and a final one may have no ending. -/
def lines (cs : List Char) : List (List Char) := linesFrom [] cs

/-- Every `\r\n` replaced by a line feed. -/
def crlfToLf : List Char → List Char
  | [] => []
  | '\r' :: '\n' :: cs => '\n' :: crlfToLf cs
  | c :: cs => c :: crlfToLf cs

/-- A text without a line feed is left. -/
theorem crlfToLf_of_not_mem {line : List Char} (h : '\n' ∉ line) : crlfToLf line = line := by
  induction line with
  | nil => rfl
  | cons c line ih =>
    have hc : ∀ cs, c = '\r' → line = '\n' :: cs → False := by
      rintro cs - rfl
      simp at h
    rw [crlfToLf, ih fun hmem => h (List.mem_cons_of_mem c hmem)]
    exact hc

/-- A last character that is not a line feed stays. -/
theorem crlfToLf_concat (cs : List Char) {c : Char} (hc : c ≠ '\n') :
    crlfToLf (cs ++ [c]) = crlfToLf cs ++ [c] := by
  fun_induction crlfToLf cs with
  | case1 => exact crlfToLf_of_not_mem (by simpa using Ne.symm hc)
  | case2 cs ih => rw [List.cons_append, List.cons_append, crlfToLf, ih, List.cons_append]
  | case3 d cs hd ih =>
    rw [List.cons_append, crlfToLf, ih, List.cons_append]
    rintro ds rfl hds
    rcases cs with - | ⟨e, cs⟩
    · exact hc (List.cons.inj hds).1
    · exact hd cs rfl (by rw [(List.cons.inj hds).1])

/-- The first line loses the carriage return at its end. -/
theorem crlfToLf_line {line : List Char} (h : '\n' ∉ line) (cs : List Char) :
    crlfToLf (line ++ '\n' :: cs) = stripCr line ++ '\n' :: crlfToLf cs := by
  induction line with
  | nil => rfl
  | cons c line ih =>
    have hline : '\n' ∉ line := fun hmem => h (List.mem_cons_of_mem c hmem)
    cases line with
    | nil =>
      by_cases hc : c = '\r'
      -- a carriage return right before the line feed goes
      · subst hc
        rfl
      · simp [crlfToLf, stripCr, hc]
    | cons d line =>
      have hd : d ≠ '\n' := fun heq => hline (heq ▸ List.mem_cons_self)
      -- one further back stays
      have hstep : crlfToLf (c :: (d :: line ++ '\n' :: cs))
          = c :: crlfToLf (d :: line ++ '\n' :: cs) := by
        rw [crlfToLf]
        rintro cs' - heq
        exact hd (List.cons.inj heq).1
      have hstrip : stripCr (c :: d :: line) = c :: stripCr (d :: line) := by
        unfold stripCr
        rw [List.getLast?_cons_cons]
        split <;> simp
      rw [List.cons_append, hstep, ih hline, hstrip, List.cons_append]

theorem not_mem_stripCr {line : List Char} {c : Char} (h : c ∉ line) : c ∉ stripCr line := by
  rw [stripCr]
  split
  · exact fun hmem => h (List.dropLast_subset line hmem)
  · exact h

/-- No line has a line feed. -/
theorem not_mem_of_mem_linesFrom {line cs l : List Char} (hline : '\n' ∉ line)
    (hl : l ∈ linesFrom line cs) : '\n' ∉ l := by
  induction cs generalizing line with
  | nil =>
    rw [linesFrom] at hl
    split at hl
    · cases hl
    · rwa [List.mem_singleton.mp hl]
  | cons c cs ih =>
    rw [linesFrom] at hl
    split at hl
    case isTrue =>
      rcases List.mem_cons.mp hl with rfl | hl
      · exact not_mem_stripCr hline
      · exact ih List.not_mem_nil hl
    case isFalse hc => exact ih (by simp [hline, Ne.symm hc]) hl

/-- A line has no line feed. -/
theorem not_mem_of_mem_lines {cs l : List Char} (hl : l ∈ lines cs) : '\n' ∉ l :=
  not_mem_of_mem_linesFrom List.not_mem_nil hl

/-- A filter that drops carriage returns does not see them stripped. -/
theorem filter_stripCr {p : Char → Bool} (hcr : p '\r' = false) (line : List Char) :
    (stripCr line).filter p = line.filter p := by
  rw [stripCr]
  split
  case isTrue hlast =>
    obtain ⟨start, hstart⟩ := List.getLast?_eq_some_iff.mp hlast
    rw [hstart, List.dropLast_concat, List.filter_append, List.filter_singleton, hcr, cond_false,
      List.append_nil]
  case isFalse => rfl

/-- A filter that drops line ends finds in the lines what it finds in the text. -/
theorem filter_flatten_linesFrom {p : Char → Bool} (hlf : p '\n' = false) (hcr : p '\r' = false)
    (line cs : List Char) : (linesFrom line cs).flatten.filter p = (line ++ cs).filter p := by
  induction cs generalizing line with
  | nil =>
    rw [linesFrom, List.append_nil]
    split
    case isTrue hline => rw [hline, List.flatten_nil]
    case isFalse => rw [List.flatten_singleton]
  | cons c cs ih =>
    rw [linesFrom]
    split
    case isTrue hc =>
      rw [List.flatten_cons, List.filter_append, filter_stripCr hcr, ih, List.nil_append,
        List.filter_append, List.filter_cons_of_neg (by simp [hc, hlf])]
    case isFalse => rw [ih, List.append_assoc, List.singleton_append]

/-- The lines have all characters that end no line. -/
theorem filter_flatten_lines {p : Char → Bool} (hlf : p '\n' = false) (hcr : p '\r' = false)
    (cs : List Char) : (lines cs).flatten.filter p = cs.filter p :=
  filter_flatten_linesFrom hlf hcr [] cs

/-- A text has a line. -/
theorem linesFrom_ne_nil {line cs : List Char} (h : line ++ cs ≠ []) : linesFrom line cs ≠ [] := by
  induction cs generalizing line with
  | nil => simpa [linesFrom] using h
  | cons c cs ih =>
    unfold linesFrom
    split
    · simp
    · exact ih (by simp)

/-- Joined again by line feeds, the lines are the text with every `\r\n` read as a line feed. -/
theorem intercalate_linesFrom {line cs : List Char} (hline : '\n' ∉ line)
    (hlast : cs.getLast? ≠ some '\n') :
    ['\n'].intercalate (linesFrom line cs) = crlfToLf (line ++ cs) := by
  induction cs generalizing line with
  | nil =>
    rw [List.append_nil, crlfToLf_of_not_mem hline]
    unfold linesFrom
    split <;> simp_all
  | cons c cs ih =>
    unfold linesFrom
    split
    case isTrue hc =>
      subst hc
      have hcs : cs ≠ [] := by
        rintro rfl
        exact hlast rfl
      have hlast' : cs.getLast? ≠ some '\n' := by
        rwa [List.getLast?_cons_of_ne_nil hcs] at hlast
      -- the text goes on after the line feed, so there is another line to join
      obtain ⟨l, ls, hls⟩ :=
        List.exists_cons_of_ne_nil (linesFrom_ne_nil (show [] ++ cs ≠ [] from hcs))
      have hrest := @ih [] (by simp) hlast'
      rw [hls] at hrest ⊢
      rw [crlfToLf_line hline, List.intercalate_cons_cons, hrest]
      simp
    case isFalse hc =>
      have hlast' : cs.getLast? ≠ some '\n' := by
        cases cs with
        | nil => simp
        | cons d cs => rwa [List.getLast?_cons_cons] at hlast
      have hline' : '\n' ∉ line ++ [c] := by simp [hline, Ne.symm hc]
      rw [ih hline' hlast', List.append_assoc, List.singleton_append]

/-- The text a list of lines gives when joined, for a text that does not end in a line feed. -/
theorem intercalate_lines {cs : List Char} (hlast : cs.getLast? ≠ some '\n') :
    ['\n'].intercalate (lines cs) = crlfToLf cs :=
  intercalate_linesFrom (by simp) hlast

/-! ### Length in UTF-8 -/

/-- `str::len`, the length of a text in bytes. -/
def utf8Len (cs : List Char) : ℕ := (cs.map Char.utf8Size).sum

/-- `char::len_utf16`. -/
def lenUtf16 (c : Char) : ℕ := if 0x10000 ≤ c.toNat then 2 else 1

/-- A character needs two units at most. -/
theorem lenUtf16_le (c : Char) : lenUtf16 c ≤ 2 := by
  rw [lenUtf16]
  split <;> decide

/-- The length of a text in UTF-16 code units. -/
def utf16Len (cs : List Char) : ℕ := (cs.map lenUtf16).sum

@[simp]
theorem utf16Len_nil : utf16Len [] = 0 := rfl

@[simp]
theorem utf16Len_cons (c : Char) (cs : List Char) :
    utf16Len (c :: cs) = lenUtf16 c + utf16Len cs := by
  simp [utf16Len]

@[simp]
theorem utf16Len_append (as bs : List Char) : utf16Len (as ++ bs) = utf16Len as + utf16Len bs := by
  simp [utf16Len]

@[simp]
theorem utf16Len_replicate (n : ℕ) (c : Char) :
    utf16Len (List.replicate n c) = n * lenUtf16 c := by
  simp [utf16Len]

/-- A joined text has the length of its parts and of the separators between them. -/
theorem utf16Len_intercalate (sep : List Char) (ls : List (List Char)) :
    utf16Len (sep.intercalate ls) =
      (ls.map utf16Len).sum + (ls.length - 1) * utf16Len sep := by
  induction ls with
  | nil => simp
  | cons l ls ih =>
    cases ls with
    | nil => simp
    | cons l' ls =>
      rw [List.intercalate_cons_cons, utf16Len_append, utf16Len_append, ih]
      simp only [List.map_cons, List.sum_cons, List.length_cons, Nat.add_sub_cancel,
        Nat.succ_mul]
      omega

end Str

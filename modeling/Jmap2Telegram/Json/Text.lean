import Std.Data.String.ToInt
import Mathlib.Data.Int.Notation
import Mathlib.Data.Nat.Notation
import Mathlib.Tactic.Common

/-!
# JSON values and their compact text

`Json` is the type of JSON values whose numbers are integers. `Json.print` writes the compact form
(no white space, the short escapes, and `\u00xx` for the other control characters) and `Json.parse`
reads it.

* `Json.parse_print`: every value reads back from its text.
-/

/-- JSON values with integer numbers. -/
inductive Json where
  | null
  | bool (b : Bool)
  | num (n : ℤ)
  | str (s : String)
  | arr (items : List Json)
  | obj (fields : List (String × Json))

namespace Json

/-! ### Printing -/

/-- The lower-case hexadecimal digit of a number below 16. -/
def hexDigit (n : ℕ) : Char := if n < 10 then Char.ofNat (48 + n) else Char.ofNat (87 + n)

/-- A character inside a string literal. -/
def printChar (c : Char) : List Char :=
  match c with
  | '"' => ['\\', '"']
  | '\\' => ['\\', '\\']
  | '\x08' => ['\\', 'b']
  | '\x0c' => ['\\', 'f']
  | '\n' => ['\\', 'n']
  | '\r' => ['\\', 'r']
  | '\t' => ['\\', 't']
  | c =>
    if c.toNat < 32 then ['\\', 'u', '0', '0', hexDigit (c.toNat / 16), hexDigit (c.toNat % 16)]
    else [c]

/-- A string literal, without its opening quote. -/
def printStr (s : String) : List Char := s.toList.flatMap printChar ++ ['"']

mutual

/-- The compact text of a value. -/
def print : Json → List Char
  | null => ['n', 'u', 'l', 'l']
  | bool true => ['t', 'r', 'u', 'e']
  | bool false => ['f', 'a', 'l', 's', 'e']
  | num n => n.repr.toList
  | str s => '"' :: printStr s
  | arr [] => ['[', ']']
  | arr (v :: vs) => '[' :: (print v ++ printItems vs)
  | obj [] => ['\x7b', '\x7d']
  | obj (f :: fs) => '\x7b' :: (printField f ++ printFields fs)

/-- The items after the first, and the closing bracket. -/
def printItems : List Json → List Char
  | [] => [']']
  | v :: vs => ',' :: (print v ++ printItems vs)

/-- A key, a colon and a value. -/
def printField : String × Json → List Char
  | (key, v) => '"' :: (printStr key ++ ':' :: print v)

/-- The fields after the first, and the closing brace. -/
def printFields : List (String × Json) → List Char
  | [] => ['\x7d']
  | f :: fs => ',' :: (printField f ++ printFields fs)

end

/-! ### Parsing -/

/-- The value of a hexadecimal digit. -/
def hexValue (c : Char) : Option ℕ :=
  if c.isDigit then some (c.toNat - 48)
  else if 'a' ≤ c ∧ c ≤ 'f' then some (c.toNat - 87)
  else if 'A' ≤ c ∧ c ≤ 'F' then some (c.toNat - 55)
  else none

/-- What a short escape stands for. -/
def unescape (c : Char) : Option Char :=
  match c with
  | '"' => some '"'
  | '\\' => some '\\'
  | '/' => some '/'
  | 'b' => some '\x08'
  | 'f' => some '\x0c'
  | 'n' => some '\n'
  | 'r' => some '\r'
  | 't' => some '\t'
  | _ => none

/-- The character four hexadecimal digits name. -/
def hexChar (a b c d : Char) : Option Char := do
  let a ← hexValue a
  let b ← hexValue b
  let c ← hexValue c
  let d ← hexValue d
  some (Char.ofNat (a * 4096 + b * 256 + c * 16 + d))

/-- The characters of a string literal up to its closing quote, and what follows. -/
def parseStr : List Char → Option (List Char × List Char)
  | [] => none
  | c :: cs =>
    if c = '"' then some ([], cs)
    else if c = '\\' then
      match cs with
      | 'u' :: a :: b :: c :: d :: cs =>
        (hexChar a b c d).bind fun c => (parseStr cs).map fun r => (c :: r.1, r.2)
      | e :: cs => (unescape e).bind fun c => (parseStr cs).map fun r => (c :: r.1, r.2)
      | [] => none
    else (parseStr cs).map fun r => (c :: r.1, r.2)

/-- The characters of a number. -/
def isNumChar (c : Char) : Bool := c.isDigit || c == '-'

mutual

/-- A value at the head of the text, and what follows; `fuel` bounds the depth of the calls. -/
def parseValue : ℕ → List Char → Option (Json × List Char)
  | 0, _ => none
  | _ + 1, [] => none
  | fuel + 1, c :: cs =>
    if isNumChar c then
      ((String.ofList ((c :: cs).takeWhile isNumChar)).toInt?).map fun n =>
        (num n, (c :: cs).dropWhile isNumChar)
    else match c, cs with
      | 'n', 'u' :: 'l' :: 'l' :: cs => some (null, cs)
      | 't', 'r' :: 'u' :: 'e' :: cs => some (bool true, cs)
      | 'f', 'a' :: 'l' :: 's' :: 'e' :: cs => some (bool false, cs)
      | '"', cs => (parseStr cs).map fun (s, rest) => (str (String.ofList s), rest)
      | '[', ']' :: cs => some (arr [], cs)
      | '[', cs => do
        let (v, cs) ← parseValue fuel cs
        let (vs, cs) ← parseItems fuel cs
        some (arr (v :: vs), cs)
      | '\x7b', '\x7d' :: cs => some (obj [], cs)
      | '\x7b', cs => do
        let (f, cs) ← parseField fuel cs
        let (fs, cs) ← parseFields fuel cs
        some (obj (f :: fs), cs)
      | _, _ => none

/-- The items after the first, up to the closing bracket. -/
def parseItems : ℕ → List Char → Option (List Json × List Char)
  | _ + 1, ']' :: cs => some ([], cs)
  | fuel + 1, ',' :: cs => do
    let (v, cs) ← parseValue fuel cs
    let (vs, cs) ← parseItems fuel cs
    some (v :: vs, cs)
  | _, _ => none

/-- A key, a colon and a value. -/
def parseField : ℕ → List Char → Option ((String × Json) × List Char)
  | fuel + 1, '"' :: cs => do
    let (key, cs) ← parseStr cs
    match cs with
    | ':' :: cs => do
      let (v, cs) ← parseValue fuel cs
      some ((String.ofList key, v), cs)
    | _ => none
  | _, _ => none

/-- The fields after the first, up to the closing brace. -/
def parseFields : ℕ → List Char → Option (List (String × Json) × List Char)
  | _ + 1, '\x7d' :: cs => some ([], cs)
  | fuel + 1, ',' :: cs => do
    let (f, cs) ← parseField fuel cs
    let (fs, cs) ← parseFields fuel cs
    some (f :: fs, cs)
  | _, _ => none

end

/-- A whole text as one value. -/
def parse (text : List Char) : Option Json :=
  match parseValue (text.length + 1) text with
  | some (v, []) => some v
  | _ => none

/-! ### Round trip -/

private theorem hexValue_hexDigit : ∀ n < 16, hexValue (hexDigit n) = some n := by decide

private theorem hexChar_low {n : ℕ} (h : n < 32) :
    hexChar '0' '0' (hexDigit (n / 16)) (hexDigit (n % 16)) = some (Char.ofNat n) := by
  have hzero : hexValue '0' = some 0 := by decide
  have hval : 0 * 4096 + 0 * 256 + n / 16 * 16 + n % 16 = n := by omega
  simp only [hexChar, hzero, hexValue_hexDigit (n / 16) (by omega),
    hexValue_hexDigit (n % 16) (by omega), Option.bind_eq_bind, Option.bind_some, hval]

/-- One printed character is read back as that character. -/
theorem parseStr_printChar (c : Char) (rest : List Char) :
    parseStr (printChar c ++ rest) = (parseStr rest).map fun r => (c :: r.1, r.2) := by
  unfold printChar
  split
  case h_8 hquote hback _ _ _ _ _ =>
    split
    case isTrue hc =>
      simp [parseStr, hexChar_low hc]
    case isFalse hc =>
      have hquote : c ≠ '"' := hquote
      have hback : c ≠ '\\' := hback
      rw [List.singleton_append, parseStr.eq_def]
      simp only [if_neg hquote, if_neg hback]
  all_goals simp [parseStr, unescape]

/-- A string literal reads back. -/
theorem parseStr_printStr (s : String) (rest : List Char) :
    parseStr (printStr s ++ rest) = some (s.toList, rest) := by
  unfold printStr
  induction s.toList with
  | nil => rw [List.flatMap_nil, List.nil_append, List.singleton_append, parseStr.eq_def]; rfl
  | cons c cs ih =>
    rw [List.flatMap_cons, List.append_assoc, List.append_assoc, parseStr_printChar,
      ← List.append_assoc, ih]
    rfl

/-- What may follow a number: the end of the text or a character that is not part of one. -/
def Follow (rest : List Char) : Prop := ∀ c ∈ rest.head?, isNumChar c = false

theorem isNumChar_of_mem_repr {n : ℤ} {c : Char} (h : c ∈ n.repr.toList) : isNumChar c = true := by
  have hnat : ∀ m : ℕ, c ∈ m.repr.toList → isNumChar c = true := by
    intro m hm
    rw [Nat.toList_repr] at hm
    simp [isNumChar, Nat.isDigit_of_mem_toDigits (by decide) (by decide) hm]
  rw [Int.repr_eq_if] at h
  split at h
  · exact hnat _ h
  · rw [String.toList_append, List.mem_append] at h
    rcases h with h | h
    · have hc : c = '-' := by simpa using h
      subst hc
      rfl
    · exact hnat _ h

theorem exists_repr_toList (n : ℤ) : ∃ c cs, n.repr.toList = c :: cs := by
  refine List.exists_cons_of_ne_nil fun h => ?_
  rw [String.toList_eq_nil_iff, Int.repr_eq_if] at h
  have hpos := fun m : ℕ => Nat.length_repr_pos (n := m)
  split at h
  · have hlen := hpos n.toNat
    simp [h] at hlen
  · simp at h

/-- A number reads back, and what follows it is left. -/
theorem parseValue_num (n : ℤ) {fuel : ℕ} {rest : List Char} (hrest : Follow rest) :
    parseValue (fuel + 1) (n.repr.toList ++ rest) = some (num n, rest) := by
  obtain ⟨c, cs, hcs⟩ := exists_repr_toList n
  have hall : ∀ d ∈ n.repr.toList, isNumChar d = true := fun d => isNumChar_of_mem_repr
  have htake : (n.repr.toList ++ rest).takeWhile isNumChar = n.repr.toList := by
    rw [List.takeWhile_append_of_pos hall]
    cases rest with
    | nil => simp
    | cons d rest => simp [hrest d rfl]
  have hdrop : (n.repr.toList ++ rest).dropWhile isNumChar = rest := by
    rw [List.dropWhile_append_of_pos hall]
    cases rest with
    | nil => simp
    | cons d rest => simp [hrest d rfl]
  have hc : isNumChar c = true := hall c (by simp [hcs])
  rw [hcs, List.cons_append] at htake hdrop ⊢
  rw [parseValue.eq_def]
  simp only [if_pos hc, htake, hdrop, ← hcs, String.ofList_toList, Int.toInt?_repr, Option.map_some]

/-- No value's text starts with a closing bracket. -/
theorem print_head (v : Json) : ∃ c cs, print v = c :: cs ∧ c ≠ ']' := by
  cases v with
  | null => exact ⟨_, _, rfl, by decide⟩
  | bool b => cases b <;> exact ⟨_, _, rfl, by decide⟩
  | num n =>
    obtain ⟨c, cs, hcs⟩ := exists_repr_toList n
    refine ⟨c, cs, hcs, ?_⟩
    rintro rfl
    have hnum := isNumChar_of_mem_repr (n := n) (c := ']') (by simp [hcs])
    exact absurd hnum (by decide)
  | str s => exact ⟨_, _, rfl, by decide⟩
  | arr items => cases items <;> exact ⟨_, _, rfl, by decide⟩
  | obj fields => cases fields <;> exact ⟨_, _, rfl, by decide⟩

private theorem follow_items (vs : List Json) (rest : List Char) :
    Follow (printItems vs ++ rest) := by
  cases vs <;> rintro c ⟨⟩ <;> decide

private theorem follow_fields (fs : List (String × Json)) (rest : List Char) :
    Follow (printFields fs ++ rest) := by
  cases fs <;> rintro c ⟨⟩ <;> decide

mutual

/-- A value reads back, and what follows it is left. -/
theorem parseValue_print : ∀ (v : Json) (fuel : ℕ) (rest : List Char),
    (print v).length < fuel → Follow rest → parseValue fuel (print v ++ rest) = some (v, rest)
  | null, fuel + 1, rest, _, _ => by simp [print, parseValue, isNumChar]
  | bool true, fuel + 1, rest, _, _ => by simp [print, parseValue, isNumChar]
  | bool false, fuel + 1, rest, _, _ => by simp [print, parseValue, isNumChar]
  | num n, fuel + 1, rest, _, hrest => parseValue_num n hrest
  | str s, fuel + 1, rest, _, _ => by
    simp [print, parseValue, isNumChar, parseStr_printStr]
  | arr [], fuel + 1, rest, _, _ => by simp [print, parseValue, isNumChar]
  | arr (v :: vs), fuel + 1, rest, hfuel, _ => by
    simp only [print, List.length_cons, List.length_append] at hfuel
    have hv := parseValue_print v fuel (printItems vs ++ rest) (by omega) (follow_items vs rest)
    have hvs := parseItems_print vs fuel rest (by omega)
    obtain ⟨c, cs, hcs, hc⟩ := print_head v
    rw [hcs] at hv
    simp only [List.cons_append] at hv
    simp [print, parseValue, isNumChar, hcs, hc, hv, hvs]
  | obj [], fuel + 1, rest, _, _ => by simp [print, parseValue, isNumChar]
  | obj ((key, v) :: fs), fuel + 1, rest, hfuel, _ => by
    simp only [print, List.length_cons, List.length_append] at hfuel
    have hf :=
      parseField_print (key, v) fuel (printFields fs ++ rest) (by omega) (follow_fields fs rest)
    have hfs := parseFields_print fs fuel rest (by omega)
    simp only [printField, List.cons_append, List.append_assoc] at hf
    simp [print, printField, parseValue, isNumChar, hf, hfs]

theorem parseItems_print : ∀ (vs : List Json) (fuel : ℕ) (rest : List Char),
    (printItems vs).length < fuel → parseItems fuel (printItems vs ++ rest) = some (vs, rest)
  | [], fuel + 1, rest, _ => by simp [printItems, parseItems]
  | v :: vs, fuel + 1, rest, hfuel => by
    simp only [printItems, List.length_cons, List.length_append] at hfuel
    have hv := parseValue_print v fuel (printItems vs ++ rest) (by omega) (follow_items vs rest)
    have hvs := parseItems_print vs fuel rest (by omega)
    simp [printItems, parseItems, hv, hvs]

theorem parseField_print : ∀ (f : String × Json) (fuel : ℕ) (rest : List Char),
    (printField f).length < fuel → Follow rest →
      parseField fuel (printField f ++ rest) = some (f, rest)
  | (key, v), fuel + 1, rest, hfuel, hrest => by
    simp only [printField, List.length_cons, List.length_append] at hfuel
    have hv := parseValue_print v fuel rest (by omega) hrest
    simp [printField, parseField, parseStr_printStr, hv]

theorem parseFields_print : ∀ (fs : List (String × Json)) (fuel : ℕ) (rest : List Char),
    (printFields fs).length < fuel → parseFields fuel (printFields fs ++ rest) = some (fs, rest)
  | [], fuel + 1, rest, _ => by simp [printFields, parseFields]
  | f :: fs, fuel + 1, rest, hfuel => by
    simp only [printFields, List.length_cons, List.length_append] at hfuel
    have hf := parseField_print f fuel (printFields fs ++ rest) (by omega) (follow_fields fs rest)
    have hfs := parseFields_print fs fuel rest (by omega)
    simp [printFields, parseFields, hf, hfs]

end

/-- **Main result.** Every value reads back from its text. -/
theorem parse_print (v : Json) : parse (print v) = some v := by
  have hread := parseValue_print v ((print v).length + 1) [] (by omega) (by rintro c ⟨⟩)
  rw [List.append_nil] at hread
  rw [parse, hread]

end Json

import Jmap2Telegram.ForStd.Str
import Mathlib.Algebra.Ring.Int.Defs
import Mathlib.Data.Nat.Notation

/-!
# Decimal numbers in texts

`str::parse` for the integer types reads an optional sign and at least one decimal digit, and fails
when the number is out of range. `Spells` says what is read without saying how: leading zeros and a
plus sign are allowed, and so is a minus sign before zero.

* `parseI64_eq_some_iff`: a text parses to a number if and only if it spells it.
-/

namespace Str

/-- The decimal digits of a number after so many zeros. -/
def padded (zeros n : ℕ) : List Char := List.replicate zeros '0' ++ Nat.toDigits 10 n

/-- Digits without a sign. -/
def parseDigits (cs : List Char) : Option ℕ :=
  if cs ≠ [] ∧ cs.all Char.isDigit then some (Nat.ofDigitChars 10 cs 0) else none

/-- An integer as an `i64`, if it is in range. -/
def toI64 (n : ℤ) : Option Int64 := if -2 ^ 63 ≤ n ∧ n < 2 ^ 63 then some (Int64.ofInt n) else none

/-- `str::parse::<i64>`. -/
def parseI64 (s : String) : Option Int64 :=
  match s.toList with
  | '-' :: cs => (parseDigits cs).bind fun n => toI64 (-n)
  | '+' :: cs => (parseDigits cs).bind fun n => toI64 n
  | cs => (parseDigits cs).bind fun n => toI64 n

/-- A text spells a number. -/
def Spells (cs : List Char) (n : Int64) : Prop :=
  ∃ zeros m : ℕ, ((cs = padded zeros m ∨ cs = '+' :: padded zeros m) ∧ n.toInt = m) ∨
    cs = '-' :: padded zeros m ∧ n.toInt = -m

/-! ### Digits -/

/-- A padded number is made of digits. -/
theorem isDigit_of_mem_padded {zeros n : ℕ} {c : Char} (h : c ∈ padded zeros n) :
    c.isDigit = true := by
  rcases List.mem_append.mp h with h | h
  · rw [List.eq_of_mem_replicate h]
    rfl
  · exact Nat.isDigit_of_mem_toDigits (by decide) (by decide) h

theorem padded_ne_nil (zeros n : ℕ) : padded zeros n ≠ [] :=
  List.append_ne_nil_of_right_ne_nil _ Nat.toDigits_ne_nil

/-- Leading zeros do not change a number. -/
theorem ofDigitChars_padded (zeros n : ℕ) : Nat.ofDigitChars 10 (padded zeros n) 0 = n := by
  rw [padded, Nat.ofDigitChars_append, Nat.ofDigitChars_replicate_zero, Nat.mul_zero,
    Nat.ofDigitChars_ten_toDigits]

/-- What starts with a sign is no padded number. -/
theorem cons_ne_padded {c : Char} (hc : c.isDigit = false) (cs : List Char) (zeros n : ℕ) :
    c :: cs ≠ padded zeros n := by
  intro h
  have hmem : c ∈ padded zeros n := h ▸ List.mem_cons_self
  rw [isDigit_of_mem_padded hmem] at hc
  cases hc

/-- A digit character is that of a digit. -/
theorem exists_digitChar {c : Char} (h : c.isDigit = true) : ∃ d < 10, c = d.digitChar := by
  have hvalue : ∀ d < 10, d.digitChar.toNat = d + 48 := by decide
  obtain ⟨hlo, hhi⟩ := Char.isDigit_iff_toNat.mp h
  simp only [Char.reduceToNat] at hlo hhi
  refine ⟨c.toNat - 48, by omega, Char.toNat_inj.mp ?_⟩
  rw [hvalue _ (by omega)]
  omega

/-- Zeros before a digit and more digits are the digits of the number they are, padded. -/
theorem exists_padded {cs : List Char} (hne : cs ≠ []) (hdigits : ∀ c ∈ cs, c.isDigit = true) :
    ∃ zeros, cs = padded zeros (Nat.ofDigitChars 10 cs 0) := by
  induction cs using List.reverseRecOn with
  | nil => exact absurd rfl hne
  | append_singleton cs c ih =>
    obtain ⟨d, hd, rfl⟩ := exists_digitChar (hdigits c (by simp))
    have hvalue : Nat.ofDigitChars 10 (cs ++ [d.digitChar]) 0 =
        10 * Nat.ofDigitChars 10 cs 0 + d := by
      rw [Nat.ofDigitChars_append, Nat.ofDigitChars_cons_digitChar_of_lt_ten hd,
        Nat.ofDigitChars_nil]
    rw [hvalue]
    obtain rfl | hcs := eq_or_ne cs []
    · exact ⟨0, by simp [padded, Nat.toDigits_of_lt_base hd]⟩
    obtain ⟨zeros, hzeros⟩ := ih hcs fun c hc => hdigits c (List.mem_append_left _ hc)
    generalize Nat.ofDigitChars 10 cs 0 = n at hzeros ⊢
    obtain rfl | hn := Nat.eq_zero_or_pos n
    -- the zero so far is one more to put before
    · refine ⟨zeros + 1, ?_⟩
      rw [hzeros, padded, padded, Nat.mul_zero, Nat.zero_add, Nat.toDigits_zero,
        Nat.toDigits_of_lt_base hd, List.replicate_succ', List.append_assoc]
    · refine ⟨zeros, ?_⟩
      rw [hzeros, padded, padded, ← Nat.toDigits_append_toDigits (by decide) hn hd,
        Nat.toDigits_of_lt_base hd, List.append_assoc]

/-- Without a sign, the digits of a number are read. -/
theorem parseDigits_eq_some_iff {cs : List Char} {n : ℕ} :
    parseDigits cs = some n ↔ ∃ zeros, cs = padded zeros n := by
  rw [parseDigits]
  constructor
  · intro h
    split at h
    case isTrue hdigits =>
      obtain ⟨zeros, hzeros⟩ := exists_padded hdigits.1 (List.all_eq_true.mp hdigits.2)
      cases h
      exact ⟨zeros, hzeros⟩
    case isFalse => cases h
  · rintro ⟨zeros, rfl⟩
    rw [if_pos ⟨padded_ne_nil zeros n, List.all_eq_true.mpr fun c => isDigit_of_mem_padded⟩,
      ofDigitChars_padded]

/-- An integer that fits is converted to itself. -/
theorem toI64_eq_some_iff {m : ℤ} {n : Int64} : toI64 m = some n ↔ n.toInt = m := by
  rw [toI64]
  constructor
  · intro h
    split at h
    case isTrue hrange =>
      cases h
      exact Int64.toInt_ofInt_of_le hrange.1 hrange.2
    case isFalse => cases h
  · rintro rfl
    rw [if_pos ⟨Int64.le_toInt n, Int64.toInt_lt n⟩, Int64.ofInt_toInt]

/-! ### Numbers with a sign -/

/-- A text parses to a number if and only if it spells it. -/
theorem parseI64_eq_some_iff {s : String} {n : Int64} :
    parseI64 s = some n ↔ Spells s.toList n := by
  have hread : ∀ (cs : List Char) (f : ℕ → ℤ),
      ((parseDigits cs).bind fun m => toI64 (f m)) = some n ↔
        ∃ zeros m, cs = padded zeros m ∧ n.toInt = f m := by
    intro cs f
    simp only [Option.bind_eq_some_iff, parseDigits_eq_some_iff, toI64_eq_some_iff]
    constructor
    · rintro ⟨m, ⟨zeros, hzeros⟩, hn⟩
      exact ⟨zeros, m, hzeros, hn⟩
    · rintro ⟨zeros, m, hzeros, hn⟩
      exact ⟨m, ⟨zeros, hzeros⟩, hn⟩
  rw [parseI64, Spells]
  generalize s.toList = text
  split
  case h_1 cs =>
    rw [hread cs fun m => -m]
    simp [cons_ne_padded (show '-'.isDigit = false by decide)]
  case h_2 cs =>
    rw [hread cs fun m => m]
    simp [cons_ne_padded (show '+'.isDigit = false by decide)]
  case h_3 hminus hplus =>
    rw [hread text fun m => m]
    have hm : ∀ cs, text ≠ '-' :: cs := fun cs h => hminus cs h
    have hp : ∀ cs, text ≠ '+' :: cs := fun cs h => hplus cs h
    simp [hm, hp]

end Str

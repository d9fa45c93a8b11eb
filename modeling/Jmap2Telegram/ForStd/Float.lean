import Mathlib.Algebra.Group.Nat.Defs
import Mathlib.Tactic.Common

/-!
# Integers as `f64`

The program turns byte counts into `f64`, divides them by powers of two, and prints them with a
fixed number of decimals. All of that is exact arithmetic on integers but for two roundings, both to
nearest with ties to even: the conversion keeps 53 bits, and the printing keeps the decimals asked
for.
-/

namespace F64

/-- `n / d` rounded to the nearest integer, ties to even. -/
def roundHalfEven (n d : ℕ) : ℕ :=
  let q := n / d
  let r := n % d
  if 2 * r < d then q
  else if d < 2 * r then q + 1
  else if q % 2 = 0 then q
  else q + 1

/-- `n as f64`, which is an integer again: the 53 leading bits of `n`, rounded. -/
def ofNat (n : ℕ) : ℕ :=
  let ulp := 2 ^ (n.log2 - 52)
  roundHalfEven n ulp * ulp

/-- `format!("{:.0}", n / d)` for `d` a power of two, where the division is exact. -/
def fixed0 (n d : ℕ) : String := (roundHalfEven n d).repr

/-- `format!("{:.1}", n / d)` for `d` a power of two, where the division is exact. -/
def fixed1 (n d : ℕ) : String :=
  let tenths := roundHalfEven (n * 10) d
  (tenths / 10).repr ++ "." ++ (tenths % 10).repr

end F64

/-! # Double-precision numbers

A finite double is a whole number of units of `2 ^ -1074`, the distance of the two smallest
doubles. Every operation here is exact on natural numbers.
-/

namespace WhereClause

/-- Powers are those of the core library, also where Mathlib brings its own. -/
@[default_instance high]
instance natPow : Pow Nat Nat := instPowNat

@[default_instance high]
instance intPow : Pow Int Nat := instPowNat

/-- How many units make one. -/
def Double.one : Nat := 2 ^ 1074

/-- The absolute value of a finite double: `mantissa * 2 ^ exponent` units. The mantissa has 53
bits, and fewer only where the exponent cannot go lower. -/
structure Magnitude where
  mantissa : Nat
  exponent : Nat
  mantissa_lt : mantissa < 2 ^ 53
  exponent_le : exponent ≤ 2045
  normal : exponent = 0 ∨ 2 ^ 52 ≤ mantissa
  deriving DecidableEq

inductive Double where
  | nan
  | infinity (negative : Bool)
  | finite (negative : Bool) (magnitude : Magnitude)
  deriving DecidableEq

namespace Magnitude

def units (m : Magnitude) : Nat := m.mantissa * 2 ^ m.exponent

def zero : Magnitude := ⟨0, 0, by decide, by decide, .inl rfl⟩

/-! ## Rounding -/

/-- The whole number nearest to `a / b`; of two, the even one. -/
def roundQuotient (a b : Nat) : Nat :=
  let q := a / b
  let r := a % b
  if b < 2 * r ∨ (2 * r = b ∧ q % 2 = 1) then q + 1 else q

theorem roundQuotient_bounds (a b : Nat) : a / b ≤ roundQuotient a b ∧ roundQuotient a b ≤ a / b + 1 := by
  unfold roundQuotient
  dsimp only
  split <;> omega

/-- The exponent that leaves 53 bits of `n`, or 0 where `n` has no more. -/
def exponentFor (n : Nat) : Nat := n.log2 - 52

theorem le_div_exponentFor (n : Nat) (h : exponentFor n ≠ 0) : 2 ^ 52 ≤ n / 2 ^ exponentFor n := by
  apply (Nat.le_div_iff_mul_le (Nat.two_pow_pos _)).mpr
  rw [← Nat.pow_add]
  unfold exponentFor at *
  have hn : n ≠ 0 := by
    intro h0; subst h0; simp at h
  rw [show 52 + (n.log2 - 52) = n.log2 by omega]
  exact Nat.log2_self_le hn

/-- The magnitude nearest to `num / den`; of two, the one with the even mantissa. There is none
beyond the greatest double. -/
def round? (num den : Nat) : Option Magnitude :=
  let n := num * Double.one / den
  let e := exponentFor n
  let m := roundQuotient (num * Double.one) (den * 2 ^ e)
  have hfloor : num * Double.one / (den * 2 ^ e) = n / 2 ^ e := (Nat.div_div_eq_div_mul ..).symm
  have hm : n / 2 ^ e ≤ m ∧ m ≤ n / 2 ^ e + 1 := hfloor ▸ roundQuotient_bounds ..
  if hlt : m < 2 ^ 53 then
    if he : e ≤ 2045 then
      some ⟨m, e, hlt, he, by
        by_cases h0 : e = 0
        · exact .inl h0
        · exact .inr (Nat.le_trans (le_div_exponentFor n h0) hm.1)⟩
    else none
  else if he : e + 1 ≤ 2045 then some ⟨2 ^ 52, e + 1, by decide, he, .inr (Nat.le_refl _)⟩
  else none

end Magnitude

namespace Double

/-- The double nearest to `num / den`. -/
def ofQuotient (negative : Bool) (num den : Nat) : Double :=
  match Magnitude.round? num den with
  | some m => finite negative m
  | none => infinity negative

/-- The double nearest to `digits * 10 ^ exponent`. An exponent far out of range is settled before
any large power is formed. -/
def ofDecimal (negative : Bool) (digits : Nat) (exponent : Int) : Double :=
  if digits = 0 then finite negative .zero
  else match exponent with
    | .ofNat e => if 310 < e then infinity negative else ofQuotient negative (digits * 10 ^ e) 1
    | .negSucc e =>
      if 330 + digits.log2 < e then finite negative .zero else ofQuotient negative digits (10 ^ (e + 1))

/-! ## Comparison -/

/-- The signed number of units. -/
def units? : Double → Option Int
  | finite negative m => some (if negative then -(m.units : Int) else m.units)
  | _ => none

/-- Numeric equality: both zeros are equal, and nothing equals a value that is no number. -/
def same : Double → Double → Bool
  | nan, _ | _, nan => false
  | infinity s, infinity t => s == t
  | x, y => x.units? == y.units?

/-- The whole number that the double is, if it is one. -/
def toInt? (x : Double) : Option Int :=
  match x.units? with
  | some n => if n % (one : Int) = 0 then some (n / (one : Int)) else none
  | none => none

def isZero (x : Double) : Bool := x.units? == some 0

end Double

end WhereClause

import WhereClause.Number.Double

/-! # The fewest digits that read back

A decimal reads back to a double if it lies in the interval of numbers that round to it. The ends
of the interval belong to it when the mantissa is even.
-/

namespace WhereClause

/-- The number `digits * 10 ^ exponent`. -/
structure Decimal where
  digits : Nat
  exponent : Int

namespace Magnitude

/-! ## The rounding interval, in quarters of a unit -/

/-- Half the way to the magnitude above. -/
def roomAbove (m : Magnitude) : Nat := 2 * 2 ^ m.exponent

/-- Half the way to the magnitude below, which is nearer under a power of two. -/
def roomBelow (m : Magnitude) : Nat :=
  if m.mantissa = 2 ^ 52 ∧ m.exponent ≠ 0 then 2 ^ m.exponent else 2 * 2 ^ m.exponent

/-- Whether the decimal rounds to the magnitude. -/
def readsBack (m : Magnitude) (d : Decimal) : Bool :=
  let x := 4 * Double.one * d.digits * 10 ^ d.exponent.toNat
  let scale := 10 ^ (-d.exponent).toNat
  let low := (4 * m.units - m.roomBelow) * scale
  let high := (4 * m.units + m.roomAbove) * scale
  if m.mantissa % 2 = 0 then low ≤ x && x ≤ high else low < x && x < high

/-! ## The search -/

/-- The power of ten of the first digit. -/
def leading (m : Magnitude) : Int :=
  if Double.one ≤ m.units then (Nat.toDigits 10 (m.units / Double.one)).length - 1
  else
    let places := (List.range 325).find? (fun k => Double.one ≤ m.units * 10 ^ k)
    Int.negOfNat (places.getD 325)

/-- The grid point at or below the magnitude, among the multiples of `10 ^ exponent`. -/
def gridFloor (m : Magnitude) (exponent : Int) : Decimal :=
  ⟨m.units * 10 ^ (-exponent).toNat / (Double.one * 10 ^ exponent.toNat), exponent⟩

/-- Whether the grid point above `d` is nearer than `d`; of two equally near, the even one. -/
def nearerAbove (m : Magnitude) (d : Decimal) : Bool :=
  let twice := 2 * m.units * 10 ^ (-d.exponent).toNat
  let middle := (2 * d.digits + 1) * Double.one * 10 ^ d.exponent.toNat
  middle < twice || (middle == twice && d.digits % 2 == 1)

/-- The nearest point of a grid that reads back. -/
def onGrid? (m : Magnitude) (exponent : Int) : Option Decimal :=
  let below := m.gridFloor exponent
  let above := { below with digits := below.digits + 1 }
  match m.readsBack below, m.readsBack above with
  | true, true => some (if m.nearerAbove below then above else below)
  | true, false => some below
  | false, true => some above
  | false, false => none

/-- Seventeen digits always read back, so the search does not run out. -/
def shortest (m : Magnitude) : Decimal :=
  let top := m.leading
  ((List.range 17).findSome? fun (n : Nat) => m.onGrid? (top - n)).getD (m.gridFloor (top - 16))

end Magnitude

end WhereClause

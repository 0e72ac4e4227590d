import WhereClause.Number.Shortest

/-! # How a double is written -/

namespace WhereClause

/-- The choices of a written form. -/
structure Layout where
  /-- The least power of ten of a first digit in positional form. -/
  positionalFrom : Int
  /-- The power of ten from which positional form ends. -/
  positionalBelow : Int
  /-- The least number of digits in an exponent. -/
  exponentWidth : Nat

/-- Positional from `0.0001` to below `10 ^ 16`, otherwise with a signed exponent of two digits. -/
def valueLayout : Layout := ⟨-4, 16, 2⟩

namespace Layout

/-- The digits with a point after the power of ten 0 and a digit on each side of it. -/
def positional (digits : List Char) (top : Int) : List Char :=
  if top < 0 then '0' :: '.' :: List.replicate (-top - 1).toNat '0' ++ digits
  else
    let whole := digits.take (top.toNat + 1)
    let fraction := digits.drop (top.toNat + 1)
    whole ++ List.replicate (top.toNat + 1 - whole.length) '0' ++
      '.' :: (if fraction.isEmpty then ['0'] else fraction)

/-- The first digit, the others after a point, and the exponent. -/
def scientific (layout : Layout) (digits : List Char) (top : Int) : List Char :=
  let fraction := digits.drop 1
  let power := Nat.toDigits 10 top.natAbs
  digits.take 1 ++ (if fraction.isEmpty then [] else '.' :: fraction) ++
    'e' :: (if top < 0 then '-' else '+') ::
      List.replicate (layout.exponentWidth - power.length) '0' ++ power

def write (layout : Layout) (d : Decimal) : List Char :=
  let all := Nat.toDigits 10 d.digits
  let top := d.exponent + all.length - 1
  let digits := (all.reverse.dropWhile (· == '0')).reverse
  if layout.positionalFrom ≤ top ∧ top < layout.positionalBelow then positional digits top
  else layout.scientific digits top

end Layout

/-- The written form of a double. A value that is no number has no sign. -/
def Double.text (x : Double) : String :=
  match x with
  | .nan => "nan"
  | .infinity negative => if negative then "-inf" else "inf"
  | .finite negative m =>
    let body := if m.mantissa = 0 then ['0', '.', '0'] else valueLayout.write m.shortest
    String.ofList (if negative then '-' :: body else body)

end WhereClause

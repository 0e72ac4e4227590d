import WhereClause.Number.Layout

/-! # Numbers -/

namespace WhereClause

/-- A number is a whole number of any size or a double. `1` and `1.0` are different numbers of the
same amount. -/
inductive Number where
  | int (n : Int)
  | double (x : Double)
  deriving DecidableEq

namespace Number

/-- Equality of amounts. A whole number and a double are compared exactly. -/
def same : Number → Number → Bool
  | int m, int n => m == n
  | int m, double x | double x, int m => x.toInt? == some m
  | double x, double y => x.same y

def text : Number → String
  | int n => toString n
  | double x => x.text

def isZero : Number → Bool
  | int n => n == 0
  | double x => x.isZero

end Number

end WhereClause

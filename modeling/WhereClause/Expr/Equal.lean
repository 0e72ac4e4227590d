import WhereClause.Expr.Basic

/-! # Equality of data

Amounts are compared: `true`, `1` and `1.0` are equal. The entries of a record have no order. Two
nodes are equal if they have one form and equal fields.
-/

namespace WhereClause

/-- A truth value counts as 1 or 0 beside a number. -/
def Number.ofBool (b : Bool) : Number := .int (if b then 1 else 0)

mutual

def Datum.same : Datum → Datum → Bool
  | .null, .null => true
  | .bool a, .bool b => a == b
  | .bool a, .number n => (Number.ofBool a).same n
  | .number m, .bool b => m.same (Number.ofBool b)
  | .number m, .number n => m.same n
  | .text s, .text t => s == t
  | .list xs, .list ys => sameItems xs ys
  | .record es, .record fs => es.length == fs.length && sameEntries es fs
  | .expr a, .expr b => a.same b
  | _, _ => false

def sameItems : List Datum → List Datum → Bool
  | [], [] => true
  | x :: xs, y :: ys => x.same y && sameItems xs ys
  | _, _ => false

/-- Every entry of the first has its equal in the second. -/
def sameEntries : List (String × Datum) → List (String × Datum) → Bool
  | [], _ => true
  | (key, x) :: es, fs =>
    (match fs.lookup key with
      | some y => x.same y
      | none => false) && sameEntries es fs

def Expr.same : Expr → Expr → Bool
  | .string s, .string t => s == t
  | .number m, .number n => m.same n
  | .bool a, .bool b => a == b
  | .null, .null => true
  | .column c t, .column d u => c == d && t == u
  | .list xs, .list ys => sameNodes xs ys
  | .binary o l r, .binary p m s => o == p && l.same m && r.same s
  | .unknown k es, .unknown l fs => k == l && es.length == fs.length && sameEntries es fs
  | _, _ => false

def sameNodes : List Expr → List Expr → Bool
  | [], [] => true
  | x :: xs, y :: ys => x.same y && sameNodes xs ys
  | _, _ => false

end

end WhereClause

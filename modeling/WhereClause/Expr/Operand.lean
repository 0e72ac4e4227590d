import WhereClause.Failure

/-! # The values of operands -/

namespace WhereClause

mutual

/-- The value of a literal, and the list of the values of a list of literals. -/
def Expr.operandValue : Expr → Except Rejection Datum
  | .string s => .ok (.text s)
  | .number n => .ok (.number n)
  | .bool b => .ok (.bool b)
  | .null => .ok .null
  | .list items => (operandValues items).map .list
  | e => .error (.operandNotLiteral e.kind)

/-- The values from left to right, up to the first node that has none. -/
def operandValues : List Expr → Except Rejection (List Datum)
  | [] => .ok []
  | e :: es =>
    match e.operandValue with
    | .error r => .error r
    | .ok d => (operandValues es).map (d :: ·)

end

/-- A scalar stands for itself. -/
def Datum.operandValue : Datum → Except Rejection Datum
  | .expr e => e.operandValue
  | .list _ => .error (.operandNotScalar "list")
  | .record _ => .error (.operandNotScalar "dict")
  | d => .ok d

/-- The truth value that a plain value or a literal is. -/
def Datum.truth? : Datum → Option Bool
  | .bool b => some b
  | .expr (.bool b) => some b
  | _ => none

end WhereClause

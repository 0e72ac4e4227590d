import WhereClause.Expr.Operand
import WhereClause.Journal.Traced
import WhereClause.Plan.Operator
import WhereClause.Query.Basic

/-! # One condition on every query -/

namespace WhereClause

/-- Adds a filter to each query in turn. -/
def refineAll (field op value : Datum) : List Query → Except Failure (List Query)
  | [] => .ok []
  | q :: qs => do
    let refined ← q.refine field op value
    let rest ← refineAll field op value qs
    return refined :: rest

/-- A condition with an operator of the store. The operator is checked before the operand. -/
def restrict (queries : List Query) (field operator operand : Datum) : Except Failure (List Query) := do
  let op ← StoreOp.ofDatum operator
  let value ← operand.operandValue.mapError .rejected
  refineAll field (.text op.text) value queries

/-- A condition with any operator. The store has no not-equal: on a truth value it is equality with
the other one, and otherwise the values below are taken and then the values above. -/
def constrain (queries : List Query) (field operator operand : Datum) : Traced (List Query) :=
  match notEqual? operator with
  | none => .ofResult (restrict queries field operator operand)
  | some token =>
    match operand.truth? with
    | some b => .ofResult (restrict queries field (.text "=") (.bool !b))
    | none => do
      Traced.note (.split field token)
      let below ← Traced.ofResult (restrict queries field (.text "<") operand)
      let above ← Traced.ofResult (restrict queries field (.text ">") operand)
      return below ++ above

end WhereClause

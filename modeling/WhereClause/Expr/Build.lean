import WhereClause.Expr.Construct
import WhereClause.Failure

/-! # Making nodes

`parse` reads the tree that a grammar gives. The other functions build nodes by hand.
-/

namespace WhereClause.Expr

/-- A node is returned as it is; a record is checked. -/
def parse : Datum → Except Failure Expr
  | .expr e => .ok e
  | .record entries =>
    match (Datum.record entries).node with
    | .ok e => .ok e
    | .faulty fs => .error (.rejected (.malformed fs))
    | .notKey c => .error (.notKey c)
  | d => .error (.notExpression d.kindName)

/-- The literal of a scalar. -/
def literal : Datum → Except Failure Expr
  | .null => .ok null
  | .bool b => .ok (bool b)
  | .number n => .ok (number n)
  | .text s => .ok (string s)
  | d => .error (.notLiteral d.kindName)

/-- A node stands for itself, and a scalar for its literal. -/
def operand : Datum → Except Failure Expr
  | .expr e => .ok e
  | d => literal d

def ofFields (form : Form) (entries : List (String × Datum)) : Except Failure Expr :=
  (construct form entries).orInvalid

def columnOf (name : Datum) : Except Failure Expr := ofFields .column [("column", name)]

def listOf (values : List Datum) : Except Failure Expr := do
  let nodes ← values.mapM operand
  ofFields .list [("value", .list (nodes.map .expr))]

/-- The right operand is made a node first; the left one is checked with the rest. -/
def binaryOf (operator left right : Datum) : Except Failure Expr := do
  let node ← operand right
  ofFields .binary [("operator", operator), ("left", left), ("right", .expr node)]

end WhereClause.Expr

import WhereClause.Expr.Basic

/-! # Nodes as records

A node is written as the record of its `type` and its fields.
-/

namespace WhereClause

/-- A text that may be absent. -/
def Datum.ofOption : Option String → Datum
  | some s => .text s
  | none => .null

mutual

/-- The `type` and the fields of a node, each with its name. -/
def Expr.entries : Expr → List (String × Datum)
  | .string s => [("type", .text "string"), ("value", .text s)]
  | .number n => [("type", .text "number"), ("value", .number n)]
  | .bool b => [("type", .text "bool"), ("value", .bool b)]
  | .null => [("type", .text "null"), ("value", .null)]
  | .column name table => [("type", .text "column_ref"), ("column", .text name), ("table", .ofOption table)]
  | .list items => [("type", .text "expr_list"), ("value", .list (recordAll items))]
  | .binary operator left right =>
    [("type", .text "binary_expr"), ("operator", .text operator), ("left", .record left.entries),
      ("right", .record right.entries)]
  | .unknown kind extra => ("type", .text kind) :: extra

def recordAll : List Expr → List Datum
  | [] => []
  | e :: es => .record e.entries :: recordAll es

end

def Expr.record (e : Expr) : Datum := .record e.entries

theorem recordAll_eq_map (es : List Expr) : recordAll es = es.map Expr.record := by
  induction es with
  | nil => rfl
  | cons e es ih => simp [recordAll, Expr.record, ih]

end WhereClause

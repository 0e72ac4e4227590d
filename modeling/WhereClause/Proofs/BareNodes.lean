import WhereClause.Proofs.NormalForm

/-! # What nodes of an unknown form keep

A node of an unknown form keeps all entries of its record. A plan looks at none of them but the `type`,
wherever the node stands in a clause.
-/

namespace WhereClause

mutual

/-- The node without the entries that the nodes of an unknown form in it keep. -/
def Expr.bare : Expr → Expr
  | .list items => .list (bareAll items)
  | .binary operator left right => .binary operator left.bare right.bare
  | .unknown kind _ => .unknown kind []
  | e => e

def bareAll : List Expr → List Expr
  | [] => []
  | e :: es => e.bare :: bareAll es

end

theorem bareAll_eq_map (es : List Expr) : bareAll es = es.map Expr.bare := by
  induction es with
  | nil => rfl
  | cons e es ih => rw [bareAll, ih, List.map_cons]

/-! ## Operands -/

namespace Expr

theorem form_bare (e : Expr) : e.bare.form = e.form := by cases e <;> rfl

theorem kind_bare (e : Expr) : e.bare.kind = e.kind := by cases e <;> rfl

theorem truth?_bare (e : Expr) : (Datum.expr e.bare).truth? = (Datum.expr e).truth? := by cases e <;> rfl

end Expr

mutual

theorem Expr.operandValue_bare : ∀ e : Expr, e.bare.operandValue = e.operandValue
  | .list items => by
    rw [Expr.bare, Expr.operandValue, Expr.operandValue, operandValues_bareAll items]
  | .string _ | .number _ | .bool _ | .null | .column .. | .binary .. | .unknown .. => rfl

theorem operandValues_bareAll : ∀ es : List Expr, operandValues (bareAll es) = operandValues es
  | [] => rfl
  | e :: es => by rw [bareAll, operandValues, operandValues, e.operandValue_bare, operandValues_bareAll es]

end

/-! ## Conditions and rules -/

section

variable (qs : List Query) (operator name : String) (e : Expr)

theorem restrict_bare (field token : Datum) :
    restrict qs field token (.expr e.bare) = restrict qs field token (.expr e) := by
  simp only [restrict, Datum.operandValue, e.operandValue_bare]

theorem constrain_bare (field token : Datum) :
    constrain qs field token (.expr e.bare) = constrain qs field token (.expr e) := by
  simp only [constrain, restrict_bare, e.truth?_bare]

theorem leftColumn_bare : leftColumn operator e.bare = leftColumn operator e := by cases e <;> rfl

theorem matchAny_bareAll (values : List Expr) :
    matchAny qs name (bareAll values) = matchAny qs name values := by
  induction values with
  | nil => rfl
  | cons value values ih => rw [bareAll, matchAny, matchAny, constrain_bare, ih]

theorem membership_bare : membership qs operator name e.bare = membership qs operator name e := by
  cases e with
  | list values =>
    rw [Expr.bare, membership, membership, matchAny_bareAll, bareAll_eq_map, List.length_map]
  | string | number | bool | null | column | binary | unknown => rfl

theorem patternMatch_bare : patternMatch qs name e.bare = patternMatch qs name e := by
  cases e <;> rfl

theorem closedRange_bare : closedRange qs name e.bare = closedRange qs name e := by
  cases e with
  | list values =>
    match values with
    | [low, high] =>
      change closedRange qs name (.list [low.bare, high.bare]) = _
      simp only [closedRange, constrain_bare]
    | [] | [_] | _ :: _ :: _ :: _ => rfl
  | string | number | bool | null | column | binary | unknown => rfl

theorem containment_bare : containment qs operator name e.bare = containment qs operator name e := by
  simp only [containment, e.kind_bare, constrain_bare]

theorem ColumnRule.plan_bare (rule : ColumnRule) (left right : Expr) :
    rule.plan qs operator left.bare right.bare = rule.plan qs operator left right := by
  unfold ColumnRule.plan
  rw [leftColumn_bare]
  congr 1
  funext field
  cases rule with
  | membership => exact membership_bare qs operator field right
  | pattern => exact patternMatch_bare qs field right
  | range => exact closedRange_bare qs field right
  | containment => exact containment_bare qs operator field right
  | comparison => exact constrain_bare qs right _ _

end

/-! ## Plans -/

theorem Expr.plan_bare (e : Expr) (qs : List Query) : e.bare.plan qs = e.plan qs := by
  induction e using ruleInduction generalizing qs with
  | conjunction left right ihl ihr => simp only [bare, plan_conjunction, ihl, ihr]
  | disjunction left right ihl ihr => simp only [bare, plan_disjunction_eq_bind, ihl, ihr]
  | column operator left right rule hrule =>
    rw [bare, plan_column _ _ _ hrule, plan_column _ _ _ hrule, ColumnRule.plan_bare]
  | single e he =>
    cases e with
    | binary => exact absurd rfl he
    | string | number | bool | null | column | list | unknown => rfl

theorem planNode_bare (warn : Bool) (qs : List Query) (e : Expr) :
    planNode warn qs e.bare = planNode warn qs e := by
  simp only [planNode, e.plan_bare, e.kind_bare]

end WhereClause

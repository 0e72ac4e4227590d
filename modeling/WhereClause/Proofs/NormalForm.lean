import WhereClause.Proofs.Condition

/-! # The disjunctive normal form of a clause

The alternatives of a node are read off the node alone. A plan that succeeds is the queries it
started from, spread over them.
-/

namespace WhereClause

/-! ## Alternatives of a node -/

/-- The range of the texts that start with `start`. -/
def startClause (name start : String) : Clause :=
  match Text.successor? start with
  | some bound => [⟨name, .atLeast, .text start⟩, ⟨name, .less, .text bound⟩]
  | none => [⟨name, .atLeast, .text start⟩]

/-- A pattern is a text, or a text with a wildcard after it. -/
def patternClause (name pattern : String) : Clause :=
  if pattern.toList.getLast? = some Pattern.wildcard then
    startClause name (String.ofList pattern.toList.dropLast)
  else [⟨name, .equal, .text pattern⟩]

/-- The alternatives of an operator between a column and an operand. -/
def columnClauses (name operator : String) (operand : Expr) : List Clause :=
  match operator, operand with
  | "IN", .list values => values.map fun v => [⟨name, .equal, v.value⟩]
  | "BETWEEN", .list [low, high] => [[⟨name, .atLeast, low.value⟩, ⟨name, .atMost, high.value⟩]]
  | "LIKE", .string pattern => [patternClause name pattern]
  | _, _ => comparisonClauses name operator operand

/-- The alternatives of a node, in the order in which they are planned. -/
def Expr.clauses : Expr → List Clause
  | .column name _ => [[⟨name, .equal, .bool true⟩]]
  | .binary operator left right =>
    if operator = "AND" then crossed left.clauses right.clauses
    else if operator = "OR" then left.clauses ++ right.clauses
    else match left with
      | .column name _ => columnClauses name operator right
      | _ => []
  | _ => []

/-! ## Flaws of a node -/

/-- The first fault of an operand under the rule of its operator. -/
def ColumnRule.flaw? (rule : ColumnRule) (operator : String) (operand : Expr) : Option Rejection :=
  match rule, operand with
  | membership, .list values => values.findSome? Expr.operandFlaw?
  | membership, _ => some (.rightNotList operator)
  | pattern, .string text =>
    match Pattern.ofString text with
    | .equals _ | .beginsWith _ => none
    | shape => some (.unsupportedPattern text shape)
  | pattern, operand => some (.likeNotText operand.kind)
  | range, .list [low, high] => low.operandFlaw?.or high.operandFlaw?
  | range, _ => some .betweenNotPair
  | containment, operand =>
    if (Form.ofTag operand.kind).isScalar then comparisonFlaw? operator operand
    else some (.containsNotScalar operand.kind)
  | comparison, operand => comparisonFlaw? operator operand

/-- The first fault of a node, from left to right. -/
def Expr.flaw? : Expr → Option Rejection
  | .column _ _ => none
  | .binary operator left right =>
    match Rule.ofOperator operator with
    | .conjunction | .disjunction => left.flaw?.or right.flaw?
    | .column rule =>
      match left with
      | .column _ _ => rule.flaw? operator right
      | _ => some (.leftNotColumn operator left.kind)
  | e => some (.unsupportedClause e.kind)

/-! ## Rules and their operators -/

theorem Rule.ofOperator_eq_conjunction_iff {operator : String} :
    Rule.ofOperator operator = .conjunction ↔ operator = "AND" := by
  unfold Rule.ofOperator
  split <;> simp_all

theorem Rule.ofOperator_eq_disjunction_iff {operator : String} :
    Rule.ofOperator operator = .disjunction ↔ operator = "OR" := by
  unfold Rule.ofOperator
  split <;> simp_all

theorem Rule.not_connective {operator : String} {rule : ColumnRule}
    (h : Rule.ofOperator operator = .column rule) : ¬ (operator = "AND" ∨ operator = "OR") := by
  rintro (rfl | rfl) <;> cases h

/-- The operators with a rule of their own. -/
def ColumnRule.operator? : ColumnRule → Option String
  | membership => some "IN"
  | pattern => some "LIKE"
  | range => some "BETWEEN"
  | containment => some "CONTAINS"
  | comparison => none

theorem ColumnRule.eq_of_ofOperator {operator own : String} {rule : ColumnRule}
    (h : Rule.ofOperator operator = .column rule) (ho : rule.operator? = some own) :
    operator = own := by
  unfold Rule.ofOperator at h
  split at h <;> cases h <;> simp_all [operator?]

theorem columnClauses_of_comparison {operator : String}
    (h : Rule.ofOperator operator = .column .comparison) (name : String) (operand : Expr) :
    columnClauses name operator operand = comparisonClauses name operator operand := by
  unfold columnClauses
  split <;> first | rfl | cases h

/-! ## How the rules end -/

theorem equal_outcome (qs : List Query) (name : String) (operand : Expr) :
    Outcome operand.operandFlaw? [[⟨name, .equal, operand.value⟩]] qs
      (constrain qs (.text name) (.text "=") (.expr operand)).result :=
  constrain_outcome_of_ofToken (by decide) rfl qs name operand

theorem findSome?_cons_eq_or (f : Expr → Option Rejection) (e : Expr) (es : List Expr) :
    (e :: es).findSome? f = (f e).or (es.findSome? f) := by
  rw [List.findSome?_cons]
  cases f e <;> rfl

theorem matchAny_outcome (qs : List Query) (name : String) (values : List Expr) :
    Outcome (values.findSome? Expr.operandFlaw?) (values.map fun v => [⟨name, .equal, v.value⟩]) qs
      (matchAny qs name values).result := by
  induction values with
  | nil => exact .planned rfl fun _ => rfl
  | cons v vs ih =>
    rw [findSome?_cons_eq_or, matchAny]
    simp only [Traced.result_bind, Traced.result_pure]
    exact (equal_outcome qs name v).both ih

theorem membership_outcome (qs : List Query) (name : String) (operand : Expr) :
    Outcome (ColumnRule.membership.flaw? "IN" operand) (columnClauses name "IN" operand) qs
      (membership qs "IN" name operand).result := by
  cases operand
  case list values =>
    have h := matchAny_outcome qs name values
    simp only [membership, Traced.result_bind, Traced.result_note, Traced.result_pure]
    cases hr : (matchAny qs name values).result <;> rw [hr] at h <;> exact h
  all_goals exact .rejected rfl

theorem startRange_outcome (qs : List Query) (name start : String) :
    Outcome none [startClause name start] qs (startRange qs name start).result := by
  have hlower : StoreOp.ofToken ">=" = .ok .atLeast := rfl
  have hupper : StoreOp.ofToken "<" = .ok .less := rfl
  have hl := constrain_outcome_of_ofToken (by decide) hlower qs name (.string start)
  rw [startRange, startClause, Traced.result_bind]
  cases Text.successor? start with
  | some bound =>
    exact hl.andThen fun lower =>
      constrain_outcome_of_ofToken (by decide) hupper lower name (.string bound)
  | none =>
    change Outcome _ _ _ ((constrain qs (.text name) (.text ">=") (.text start)).result >>= pure)
    rw [bind_pure]
    exact hl

theorem patternMatch_outcome (qs : List Query) (name : String) (operand : Expr) :
    Outcome (ColumnRule.pattern.flaw? "LIKE" operand) (columnClauses name "LIKE" operand) qs
      (patternMatch qs name operand).result := by
  cases operand
  case string text =>
    rw [ColumnRule.flaw?, columnClauses, patternClause, patternMatch, Pattern.ofString]
    by_cases hhead : text.toList.head? = some Pattern.wildcard
    · rw [if_pos hhead]
      by_cases hlast : text.toList.getLast? = some Pattern.wildcard
      · rw [if_pos hlast]; exact .rejected rfl
      · rw [if_neg hlast]; exact .rejected rfl
    · rw [if_neg hhead]
      by_cases hlast : text.toList.getLast? = some Pattern.wildcard
      · rw [if_pos hlast, if_pos hlast]
        exact startRange_outcome qs name _
      · rw [if_neg hlast, if_neg hlast]
        exact equal_outcome qs name (.string text)
  all_goals exact .rejected rfl

theorem closedRange_outcome (qs : List Query) (name : String) (operand : Expr) :
    Outcome (ColumnRule.range.flaw? "BETWEEN" operand) (columnClauses name "BETWEEN" operand) qs
      (closedRange qs name operand).result := by
  have hlower : StoreOp.ofToken ">=" = .ok .atLeast := rfl
  have hupper : StoreOp.ofToken "<=" = .ok .atMost := rfl
  match operand with
  | .list [low, high] =>
    rw [closedRange, Traced.result_bind]
    exact (constrain_outcome_of_ofToken (by decide) hlower qs name low).andThen fun lower =>
      constrain_outcome_of_ofToken (by decide) hupper lower name high
  | .list [] | .list [_] | .list (_ :: _ :: _ :: _) => exact .rejected rfl
  | .string _ | .number _ | .bool _ | .null | .column .. | .binary .. | .unknown .. =>
    exact .rejected rfl

theorem containment_outcome (qs : List Query) (name : String) (operand : Expr) :
    Outcome (ColumnRule.containment.flaw? "CONTAINS" operand) (columnClauses name "CONTAINS" operand)
      qs (containment qs "CONTAINS" name operand).result := by
  rw [ColumnRule.flaw?, containment]
  split
  · exact constrain_outcome qs name "CONTAINS" operand
  · exact .rejected rfl

theorem ColumnRule.plan_outcome {operator : String} {rule : ColumnRule}
    (h : Rule.ofOperator operator = .column rule) (qs : List Query) (name : String)
    (table : Option String) (operand : Expr) :
    Outcome (rule.flaw? operator operand) (columnClauses name operator operand) qs
      (rule.plan qs operator (.column name table) operand).result := by
  cases rule with
  | comparison =>
    rw [columnClauses_of_comparison h]
    exact constrain_outcome qs name operator operand
  | membership => rw [eq_of_ofOperator h rfl]; exact membership_outcome qs name operand
  | pattern => rw [eq_of_ofOperator h rfl]; exact patternMatch_outcome qs name operand
  | range => rw [eq_of_ofOperator h rfl]; exact closedRange_outcome qs name operand
  | containment => rw [eq_of_ofOperator h rfl]; exact containment_outcome qs name operand

/-! ## How a plan ends -/

namespace Expr

variable (left right : Expr) (qs : List Query)

theorem plan_conjunction :
    (binary "AND" left right).plan qs = left.plan qs >>= fun narrowed => right.plan narrowed := rfl

theorem plan_disjunction_eq_bind :
    (binary "OR" left right).plan qs = left.plan qs >>= fun ls => right.plan qs >>= fun rs =>
      Traced.note (.orFanOut ls.length rs.length) >>= fun _ => pure (ls ++ rs) := rfl

theorem plan_disjunction :
    ((binary "OR" left right).plan qs).result =
      (left.plan qs).result.bind fun ls => (right.plan qs).result.bind fun rs => .ok (ls ++ rs) := by
  rw [plan_disjunction_eq_bind]
  simp only [Traced.result_bind, Traced.result_note, Traced.result_pure]
  rfl

theorem plan_column {operator : String} {rule : ColumnRule}
    (h : Rule.ofOperator operator = .column rule) :
    (binary operator left right).plan qs = rule.plan qs operator left right := by
  rw [plan, h]

theorem clauses_conjunction :
    (binary "AND" left right).clauses = crossed left.clauses right.clauses := rfl

theorem clauses_disjunction : (binary "OR" left right).clauses = left.clauses ++ right.clauses := rfl

theorem clauses_column {operator : String} {rule : ColumnRule}
    (h : Rule.ofOperator operator = .column rule) (name : String) (table : Option String) :
    (binary operator (column name table) right).clauses = columnClauses name operator right := by
  obtain ⟨hand, hor⟩ := not_or.mp (Rule.not_connective h)
  rw [clauses, if_neg hand, if_neg hor]

theorem flaw?_conjunction : (binary "AND" left right).flaw? = left.flaw?.or right.flaw? := rfl

theorem flaw?_disjunction : (binary "OR" left right).flaw? = left.flaw?.or right.flaw? := rfl

theorem flaw?_column {operator : String} {rule : ColumnRule}
    (h : Rule.ofOperator operator = .column rule) (name : String) (table : Option String) :
    (binary operator (column name table) right).flaw? = rule.flaw? operator right := by
  rw [flaw?, h]

/-- An operator without a rule for nodes needs a column, and all other nodes stand by themselves. -/
@[elab_as_elim]
theorem ruleInduction {motive : Expr → Prop}
    (conjunction : ∀ left right, motive left → motive right → motive (binary "AND" left right))
    (disjunction : ∀ left right, motive left → motive right → motive (binary "OR" left right))
    (column : ∀ operator left right rule, Rule.ofOperator operator = .column rule →
      motive (binary operator left right))
    (single : ∀ e, e.form ≠ .binary → motive e) : ∀ e, motive e
  | binary operator left right => by
    have hl := ruleInduction conjunction disjunction column single left
    have hr := ruleInduction conjunction disjunction column single right
    cases hrule : Rule.ofOperator operator with
    | conjunction =>
      rw [Rule.ofOperator_eq_conjunction_iff.mp hrule]
      exact conjunction left right hl hr
    | disjunction =>
      rw [Rule.ofOperator_eq_disjunction_iff.mp hrule]
      exact disjunction left right hl hr
    | column rule => exact column operator left right rule hrule
  | .string _ | .number _ | .bool _ | .null | .column _ _ | .list _ | .unknown _ _ =>
    single _ (by simp [form])

theorem plan_outcome (e : Expr) (qs : List Query) : Outcome e.flaw? e.clauses qs (e.plan qs).result := by
  induction e using ruleInduction generalizing qs with
  | conjunction left right ihl ihr =>
    rw [plan_conjunction, flaw?_conjunction, clauses_conjunction, Traced.result_bind]
    exact (ihl qs).andThen ihr
  | disjunction left right ihl ihr =>
    rw [plan_disjunction, flaw?_disjunction, clauses_disjunction]
    exact (ihl qs).both (ihr qs)
  | column operator left right rule hrule =>
    rw [plan_column _ _ _ hrule]
    cases left
    case column name table =>
      rw [clauses_column _ hrule, flaw?_column _ hrule]
      exact rule.plan_outcome hrule qs name table right
    -- The column is looked for before the rule is.
    all_goals exact .rejected (by rw [flaw?, hrule])
  | single e he =>
    cases e
    case binary => exact absurd rfl he
    case column name table => exact equal_outcome qs name (.bool true)
    all_goals exact .rejected rfl

end Expr

/-! ## Whole plans -/

theorem planNode_result (warn : Bool) (qs : List Query) (e : Expr) :
    (planNode warn qs e).result = (e.plan qs).result := by
  unfold planNode
  simp only [Traced.result_bind, Traced.result_note]
  cases h : (e.plan qs).result with
  | error f => rfl
  | ok out => cases warn <;> rfl

theorem planDatum_expr_result (warn : Bool) (qs : List Query) (e : Expr) :
    (planDatum warn qs (.expr e)).result = (e.plan qs).result := planNode_result warn qs e

/-- A plan is its normal form put to the queries: the alternatives one after the other, and under each
of them the queries in their order. -/
theorem planned_eq_spread_clauses {warn : Bool} {qs out : List Query} {e : Expr}
    (h : (planDatum warn qs (.expr e)).result = .ok out) : out = spread e.clauses qs := by
  rw [planDatum_expr_result] at h
  have ho := e.plan_outcome qs
  rw [h] at ho
  exact ho.eq_spread

theorem planned_on_two_queries :
    let e : Expr := .binary "AND" (.binary "<>" (.column "a" none) (.number (.int 1)))
      (.binary "IN" (.column "c" none) (.list [.string "x", .string "y"]))
    let one : Datum := .number (.int 1)
    let out : List Query := ["x", "y"].flatMap fun c => ["<", ">"].flatMap fun op =>
      [.filtered none [⟨"a", op, one, none⟩, ⟨"c", "==", .text c, none⟩],
        .recorder "log" [(.text "a", .text op, one), (.text "c", .text "==", .text c)]]
    (planDatum true [.filtered none [], .recorder "log" []] (.expr e)).result = .ok out ∧
      out = spread e.clauses [.filtered none [], .recorder "log" []] := by
  intro e one out
  have h : (planDatum true [.filtered none [], .recorder "log" []] (.expr e)).result = .ok out := rfl
  exact ⟨h, planned_eq_spread_clauses h⟩

end WhereClause

import WhereClause.Proofs.Supported

/-! # Core forms

What a clause says can be said with AND, OR, comparisons and array tests. The core form of a node says
it so. Both have the same plan, and the same failure where there is none.
-/

namespace WhereClause

namespace Expr

/-! ## Rewriting -/

/-- The parts with OR between them, taken together from the left. -/
def anyOf (first : Expr) (others : List Expr) : Expr := others.foldl (binary "OR") first

def coreNotEqual (c : Expr) : Expr → Expr
  | bool b => binary "=" c (bool !b)
  | v => binary "OR" (binary "<" c v) (binary ">" c v)

/-- The texts that start with `start`. -/
def coreStart (c : Expr) (start : String) : Expr :=
  match Text.successor? start with
  | some bound => binary "AND" (binary ">=" c (string start)) (binary "<" c (string bound))
  | none => binary ">=" c (string start)

/-- A wildcard in front has no core form. -/
def corePattern (c : Expr) (pattern : String) : Expr :=
  if pattern.toList.head? = some Pattern.wildcard then binary "LIKE" c (string pattern)
  else if pattern.toList.getLast? = some Pattern.wildcard then
    coreStart c (String.ofList pattern.toList.dropLast)
  else binary "=" c (string pattern)

/-- An operator between a column and an operand. -/
def coreCondition (c : Expr) (operator : String) (operand : Expr) : Expr :=
  match operator, operand with
  | "IS", v => binary "=" c v
  | "!=", v | "<>", v => coreNotEqual c v
  | "IN", list (v :: vs) => anyOf (binary "=" c v) (vs.map (binary "=" c))
  | "BETWEEN", list [low, high] => binary "AND" (binary ">=" c low) (binary "<=" c high)
  | "LIKE", string pattern => corePattern c pattern
  | operator, v => binary operator c v

/-- Only what stands under AND and OR is rewritten, and operands stay as they are. -/
def core : Expr → Expr
  | column name table => binary "=" (column name table) (bool true)
  | binary operator left right =>
    if operator = "AND" ∨ operator = "OR" then binary operator left.core right.core
    else match left with
      | column name table => coreCondition (column name table) operator right
      | _ => binary operator left right
  | e => e

theorem core_conjunction (left right : Expr) :
    (binary "AND" left right).core = binary "AND" left.core right.core := rfl

theorem core_disjunction (left right : Expr) :
    (binary "OR" left right).core = binary "OR" left.core right.core := rfl

theorem core_column {operator : String} {rule : ColumnRule}
    (h : Rule.ofOperator operator = .column rule) (name : String) (table : Option String)
    (right : Expr) :
    (binary operator (column name table) right).core =
      coreCondition (column name table) operator right := by
  rw [core, if_neg (Rule.not_connective h)]

theorem core_of_left {operator : String} {rule : ColumnRule}
    (h : Rule.ofOperator operator = .column rule) {left : Expr} (hl : left.form ≠ .column)
    (right : Expr) : (binary operator left right).core = binary operator left right := by
  rw [core, if_neg (Rule.not_connective h)]
  intro name table he
  rw [he] at hl
  exact absurd rfl hl

/-! ## Plans of the core forms -/

/-- The queries of both, or the first failure. -/
def joined (x y : Except Failure (List Query)) : Except Failure (List Query) :=
  x.bind fun qs => y.bind fun rs => .ok (qs ++ rs)

theorem joined_nil (x : Except Failure (List Query)) : joined x (.ok []) = x := by
  cases x with
  | error f => rfl
  | ok qs => exact congrArg Except.ok (List.append_nil qs)

theorem joined_assoc (x y z : Except Failure (List Query)) :
    joined (joined x y) z = joined x (joined y z) := by
  cases x with
  | error f => rfl
  | ok ps =>
    cases y with
    | error f => rfl
    | ok qs =>
      cases z with
      | error f => rfl
      | ok rs => exact congrArg Except.ok (List.append_assoc ps qs rs)

variable (name : String) (table : Option String) (qs : List Query)

theorem plan_comparison {token : String} (h : Rule.ofOperator token = .column .comparison)
    (operand : Expr) :
    ((binary token (column name table) operand).plan qs).result =
      (constrain qs (.text name) (.text token) (.expr operand)).result := by
  rw [plan_column _ _ _ h]
  rfl

theorem plan_equal (operand : Expr) :
    ((binary "=" (column name table) operand).plan qs).result =
      (constrain qs (.text name) (.text "=") (.expr operand)).result :=
  plan_comparison name table qs rfl operand

theorem plan_both {low high : String} (hlow : Rule.ofOperator low = .column .comparison)
    (hhigh : Rule.ofOperator high = .column .comparison) (x y : Expr) :
    ((binary "AND" (binary low (column name table) x)
      (binary high (column name table) y)).plan qs).result =
      (constrain qs (.text name) (.text low) (.expr x)).result.bind fun narrowed =>
        (constrain narrowed (.text name) (.text high) (.expr y)).result := by
  rw [plan_conjunction, Traced.result_bind, plan_comparison name table qs hlow]
  simp only [plan_comparison name table _ hhigh]

theorem plan_coreRange (low high : Expr) :
    ((binary "AND" (binary ">=" (column name table) low)
      (binary "<=" (column name table) high)).plan qs).result =
      (closedRange qs name (list [low, high])).result := by
  rw [plan_both name table qs rfl rfl, closedRange, Traced.result_bind]

theorem plan_coreNotEqual {token : String} (h : token = "!=" ∨ token = "<>") (operand : Expr) :
    ((coreNotEqual (column name table) operand).plan qs).result =
      (constrain qs (.text name) (.text token) (.expr operand)).result := by
  rw [constrain, notEqual?_eq_some h]
  have hless : Rule.ofOperator "<" = .column .comparison := rfl
  have hgreater : Rule.ofOperator ">" = .column .comparison := rfl
  cases operand
  case bool b => exact plan_equal name table qs (bool !b)
  all_goals
    simp only [coreNotEqual, plan_disjunction, Datum.truth?, Traced.result_bind, Traced.result_note,
      Traced.result_ofResult, Traced.result_pure]
    rw [plan_comparison name table qs hless, plan_comparison name table qs hgreater]
    rfl

theorem matchAny_cons_result (v : Expr) (vs : List Expr) :
    (matchAny qs name (v :: vs)).result =
      joined (constrain qs (.text name) (.text "=") (.expr v)).result (matchAny qs name vs).result := by
  rw [matchAny]
  simp only [Traced.result_bind, Traced.result_pure]
  rfl

theorem plan_anyOf (first : Expr) (values : List Expr) :
    ((anyOf first (values.map (binary "=" (column name table)))).plan qs).result =
      joined (first.plan qs).result (matchAny qs name values).result := by
  induction values generalizing first with
  | nil => exact (joined_nil _).symm
  | cons v vs ih =>
    -- The chain is taken from the left, so its next part joins the first one.
    change ((anyOf (binary "OR" first (binary "=" (column name table) v))
      (vs.map (binary "=" (column name table)))).plan qs).result = _
    rw [ih, plan_disjunction, plan_equal, matchAny_cons_result]
    exact joined_assoc _ _ _

/-- A membership notes an event that its chain does not, so only their results agree. -/
theorem plan_coreMembership (v : Expr) (vs : List Expr) :
    ((anyOf (binary "=" (column name table) v)
      (vs.map (binary "=" (column name table)))).plan qs).result =
      (membership qs "IN" name (list (v :: vs))).result := by
  rw [plan_anyOf, plan_equal, ← matchAny_cons_result, membership]
  simp only [Traced.result_bind, Traced.result_note, Traced.result_pure]
  cases (matchAny qs name (v :: vs)).result <;> rfl

theorem plan_coreStart (start : String) :
    ((coreStart (column name table) start).plan qs).result = (startRange qs name start).result := by
  rw [coreStart, startRange, Traced.result_bind]
  cases Text.successor? start with
  | some bound => exact plan_both name table qs rfl rfl (string start) (string bound)
  | none =>
    have hlower : Rule.ofOperator ">=" = .column .comparison := rfl
    rw [plan_comparison name table qs hlower]
    exact (bind_pure _).symm

theorem plan_corePattern (pattern : String) :
    ((corePattern (column name table) pattern).plan qs).result =
      (patternMatch qs name (string pattern)).result := by
  by_cases hhead : pattern.toList.head? = some Pattern.wildcard
  · have hlike : Rule.ofOperator "LIKE" = .column .pattern := rfl
    rw [corePattern, if_pos hhead, plan_column _ _ _ hlike]
    rfl
  · rw [corePattern, patternMatch, Pattern.ofString, if_neg hhead, if_neg hhead]
    by_cases hlast : pattern.toList.getLast? = some Pattern.wildcard
    · rw [if_pos hlast, if_pos hlast]
      exact plan_coreStart name table qs _
    · rw [if_neg hlast, if_neg hlast]
      exact plan_equal name table qs (string pattern)

theorem plan_coreCondition {operator : String} {rule : ColumnRule}
    (h : Rule.ofOperator operator = .column rule) (operand : Expr) :
    ((coreCondition (column name table) operator operand).plan qs).result =
      (rule.plan qs operator (column name table) operand).result := by
  unfold coreCondition
  split
  · cases h
    exact plan_equal name table qs _
  · cases h
    exact plan_coreNotEqual name table qs (.inl rfl) _
  · cases h
    exact plan_coreNotEqual name table qs (.inr rfl) _
  · cases h
    exact plan_coreMembership name table qs _ _
  · cases h
    exact plan_coreRange name table qs _ _
  · cases h
    exact plan_corePattern name table qs _
  · rw [plan_column _ _ _ h]

theorem plan_core (e : Expr) (qs : List Query) : (e.core.plan qs).result = (e.plan qs).result := by
  -- For any queries at once, since the right side of AND is planned on those that the left side gives.
  induction e using ruleInduction generalizing qs with
  | conjunction left right ihl ihr =>
    rw [core_conjunction, plan_conjunction, plan_conjunction, Traced.result_bind, Traced.result_bind]
    rw [ihl qs]
    simp only [ihr]
  | disjunction left right ihl ihr =>
    rw [core_disjunction, plan_disjunction, plan_disjunction, ihl qs, ihr qs]
  | column operator left right rule hrule =>
    by_cases hl : left.form = .column
    · cases left <;> cases hl
      rw [core_column hrule, plan_column _ _ _ hrule]
      exact plan_coreCondition _ _ qs hrule right
    · rw [core_of_left hrule hl]
  | single e he =>
    cases e
    case binary => exact absurd rfl he
    case column name table => exact plan_equal name table qs (bool true)
    all_goals rfl

/-! ## What core forms are made of -/

def coreTokens : List String := ["=", "<", "<=", ">", ">=", "CONTAINS", "CONTAINS-ANY"]

/-- A membership in no values stays as it is. -/
inductive IsCore : Expr → Prop
  | conjunction {left right : Expr} (hl : left.IsCore) (hr : right.IsCore) :
    IsCore (binary "AND" left right)
  | disjunction {left right : Expr} (hl : left.IsCore) (hr : right.IsCore) :
    IsCore (binary "OR" left right)
  | condition {token : String} (ht : token ∈ coreTokens) (name : String) (table : Option String)
    (operand : Expr) : IsCore (binary token (column name table) operand)
  | nothing (name : String) (table : Option String) :
    IsCore (binary "IN" (column name table) (list []))

theorem isCore_equal (v : Expr) : (binary "=" (column name table) v).IsCore :=
  .condition (by decide) name table v

theorem isCore_anyOf {first : Expr} {others : List Expr} (hf : first.IsCore)
    (ho : ∀ e ∈ others, e.IsCore) : (anyOf first others).IsCore := by
  induction others generalizing first with
  | nil => exact hf
  | cons e es ih =>
    rw [List.forall_mem_cons] at ho
    exact ih (.disjunction hf ho.1) ho.2

theorem isCore_coreNotEqual (operand : Expr) :
    (coreNotEqual (column name table) operand).IsCore := by
  have hbelow : (binary "<" (column name table) operand).IsCore :=
    .condition (by decide) name table operand
  have habove : (binary ">" (column name table) operand).IsCore :=
    .condition (by decide) name table operand
  cases operand
  case bool b => exact isCore_equal name table (bool !b)
  all_goals exact .disjunction hbelow habove

theorem isCore_coreStart (start : String) : (coreStart (column name table) start).IsCore := by
  have hlower : (binary ">=" (column name table) (string start)).IsCore :=
    .condition (by decide) name table (string start)
  unfold coreStart
  cases Text.successor? start with
  | some bound => exact .conjunction hlower (.condition (by decide) name table (string bound))
  | none => exact hlower

theorem isCore_corePattern {pattern : String} (h : pattern.toList.head? ≠ some Pattern.wildcard) :
    (corePattern (column name table) pattern).IsCore := by
  rw [corePattern, if_neg h]
  split
  · exact isCore_coreStart name table _
  · exact isCore_equal name table (string pattern)

theorem isCore_coreComparison {token : String} (h : token ∈ comparisonTokens) (operand : Expr) :
    (coreCondition (column name table) token operand).IsCore := by
  simp only [comparisonTokens, List.mem_cons, List.not_mem_nil, or_false] at h
  rcases h with rfl | rfl | rfl | rfl | rfl | rfl | rfl | rfl | rfl
  case inr.inr.inr.inr.inr.inr.inl => exact isCore_coreNotEqual name table operand
  case inr.inr.inr.inr.inr.inr.inr.inl => exact isCore_coreNotEqual name table operand
  all_goals
    refine .condition ?_ name table operand
    decide

theorem isCore_coreMembership (values : List Expr) :
    (coreCondition (column name table) "IN" (list values)).IsCore := by
  cases values with
  | nil => exact .nothing name table
  | cons v vs =>
    refine isCore_anyOf (isCore_equal name table v) ?_
    intro e he
    obtain ⟨w, -, rfl⟩ := List.mem_map.mp he
    exact isCore_equal name table w

theorem isCore_core {e : Expr} (h : e.Supported) : e.core.IsCore := by
  induction h with
  | column name table => exact isCore_equal name table (.bool true)
  | conjunction _ _ ihl ihr => exact .conjunction ihl ihr
  | disjunction _ _ ihl ihr => exact .disjunction ihl ihr
  | comparison name table ht ho =>
    rw [core_column (ofOperator_of_mem ht)]
    exact isCore_coreComparison name table ht _
  | @containment operand name table ho => exact .condition (by decide) name table operand
  | membership name table hv => exact isCore_coreMembership name table _
  | @range low high name table hl hh =>
    have hlower : (binary ">=" (.column name table) low).IsCore :=
      .condition (by decide) name table low
    exact .conjunction hlower (.condition (by decide) name table high)
  | pattern name table ht => exact isCore_corePattern name table ht

end Expr

/-- A node and its core form are planned alike, whatever the queries are, and the core form of what
can be planned has no shorthands. -/
theorem planned_as_core (warn : Bool) (qs : List Query) (e : Expr) :
    (planDatum warn qs (.expr e.core)).result = (planDatum warn qs (.expr e)).result ∧
      (e.Supported → e.core.IsCore) := by
  rw [planDatum_expr_result, planDatum_expr_result]
  exact ⟨e.plan_core qs, Expr.isCore_core⟩

theorem planned_as_core_of_shorthands :
    let age : Expr := .column "age" none
    let name : Expr := .column "name" none
    let number (n : Int) : Expr := .number (.int n)
    -- `active AND (age IN (1, 2, 3) OR name LIKE "Jo%")`
    let e : Expr := .binary "AND" (.column "active" none)
      (.binary "OR" (.binary "IN" age (.list [number 1, number 2, number 3]))
        (.binary "LIKE" name (.string "Jo%")))
    let c : Expr := .binary "AND" (.binary "=" (.column "active" none) (.bool true))
      (.binary "OR"
        (.binary "OR" (.binary "OR" (.binary "=" age (number 1)) (.binary "=" age (number 2)))
          (.binary "=" age (number 3)))
        (.binary "AND" (.binary ">=" name (.string "Jo")) (.binary "<" name (.string "Jp"))))
    let seeds : List Query := [.filtered none [], .filtered (some "shops") []]
    e.Supported ∧ c.IsCore ∧
      ∃ out, (planDatum true seeds (.expr e)).result = .ok out ∧
        (planDatum true seeds (.expr c)).result = .ok out ∧ out.length = 8 := by
  intro age name number e c seeds
  have hs : e.Supported := by decide
  have hcore : e.core = c := rfl
  obtain ⟨hplan, himp⟩ := planned_as_core true seeds e
  rw [hcore] at hplan himp
  have hout : (planDatum true seeds (.expr e)).result = .ok (spread e.clauses seeds) := rfl
  exact ⟨hs, himp hs, _, hout, hplan.trans hout, rfl⟩

end WhereClause

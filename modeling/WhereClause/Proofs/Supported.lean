import WhereClause.Proofs.NormalForm

/-! # The clauses that are planned

A plan is made for exactly the supported nodes, whatever the queries are. Any other node is rejected
for the leftmost of its operands that is not supported.
-/

namespace WhereClause

/-- The operators that take any value. -/
def comparisonTokens : List String := ["=", "IS", "<", "<=", ">", ">=", "!=", "<>", "CONTAINS-ANY"]

inductive Expr.Supported : Expr → Prop
  | column (name : String) (table : Option String) : Supported (.column name table)
  | conjunction {left right : Expr} (hl : left.Supported) (hr : right.Supported) :
    Supported (.binary "AND" left right)
  | disjunction {left right : Expr} (hl : left.Supported) (hr : right.Supported) :
    Supported (.binary "OR" left right)
  | comparison {token : String} {operand : Expr} (name : String) (table : Option String)
    (ht : token ∈ comparisonTokens) (ho : operand.IsValue) :
    Supported (.binary token (.column name table) operand)
  | containment {operand : Expr} (name : String) (table : Option String)
    (ho : operand.form.isScalar = true) :
    Supported (.binary "CONTAINS" (.column name table) operand)
  | membership {values : List Expr} (name : String) (table : Option String)
    (hv : ∀ v ∈ values, v.IsValue) :
    Supported (.binary "IN" (.column name table) (.list values))
  | range {low high : Expr} (name : String) (table : Option String)
    (hl : low.IsValue) (hh : high.IsValue) :
    Supported (.binary "BETWEEN" (.column name table) (.list [low, high]))
  | pattern {text : String} (name : String) (table : Option String)
    (ht : text.toList.head? ≠ some Pattern.wildcard) :
    Supported (.binary "LIKE" (.column name table) (.string text))

/-! ## Operands without a flaw, rule by rule -/

namespace ColumnRule

theorem membership_flaw?_eq_none_iff {operator : String} {operand : Expr} :
    membership.flaw? operator operand = none ↔
      ∃ values, operand = .list values ∧ ∀ v ∈ values, v.IsValue := by
  cases operand
  case list values =>
    simp only [flaw?, List.findSome?_eq_none_iff, Expr.operandFlaw?_eq_none_iff]
    simp
  all_goals simp [flaw?]

theorem pattern_flaw?_eq_none_iff {operator : String} {operand : Expr} :
    pattern.flaw? operator operand = none ↔
      ∃ text, operand = .string text ∧ text.toList.head? ≠ some Pattern.wildcard := by
  cases operand
  case string text =>
    simp only [flaw?, Pattern.ofString, Expr.string.injEq, exists_eq_left']
    by_cases hhead : text.toList.head? = some Pattern.wildcard
    · rw [if_pos hhead]
      by_cases hlast : text.toList.getLast? = some Pattern.wildcard
      · rw [if_pos hlast]; simp [hhead]
      · rw [if_neg hlast]; simp [hhead]
    · rw [if_neg hhead]
      by_cases hlast : text.toList.getLast? = some Pattern.wildcard
      · rw [if_pos hlast]; simp [hhead]
      · rw [if_neg hlast]; simp [hhead]
  all_goals simp [flaw?]

theorem range_flaw?_eq_none_iff {operator : String} {operand : Expr} :
    range.flaw? operator operand = none ↔
      ∃ low high, operand = .list [low, high] ∧ low.IsValue ∧ high.IsValue := by
  match operand with
  | .list [low, high] =>
    rw [flaw?, Option.or_eq_none_iff, Expr.operandFlaw?_eq_none_iff, Expr.operandFlaw?_eq_none_iff]
    constructor
    · rintro ⟨hl, hh⟩
      exact ⟨low, high, rfl, hl, hh⟩
    · rintro ⟨l, h, he, hl, hh⟩
      cases he
      exact ⟨hl, hh⟩
  | .list [] | .list [_] | .list (_ :: _ :: _ :: _) => simp [flaw?]
  | .string _ | .number _ | .bool _ | .null | .column .. | .binary .. | .unknown .. => simp [flaw?]

end ColumnRule

theorem Expr.isValue_of_isScalar {e : Expr} (h : e.form.isScalar = true) : e.IsValue := by
  cases e with
  | string s => exact .string s
  | number n => exact .number n
  | bool b => exact .bool b
  | null => exact .null
  | column | list | binary | unknown => cases h

theorem Expr.isScalar_of_isValue {e : Expr} (hk : (Form.ofTag e.kind).isScalar = true)
    (hv : e.IsValue) : e.form.isScalar = true := by
  cases hv with
  | list h => cases hk
  | string | number | bool | null => rfl

theorem ColumnRule.containment_flaw?_eq_none_iff {operand : Expr} :
    containment.flaw? "CONTAINS" operand = none ↔ operand.form.isScalar = true := by
  rw [flaw?]
  constructor
  · intro h
    split at h
    · exact Expr.isScalar_of_isValue ‹_› (Expr.operandFlaw?_eq_none_iff.mp h)
    · cases h
  · intro h
    have hk : (Form.ofTag operand.kind).isScalar = true := by
      cases operand with
      | string | number | bool | null => rfl
      | column | list | binary | unknown => cases h
    rw [if_pos hk]
    exact Expr.operandFlaw?_eq_none_iff.mpr (Expr.isValue_of_isScalar h)

/-! ## Comparisons without a flaw -/

theorem ofToken_of_mem {token : String} (h : token ∈ comparisonTokens)
    (hne : ¬ (token = "!=" ∨ token = "<>")) : ∃ op, StoreOp.ofToken token = .ok op := by
  simp only [comparisonTokens, List.mem_cons, List.not_mem_nil, or_false] at h
  rcases h with rfl | rfl | rfl | rfl | rfl | rfl | rfl | rfl | rfl
  all_goals first | exact ⟨_, rfl⟩ | simp at hne

theorem mem_of_ofToken {token : String} {op : StoreOp} (h : StoreOp.ofToken token = .ok op)
    (hr : Rule.ofOperator token = .column .comparison) : token ∈ comparisonTokens := by
  have ho := StoreOp.ofToken?_of_ofToken h
  unfold StoreOp.ofToken? at ho
  split at ho <;> first | decide | exact absurd hr (by decide) | cases ho

theorem ofOperator_of_mem {token : String} (h : token ∈ comparisonTokens) :
    Rule.ofOperator token = .column .comparison := by
  simp only [comparisonTokens, List.mem_cons, List.not_mem_nil, or_false] at h
  rcases h with rfl | rfl | rfl | rfl | rfl | rfl | rfl | rfl | rfl <;> rfl

theorem comparisonFlaw?_eq_none_iff {token : String} {operand : Expr}
    (hr : Rule.ofOperator token = .column .comparison) :
    comparisonFlaw? token operand = none ↔ token ∈ comparisonTokens ∧ operand.IsValue := by
  rw [comparisonFlaw?]
  by_cases hne : token = "!=" ∨ token = "<>"
  · rw [if_pos hne, Expr.operandFlaw?_eq_none_iff]
    have ht : token ∈ comparisonTokens := by rcases hne with rfl | rfl <;> decide
    simp [ht]
  · rw [if_neg hne]
    cases ho : StoreOp.ofToken token with
    | ok op =>
      have ht := mem_of_ofToken ho hr
      simp [ht, Expr.operandFlaw?_eq_none_iff]
    | error cause =>
      simp only [reduceCtorEq, false_iff, not_and]
      intro ht
      obtain ⟨op, hok⟩ := ofToken_of_mem ht hne
      rw [hok] at ho
      cases ho

/-! ## Nodes without a flaw -/

theorem ColumnRule.supported_of_flaw? {operator : String} {rule : ColumnRule} {operand : Expr}
    (hr : Rule.ofOperator operator = .column rule) (h : rule.flaw? operator operand = none)
    (name : String) (table : Option String) :
    (Expr.binary operator (.column name table) operand).Supported := by
  cases rule with
  | comparison =>
    obtain ⟨ht, ho⟩ := (comparisonFlaw?_eq_none_iff hr).mp h
    exact .comparison name table ht ho
  | membership =>
    obtain ⟨values, rfl, hv⟩ := membership_flaw?_eq_none_iff.mp h
    rw [eq_of_ofOperator hr rfl]
    exact .membership name table hv
  | pattern =>
    obtain ⟨text, rfl, ht⟩ := pattern_flaw?_eq_none_iff.mp h
    rw [eq_of_ofOperator hr rfl]
    exact .pattern name table ht
  | range =>
    obtain ⟨low, high, rfl, hl, hh⟩ := range_flaw?_eq_none_iff.mp h
    rw [eq_of_ofOperator hr rfl]
    exact .range name table hl hh
  | containment =>
    rw [eq_of_ofOperator hr rfl] at h ⊢
    exact .containment name table (containment_flaw?_eq_none_iff.mp h)

namespace Expr

theorem Supported.flaw? {e : Expr} (h : e.Supported) : e.flaw? = none := by
  induction h with
  | column name table => rfl
  | conjunction _ _ ihl ihr => rw [flaw?_conjunction, ihl, ihr]; rfl
  | disjunction _ _ ihl ihr => rw [flaw?_disjunction, ihl, ihr]; rfl
  | comparison name table ht ho =>
    have hr := ofOperator_of_mem ht
    rw [flaw?_column _ hr]
    exact (comparisonFlaw?_eq_none_iff hr).mpr ⟨ht, ho⟩
  | containment name table ho =>
    have hr : Rule.ofOperator "CONTAINS" = .column .containment := rfl
    rw [flaw?_column _ hr]
    exact ColumnRule.containment_flaw?_eq_none_iff.mpr ho
  | membership name table hv =>
    have hr : Rule.ofOperator "IN" = .column .membership := rfl
    rw [flaw?_column _ hr]
    exact ColumnRule.membership_flaw?_eq_none_iff.mpr ⟨_, rfl, hv⟩
  | range name table hl hh =>
    have hr : Rule.ofOperator "BETWEEN" = .column .range := rfl
    rw [flaw?_column _ hr]
    exact ColumnRule.range_flaw?_eq_none_iff.mpr ⟨_, _, rfl, hl, hh⟩
  | pattern name table ht =>
    have hr : Rule.ofOperator "LIKE" = .column .pattern := rfl
    rw [flaw?_column _ hr]
    exact ColumnRule.pattern_flaw?_eq_none_iff.mpr ⟨_, rfl, ht⟩

theorem supported_of_flaw? (e : Expr) (h : e.flaw? = none) : e.Supported := by
  induction e using ruleInduction with
  | conjunction left right ihl ihr =>
    rw [flaw?_conjunction, Option.or_eq_none_iff] at h
    exact .conjunction (ihl h.1) (ihr h.2)
  | disjunction left right ihl ihr =>
    rw [flaw?_disjunction, Option.or_eq_none_iff] at h
    exact .disjunction (ihl h.1) (ihr h.2)
  | column operator left right rule hrule =>
    cases left
    case column name table =>
      rw [flaw?_column _ hrule] at h
      exact rule.supported_of_flaw? hrule h name table
    all_goals rw [Expr.flaw?, hrule] at h; cases h
  | single e he =>
    cases e
    case binary => exact absurd rfl he
    case column name table => exact .column name table
    all_goals cases h

theorem flaw?_eq_none_iff {e : Expr} : e.flaw? = none ↔ e.Supported :=
  ⟨e.supported_of_flaw?, Supported.flaw?⟩

theorem supported_conjunction_iff {left right : Expr} :
    (binary "AND" left right).Supported ↔ left.Supported ∧ right.Supported := by
  rw [← flaw?_eq_none_iff, flaw?_conjunction, Option.or_eq_none_iff]
  rw [flaw?_eq_none_iff, flaw?_eq_none_iff]

theorem supported_disjunction_iff {left right : Expr} :
    (binary "OR" left right).Supported ↔ left.Supported ∧ right.Supported := by
  rw [← flaw?_eq_none_iff, flaw?_disjunction, Option.or_eq_none_iff]
  rw [flaw?_eq_none_iff, flaw?_eq_none_iff]

instance (e : Expr) : Decidable e.Supported :=
  decidable_of_iff (e.flaw?.isNone = true) (Option.isNone_iff_eq_none.trans flaw?_eq_none_iff)

end Expr

/-! ## The leftmost flaw -/

/-- The parts of a node under its conjunctions and disjunctions, from left to right. -/
def Expr.operands : Expr → List Expr
  | .binary operator left right =>
    if operator = "AND" ∨ operator = "OR" then left.operands ++ right.operands
    else [.binary operator left right]
  | e => [e]

theorem Expr.operands_conjunction (left right : Expr) :
    (binary "AND" left right).operands = left.operands ++ right.operands := rfl

theorem Expr.operands_disjunction (left right : Expr) :
    (binary "OR" left right).operands = left.operands ++ right.operands := rfl

theorem Expr.operands_column {operator : String} {rule : ColumnRule} {left right : Expr}
    (h : Rule.ofOperator operator = .column rule) :
    (binary operator left right).operands = [binary operator left right] := by
  rw [operands, if_neg (Rule.not_connective h)]

theorem Expr.flaw?_eq_findSome? (e : Expr) : e.flaw? = e.operands.findSome? Expr.flaw? := by
  induction e using ruleInduction with
  | conjunction left right ihl ihr =>
    rw [flaw?_conjunction, operands_conjunction, List.findSome?_append, ← ihl, ← ihr]
  | disjunction left right ihl ihr =>
    rw [flaw?_disjunction, operands_disjunction, List.findSome?_append, ← ihl, ← ihr]
  | column operator left right rule hrule =>
    rw [operands_column hrule]
    simp
  | single e he =>
    cases e
    case binary => exact absurd rfl he
    all_goals rfl

theorem Expr.flaw?_of_not_supported {e : Expr} (h : ¬ e.Supported) : ∃ cause, e.flaw? = some cause := by
  cases hf : e.flaw? with
  | none => exact absurd (flaw?_eq_none_iff.mp hf) h
  | some cause => exact ⟨cause, rfl⟩

/-- The operand with the first flaw stands behind supported ones. -/
theorem Expr.operands_of_flaw? {e : Expr} {cause : Rejection} (h : e.flaw? = some cause) :
    ∃ before x after, e.operands = before ++ x :: after ∧ (∀ y ∈ before, y.Supported) ∧
      x.flaw? = some cause := by
  rw [e.flaw?_eq_findSome?, List.findSome?_eq_some_iff] at h
  obtain ⟨before, x, after, hsplit, hx, hbefore⟩ := h
  exact ⟨before, x, after, hsplit, fun y hy => flaw?_eq_none_iff.mp (hbefore y hy), hx⟩

/-! ## Plans of supported nodes and of others -/

theorem planDatum_ok_of_supported {e : Expr} (h : e.Supported) (warn : Bool) {qs : List Query}
    (hq : .sealed ∉ qs) : (planDatum warn qs (.expr e)).result = .ok (spread e.clauses qs) := by
  have ho := e.plan_outcome qs
  rw [h.flaw?] at ho
  rw [planDatum_expr_result, ho.ok_of_not_sealed hq]

theorem planDatum_rejected_of_flaw? {e : Expr} {cause : Rejection} (h : e.flaw? = some cause)
    (warn : Bool) {qs : List Query} (hq : .sealed ∉ qs) :
    (planDatum warn qs (.expr e)).result = .error (.rejected cause) := by
  have ho := e.plan_outcome qs
  rw [h] at ho
  rw [planDatum_expr_result, ho.rejected_of_not_sealed hq]

theorem planDatum_error_of_not_supported {e : Expr} (h : ¬ e.Supported) (warn : Bool)
    {qs : List Query} (hq : .sealed ∉ qs) : ∃ f, (planDatum warn qs (.expr e)).result = .error f := by
  obtain ⟨cause, hf⟩ := Expr.flaw?_of_not_supported h
  exact ⟨_, planDatum_rejected_of_flaw? hf warn hq⟩

theorem Rejection.clause_mem_lineage (cause : Rejection) :
    ErrorKind.clause ∈ cause.report.kind.lineage := by
  cases cause <;> simp [Rejection.report, Rejection.kind, ErrorKind.lineage]

/-- A plan succeeds for exactly the supported nodes. Otherwise the cause is that of the leftmost
operand that is not supported, and the queries have no part in it. -/
theorem plan_succeeds_iff_supported (e : Expr) :
    (∀ (warn : Bool) (qs : List Query), .sealed ∉ qs →
      ((∃ out, (planDatum warn qs (.expr e)).result = .ok out) ↔ e.Supported)) ∧
    (¬ e.Supported → ∃ before x after cause, e.operands = before ++ x :: after ∧
      (∀ y ∈ before, y.Supported) ∧ ¬ x.Supported ∧ ErrorKind.clause ∈ cause.report.kind.lineage ∧
      ∀ (warn : Bool) (qs : List Query), .sealed ∉ qs →
        (planDatum warn qs (.expr e)).result = .error (.rejected cause) ∧
        (planDatum warn qs (.expr x)).result = .error (.rejected cause)) := by
  constructor
  · intro warn qs hq
    constructor
    · rintro ⟨out, hout⟩
      cases hf : e.flaw? with
      | none => exact Expr.flaw?_eq_none_iff.mp hf
      | some cause =>
        rw [planDatum_rejected_of_flaw? hf warn hq] at hout
        cases hout
    · intro hs
      exact ⟨_, planDatum_ok_of_supported hs warn hq⟩
  · intro hns
    obtain ⟨cause, hf⟩ := Expr.flaw?_of_not_supported hns
    obtain ⟨before, x, after, hsplit, hbefore, hx⟩ := Expr.operands_of_flaw? hf
    refine ⟨before, x, after, cause, hsplit, hbefore, ?_, cause.clause_mem_lineage, ?_⟩
    · intro hxs
      rw [hxs.flaw?] at hx
      cases hx
    · intro warn qs hq
      exact ⟨planDatum_rejected_of_flaw? hf warn hq, planDatum_rejected_of_flaw? hx warn hq⟩

theorem plan_of_one_bound :
    let a : Expr := .binary "=" (.column "a" none) (.number (.int 1))
    let b : Expr := .binary "BETWEEN" (.column "b" none) (.list [.number (.int 2)])
    (¬ ∃ out, (planDatum true [] (.expr (.binary "AND" a b))).result = .ok out) ∧
      ∃ before x after cause, [a, b] = before ++ x :: after ∧ ¬ x.Supported ∧
        (planDatum true [] (.expr (.binary "AND" a b))).result = .error (.rejected cause) := by
  intro a b
  have hns : ¬ (Expr.binary "AND" a b).Supported := by decide
  constructor
  · rw [(plan_succeeds_iff_supported (.binary "AND" a b)).1 true [] List.not_mem_nil]
    exact hns
  · obtain ⟨before, x, after, cause, hsplit, -, hx, -, h⟩ := (plan_succeeds_iff_supported _).2 hns
    exact ⟨before, x, after, cause, hsplit, hx, (h true [] List.not_mem_nil).1⟩

end WhereClause

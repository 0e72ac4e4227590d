import WhereClause.Proofs.Supported

/-! # Plans that start from a sealed query

A sealed query takes no filter, so a plan that comes to it stops there. No plan leaves it out and goes on with
the others: it stops, or it is the empty list.
-/

namespace WhereClause

/-- The clause asks for nothing, because an empty list stands first wherever it would ask. -/
def Expr.Idle : Expr → Prop
  | .binary operator left right =>
    if operator = "AND" then left.Idle
    else if operator = "OR" then left.Idle ∧ right.Idle
    else operator = "IN" ∧ right = .list []
  | _ => False

theorem Expr.idle_conjunction (left right : Expr) : (binary "AND" left right).Idle ↔ left.Idle := Iff.rfl

theorem Expr.idle_disjunction (left right : Expr) :
    (binary "OR" left right).Idle ↔ left.Idle ∧ right.Idle := Iff.rfl

theorem Expr.idle_column {operator : String} {rule : ColumnRule} (h : Rule.ofOperator operator = .column rule)
    (left right : Expr) : (binary operator left right).Idle ↔ operator = "IN" ∧ right = .list [] := by
  obtain ⟨hand, hor⟩ := not_or.mp (Rule.not_connective h)
  rw [Idle, if_neg hand, if_neg hor]

/-! ## Where a plan is the empty list -/

namespace Expr

variable {e : Expr} {qs out : List Query}

theorem eq_nil_of_plan_sealed (hq : .sealed ∈ qs) (h : (e.plan qs).result = .ok out) :
    out = [] ∧ e.flaw? = none ∧ e.clauses = [] := by
  have ho := e.plan_outcome qs
  rw [h] at ho
  cases ho with
  | planned hf hs =>
    rw [hs hq]
    exact ⟨rfl, hf, rfl⟩

theorem Supported.plan_nil (h : e.Supported) : ∃ out, (e.plan []).result = .ok out := by
  have ho := e.plan_outcome []
  rw [h.flaw?] at ho
  exact ⟨_, ho.ok_of_not_sealed List.not_mem_nil⟩

theorem comparisonClauses_ne_nil {token : String} (h : token ∈ comparisonTokens) (name : String)
    (operand : Expr) : comparisonClauses name token operand ≠ [] := by
  unfold comparisonClauses
  by_cases hne : token = "!=" ∨ token = "<>"
  · rw [if_pos hne]
    cases operand <;> exact List.cons_ne_nil _ _
  · obtain ⟨op, ho⟩ := ofToken_of_mem h hne
    rw [if_neg hne, StoreOp.ofToken?_of_ofToken ho]
    exact List.cons_ne_nil _ _

theorem not_ok_iff_idle (hq : .sealed ∈ qs) (hc : e.clauses ≠ []) (hi : ¬ e.Idle) :
    (∃ out, (e.plan qs).result = .ok out) ↔ e.Idle := by
  refine iff_of_false ?_ hi
  rintro ⟨out, h⟩
  exact hc (eq_nil_of_plan_sealed hq h).2.2

/-- A supported clause gets past a sealed query only if it asks for nothing. -/
theorem Supported.plan_sealed_iff (h : e.Supported) (hq : .sealed ∈ qs) :
    (∃ out, (e.plan qs).result = .ok out) ↔ e.Idle := by
  induction h with
  | column name table => exact not_ok_iff_idle hq (List.cons_ne_nil _ _) not_false
  | @conjunction left right _ hr ihl _ =>
    rw [plan_conjunction, idle_conjunction, ← ihl]
    constructor
    · rintro ⟨out, hout⟩
      obtain ⟨narrowed, hl, -⟩ := Traced.bind_eq_ok hout
      exact ⟨narrowed, hl⟩
    · rintro ⟨narrowed, hl⟩
      -- The left side leaves no queries, so the right side meets no sealed one.
      obtain ⟨out, hout⟩ := hr.plan_nil
      rw [Traced.result_bind, hl, (eq_nil_of_plan_sealed hq hl).1]
      exact ⟨out, hout⟩
  | @disjunction left right _ _ ihl ihr =>
    rw [idle_disjunction, ← ihl, ← ihr]
    constructor
    · rintro ⟨out, hout⟩
      rw [plan_disjunction_eq_bind] at hout
      obtain ⟨ls, hl, hout, -⟩ := Traced.bind_eq_ok hout
      obtain ⟨rs, hr, -⟩ := Traced.bind_eq_ok hout
      exact ⟨⟨ls, hl⟩, rs, hr⟩
    · rintro ⟨⟨ls, hl⟩, rs, hr⟩
      rw [plan_disjunction, hl, hr]
      exact ⟨ls ++ rs, rfl⟩
  | @comparison token operand name table ht ho =>
    have hrule := ofOperator_of_mem ht
    apply not_ok_iff_idle hq
    · rw [clauses_column _ hrule, columnClauses_of_comparison hrule]
      exact comparisonClauses_ne_nil ht name operand
    · rw [idle_column hrule]
      rintro ⟨rfl, -⟩
      exact absurd ht (by decide)
  | @membership values name table hv =>
    cases values with
    | nil => exact iff_of_true ⟨[], rfl⟩ ⟨rfl, rfl⟩
    | cons v vs =>
      refine not_ok_iff_idle hq (List.cons_ne_nil _ _) ?_
      rintro ⟨-, h⟩
      cases h
  | containment | range | pattern =>
    refine not_ok_iff_idle hq (List.cons_ne_nil _ _) ?_
    rintro ⟨h, -⟩
    exact absurd h (by decide)

theorem plan_sealed_eq_nil_iff (hq : .sealed ∈ qs) : (e.plan qs).result = .ok [] ↔ e.Supported ∧ e.Idle := by
  constructor
  · intro h
    have hs := flaw?_eq_none_iff.mp (eq_nil_of_plan_sealed hq h).2.1
    exact ⟨hs, (hs.plan_sealed_iff hq).mp ⟨[], h⟩⟩
  · rintro ⟨hs, hi⟩
    obtain ⟨out, h⟩ := (hs.plan_sealed_iff hq).mpr hi
    rw [h, (eq_nil_of_plan_sealed hq h).1]

end Expr

/-! ## The other queries have no part -/

section

variable {qs rs : List Query} (hq : .sealed ∈ qs) (hr : .sealed ∈ rs)

include hq hr

theorem restrict_sealed (name : String) (operator operand : Datum) :
    restrict qs (.text name) operator operand = restrict rs (.text name) operator operand := by
  unfold restrict
  cases StoreOp.ofDatum operator with
  | error f => rfl
  | ok op =>
    cases operand.operandValue with
    | error cause => rfl
    | ok value =>
      have hs := refineAll_of_sealed hq ⟨name, op, value⟩
      exact hs.trans (refineAll_of_sealed hr ⟨name, op, value⟩).symm

theorem constrain_sealed (name : String) (operator operand : Datum) :
    constrain qs (.text name) operator operand = constrain rs (.text name) operator operand := by
  unfold constrain
  simp only [restrict_sealed hq hr]

theorem matchAny_sealed (name : String) (values : List Expr) :
    matchAny qs name values = matchAny rs name values := by
  induction values with
  | nil => rfl
  | cons v vs ih => rw [matchAny, matchAny, constrain_sealed hq hr, ih]

theorem membership_sealed (operator name : String) (operand : Expr) :
    membership qs operator name operand = membership rs operator name operand := by
  unfold membership
  simp only [matchAny_sealed hq hr]

theorem patternMatch_sealed (name : String) (operand : Expr) :
    patternMatch qs name operand = patternMatch rs name operand := by
  unfold patternMatch startRange
  simp only [constrain_sealed hq hr]

theorem closedRange_sealed (name : String) (operand : Expr) :
    closedRange qs name operand = closedRange rs name operand := by
  unfold closedRange
  simp only [constrain_sealed hq hr]

theorem containment_sealed (operator name : String) (operand : Expr) :
    containment qs operator name operand = containment rs operator name operand := by
  unfold containment
  simp only [constrain_sealed hq hr]

theorem ColumnRule.plan_sealed (rule : ColumnRule) (operator : String) (left right : Expr) :
    rule.plan qs operator left right = rule.plan rs operator left right := by
  unfold plan
  congr 1
  funext field
  cases rule with
  | membership => exact membership_sealed hq hr operator field right
  | pattern => exact patternMatch_sealed hq hr field right
  | range => exact closedRange_sealed hq hr field right
  | containment => exact containment_sealed hq hr operator field right
  | comparison => exact constrain_sealed hq hr field _ _

theorem Expr.plan_sealed (e : Expr) : e.plan qs = e.plan rs := by
  induction e using ruleInduction with
  -- What the left side gives is the same already, and the right side starts from that.
  | conjunction left right ihl _ => rw [plan_conjunction, plan_conjunction, ihl]
  | disjunction left right ihl ihr => rw [plan_disjunction_eq_bind, plan_disjunction_eq_bind, ihl, ihr]
  | column operator left right rule hrule =>
    rw [plan_column _ _ _ hrule, plan_column _ _ _ hrule]
    exact rule.plan_sealed hq hr operator left right
  | single e he =>
    cases e
    case binary => exact absurd rfl he
    case column name table => exact constrain_sealed hq hr name _ _
    all_goals rfl

end

/-- With a sealed query among the queries a plan stops, or is the empty list, which it is exactly if the
clause is supported and asks for nothing. Where it stops and not at the sealed query, it is rejected as it
is without one. The other queries have no part in any of this. -/
theorem nothing_planned_beside_sealed {qs : List Query} (hq : .sealed ∈ qs) (warn : Bool) (e : Expr) :
    ((∃ f, (planDatum warn qs (.expr e)).result = .error f) ∨
      (planDatum warn qs (.expr e)).result = .ok []) ∧
    ((planDatum warn qs (.expr e)).result = .ok [] ↔ e.Supported ∧ e.Idle) ∧
    (∀ f, (planDatum warn qs (.expr e)).result = .error f → f ≠ .sealed →
      ∃ cause, f = .rejected cause ∧ ErrorKind.clause ∈ cause.report.kind.lineage ∧
        ∀ (other : Bool) (rs : List Query), .sealed ∉ rs →
          (planDatum other rs (.expr e)).result = .error (.rejected cause)) ∧
    ∀ rs : List Query, .sealed ∈ rs → planDatum warn rs (.expr e) = planDatum warn qs (.expr e) := by
  rw [planDatum_expr_result]
  refine ⟨?_, Expr.plan_sealed_eq_nil_iff hq, ?_, ?_⟩
  · cases h : (e.plan qs).result with
    | error f => exact .inl ⟨f, rfl⟩
    | ok out => exact .inr (congrArg Except.ok (Expr.eq_nil_of_plan_sealed hq h).1)
  · intro f hf hne
    have ho := e.plan_outcome qs
    rw [hf] at ho
    cases ho with
    | @rejected cause hflaw =>
      exact ⟨cause, rfl, cause.clause_mem_lineage, fun other rs => planDatum_rejected_of_flaw? hflaw other⟩
    | sealed _ => exact absurd rfl hne
  · intro rs hr
    change planNode warn rs e = planNode warn qs e
    rw [planNode, planNode, e.plan_sealed hr hq]

/-- `a IN () AND b LIKE "%x"` is rejected for its pattern, as it is without the sealed query. With
`b LIKE "x%"` it is planned, as the empty list. -/
theorem nothing_planned_beside_sealed_for_no_members :
    let clause (pattern : String) : Expr := .binary "AND" (.binary "IN" (.column "a" none) (.list []))
      (.binary "LIKE" (.column "b" none) (.string pattern))
    let qs : List Query := [.filtered none [], .sealed]
    .sealed ∈ qs ∧ (planDatum true qs (.expr (clause "x%"))).result = .ok [] ∧
      ∃ cause, (planDatum true qs (.expr (clause "%x"))).result = .error (.rejected cause) ∧
        (planDatum true [.filtered none []] (.expr (clause "%x"))).result = .error (.rejected cause) := by
  intro clause qs
  have hq : Query.sealed ∈ qs := by simp [qs]
  have hs : (clause "x%").Supported := by decide
  have hi : (clause "x%").Idle := ⟨rfl, rfl⟩
  obtain ⟨-, hnil, -⟩ := nothing_planned_beside_sealed hq true (clause "x%")
  have hrejected : (planDatum true qs (.expr (clause "%x"))).result =
      .error (.rejected (.unsupportedPattern "%x" (.endsWith "x"))) := rfl
  obtain ⟨cause, hf, -, hsame⟩ := (nothing_planned_beside_sealed hq true (clause "%x")).2.2.1 _ hrejected nofun
  exact ⟨hq, hnil.mpr ⟨hs, hi⟩, cause, by rw [hrejected, hf], hsame true _ (by simp)⟩

end WhereClause

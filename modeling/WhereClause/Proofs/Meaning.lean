import WhereClause.Proofs.Store
import WhereClause.Proofs.Supported

/-! # What a clause means

A node is satisfied by documents. The queries of its plan are answered with exactly the documents
that the queries at the start are answered with and that satisfy the node.
-/

namespace WhereClause

/-- A text matches a pattern if it is the pattern, or starts with what stands before its wildcard. -/
def Likes (pattern s : String) : Prop :=
  if pattern.toList.getLast? = some Pattern.wildcard then pattern.toList.dropLast <+: s.toList
  else s = pattern

namespace TypedStore

variable {V : Type} (store : TypedStore V)

/-- What an operator between a column and an operand asks of the value of the column. -/
def Meets (token : String) (operand : Expr) (v : V) : Prop :=
  match token, operand with
  | "=", x | "IS", x => store.equal v x.value
  | "!=", x | "<>", x => store.less v x.value ∨ store.greater v x.value
  | "<", x => store.less v x.value
  | "<=", x => store.less v x.value ∨ store.equal v x.value
  | ">", x => store.greater v x.value
  | ">=", x => store.greater v x.value ∨ store.equal v x.value
  | "IN", .list xs => ∃ x ∈ xs, store.equal v x.value
  | "BETWEEN", .list [low, high] =>
    (store.greater v low.value ∨ store.equal v low.value) ∧
      (store.less v high.value ∨ store.equal v high.value)
  | "LIKE", .string pattern => ∃ s, store.text? v = some s ∧ Likes pattern s
  | "CONTAINS", x => store.special "array-contains" v x.value
  | "CONTAINS-ANY", x => store.special "array-contains-any" v x.value
  | _, _ => False

/-- Whether a document satisfies a node. A column by itself asks for the truth value. -/
def Satisfies (doc : Document V) : Expr → Prop
  | .column name _ => ∃ v, doc.value? name = some v ∧ store.truth? v = some true
  | .binary operator left right =>
    if operator = "AND" then Satisfies doc left ∧ Satisfies doc right
    else if operator = "OR" then Satisfies doc left ∨ Satisfies doc right
    else match left with
      | .column name _ => ∃ v, doc.value? name = some v ∧ store.Meets operator right v
      | _ => False
  | _ => False

end TypedStore

/-! ## Alternatives of one column -/

theorem onField_startClause (name start : String) : OnField name (startClause name start) := by
  unfold startClause
  split <;> simp [OnField]

theorem onField_patternClause (name pattern : String) : OnField name (patternClause name pattern) := by
  unfold patternClause
  split
  · exact onField_startClause name _
  · simp [OnField]

theorem onField_comparisonClauses (name token : String) (operand : Expr) :
    ∀ clause ∈ comparisonClauses name token operand, OnField name clause := by
  unfold comparisonClauses
  split
  · split <;> simp [OnField]
  · split <;> simp [OnField]

theorem onField_columnClauses (name operator : String) (operand : Expr) :
    ∀ clause ∈ columnClauses name operator operand, OnField name clause := by
  unfold columnClauses
  split
  · simp [OnField]
  · simp [OnField]
  · simp [onField_patternClause]
  · exact onField_comparisonClauses name operator operand

namespace TypedStore

variable {V : Type} {store : TypedStore V}

theorem exists_accepts_one (v : V) (c : Condition) :
    (∃ clause ∈ [[c]], store.accepts v clause) ↔ store.test c.op.text v c.value := by
  simp [Store.accepts]

theorem exists_accepts_notEqual (name : String) (operand : Expr) (v : V) :
    (∃ clause ∈ comparisonClauses name "!=" operand, store.accepts v clause) ↔
      store.less v operand.value ∨ store.greater v operand.value := by
  cases operand
  case bool b =>
    exact (exists_accepts_one v ⟨name, .equal, .bool !b⟩).trans (store.equal_bool_not v b)
  -- Any other operand leaves the two halves.
  all_goals
    simp [comparisonClauses, Store.accepts, Store.test, StoreOp.text]

theorem accepts_startClause (name start : String) (v : V) :
    store.accepts v (startClause name start) ↔
      ∃ s, store.text? v = some s ∧ start.toList <+: s.toList := by
  unfold startClause
  cases h : Text.successor? start with
  | some bound =>
    rw [Store.accepts_cons, Store.accepts_cons]
    change (store.greater v (.text start) ∨ store.equal v (.text start)) ∧
      store.less v (.text bound) ∧ _ ↔ _
    rw [atLeast_text, less_text]
    constructor
    · rintro ⟨⟨s, hs, hl⟩, ⟨t, ht, hu⟩, -⟩
      rw [hs] at ht
      cases ht
      exact ⟨s, hs, (Text.prefix_iff_le_lt_successor h s).mpr ⟨hl, hu⟩⟩
    · rintro ⟨s, hs, hp⟩
      obtain ⟨hl, hu⟩ := (Text.prefix_iff_le_lt_successor h s).mp hp
      exact ⟨⟨s, hs, hl⟩, ⟨s, hs, hu⟩, Store.accepts_nil v⟩
  | none =>
    rw [Store.accepts_cons]
    change (store.greater v (.text start) ∨ store.equal v (.text start)) ∧ _ ↔ _
    rw [atLeast_text]
    simp only [Text.prefix_iff_le_of_no_successor h]
    exact and_iff_left (Store.accepts_nil v)

theorem accepts_patternClause (name pattern : String) (v : V) :
    store.accepts v (patternClause name pattern) ↔
      ∃ s, store.text? v = some s ∧ Likes pattern s := by
  unfold patternClause Likes
  by_cases hlast : pattern.toList.getLast? = some Pattern.wildcard
  · rw [if_pos hlast, accepts_startClause]
    simp only [if_pos hlast, String.toList_ofList]
  · rw [if_neg hlast, Store.accepts_cons]
    change store.equal v (.text pattern) ∧ _ ↔ _
    rw [equal_text]
    simp only [if_neg hlast, exists_eq_right]
    exact and_iff_left (Store.accepts_nil v)

theorem exists_accepts_comparison {token : String} (ht : token ∈ comparisonTokens) (name : String)
    (operand : Expr) (v : V) :
    (∃ clause ∈ columnClauses name token operand, store.accepts v clause) ↔
      store.Meets token operand v := by
  simp only [comparisonTokens, List.mem_cons, List.not_mem_nil, or_false] at ht
  rcases ht with rfl | rfl | rfl | rfl | rfl | rfl | rfl | rfl | rfl
  case inr.inr.inr.inr.inr.inr.inl => exact exists_accepts_notEqual name operand v
  case inr.inr.inr.inr.inr.inr.inr.inl => exact exists_accepts_notEqual name operand v
  all_goals exact exists_accepts_one v _

theorem exists_accepts_membership (name : String) (values : List Expr) (v : V) :
    (∃ clause ∈ columnClauses name "IN" (.list values), store.accepts v clause) ↔
      ∃ x ∈ values, store.equal v x.value := by
  simp only [columnClauses, List.mem_map]
  constructor
  · rintro ⟨_, ⟨x, hx, rfl⟩, ha⟩
    exact ⟨x, hx, ((Store.accepts_cons v _ _).mp ha).1⟩
  · rintro ⟨x, hx, he⟩
    exact ⟨_, ⟨x, hx, rfl⟩, (Store.accepts_cons v _ _).mpr ⟨he, Store.accepts_nil v⟩⟩

theorem exists_accepts_range (name : String) (low high : Expr) (v : V) :
    (∃ clause ∈ columnClauses name "BETWEEN" (.list [low, high]), store.accepts v clause) ↔
      (store.greater v low.value ∨ store.equal v low.value) ∧
        (store.less v high.value ∨ store.equal v high.value) := by
  simp [columnClauses, Store.accepts, Store.test, StoreOp.text]

theorem exists_accepts_pattern (name pattern : String) (v : V) :
    (∃ clause ∈ columnClauses name "LIKE" (.string pattern), store.accepts v clause) ↔
      ∃ s, store.text? v = some s ∧ Likes pattern s := by
  simp [columnClauses, accepts_patternClause]

/-! ## All nodes -/

theorem exists_grants_iff_satisfies_column {token : String} {rule : ColumnRule}
    (hr : Rule.ofOperator token = .column rule) {name : String} {operand : Expr}
    (hm : ∀ v, (∃ clause ∈ columnClauses name token operand, store.accepts v clause) ↔
      store.Meets token operand v) (table : Option String) (doc : Document V) :
    (∃ clause ∈ (Expr.binary token (.column name table) operand).clauses, store.grants doc clause) ↔
      store.Satisfies doc (.binary token (.column name table) operand) := by
  obtain ⟨hand, hor⟩ := not_or.mp (Rule.not_connective hr)
  rw [Expr.clauses_column _ hr, Store.exists_grants_of_onField (onField_columnClauses name token operand)]
  rw [Satisfies, if_neg hand, if_neg hor]
  simp only [hm]

theorem exists_grants_column (name : String) (table : Option String) (doc : Document V) :
    (∃ clause ∈ (Expr.column name table).clauses, store.grants doc clause) ↔
      store.Satisfies doc (.column name table) := by
  have hfield : ∀ clause ∈ (Expr.column name table).clauses, OnField name clause := by
    simp [Expr.clauses, OnField]
  rw [Store.exists_grants_of_onField hfield, Expr.clauses, Satisfies]
  refine exists_congr fun v => and_congr_right fun _ => ?_
  rw [exists_accepts_one]
  exact store.equal_bool v true

theorem exists_grants_iff_satisfies {e : Expr} (h : e.Supported) (doc : Document V) :
    (∃ clause ∈ e.clauses, store.grants doc clause) ↔ store.Satisfies doc e := by
  induction h with
  | column name table => exact exists_grants_column name table doc
  | conjunction _ _ ihl ihr =>
    rw [Expr.clauses_conjunction, Store.exists_grants_crossed, ihl, ihr]
    rfl
  | disjunction _ _ ihl ihr =>
    rw [Expr.clauses_disjunction]
    simp only [List.mem_append, or_and_right, exists_or, ihl, ihr]
    rfl
  | comparison name table ht ho =>
    exact exists_grants_iff_satisfies_column (ofOperator_of_mem ht)
      (exists_accepts_comparison ht name _) table doc
  | containment name table ho =>
    have hr : Rule.ofOperator "CONTAINS" = .column .containment := rfl
    exact exists_grants_iff_satisfies_column hr (fun v => exists_accepts_one v _) table doc
  | membership name table hv =>
    have hr : Rule.ofOperator "IN" = .column .membership := rfl
    exact exists_grants_iff_satisfies_column hr (exists_accepts_membership name _) table doc
  | range name table hl hh =>
    have hr : Rule.ofOperator "BETWEEN" = .column .range := rfl
    exact exists_grants_iff_satisfies_column hr (exists_accepts_range name _ _) table doc
  | pattern name table ht =>
    have hr : Rule.ofOperator "LIKE" = .column .pattern := rfl
    exact exists_grants_iff_satisfies_column hr (exists_accepts_pattern name _) table doc

/-- A plan is answered with what its queries were answered with before, as far as it satisfies the
node. -/
theorem answered_iff_satisfies (store : TypedStore V) (doc : Document V) {warn : Bool}
    {qs out : List Query} {e : Expr} (h : (planDatum warn qs (.expr e)).result = .ok out) :
    (∃ q ∈ out, store.answers doc q) ↔ (∃ q ∈ qs, store.answers doc q) ∧ store.Satisfies doc e := by
  rw [planDatum_expr_result] at h
  have ho := e.plan_outcome qs
  rw [h] at ho
  cases ho with
  | planned hf _ =>
    rw [Store.exists_answers_spread]
    rw [exists_grants_iff_satisfies (Expr.flaw?_eq_none_iff.mp hf)]

/-- A document with three fields. -/
def ada : Document Datum where
  value? name :=
    [("name", .text "Ada"), ("age", .number (.int 36)), ("active", .bool true)].lookup name

/-- `name LIKE "Ad%" AND (active <> false AND age IN (35, 36))`. -/
def adaClause : Expr :=
  .binary "AND" (.binary "LIKE" (.column "name" none) (.string "Ad%"))
    (.binary "AND" (.binary "<>" (.column "active" none) (.bool false))
      (.binary "IN" (.column "age" none) (.list [.number (.int 35), .number (.int 36)])))

/-- The queries that are made of it. -/
def adaQueries : List Query :=
  [35, 36].map fun age => .filtered none
    [⟨"name", ">=", .text "Ad", none⟩, ⟨"name", "<", .text "Ae", none⟩,
      ⟨"active", "==", .bool true, none⟩, ⟨"age", "==", .number (.int age), none⟩]

theorem ada_answered :
    (planDatum false [.filtered none []] (.expr adaClause)).result = .ok adaQueries ∧
      ∃ q ∈ adaQueries, dataStore.answers ada q := by
  have hplan : (planDatum false [.filtered none []] (.expr adaClause)).result = .ok adaQueries := rfl
  refine ⟨hplan, (answered_iff_satisfies dataStore ada hplan).mpr ⟨?_, ?_⟩⟩
  · exact ⟨_, List.mem_singleton_self _, fun _ h => absurd h List.not_mem_nil⟩
  · have hname : Likes "Ad%" "Ada" := by unfold Likes; decide
    refine ⟨⟨_, rfl, "Ada", rfl, hname⟩, ⟨_, rfl, .inr ?_⟩, ⟨_, rfl, .number (.int 36), ?_, ?_⟩⟩
    · rfl
    · simp
    · exact congrArg some Std.ReflCmp.compare_self

end TypedStore

end WhereClause

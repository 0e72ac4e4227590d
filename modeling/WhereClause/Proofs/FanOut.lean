import WhereClause.Proofs.History
import WhereClause.Proofs.Supported

/-! # How far a clause fans out

The width of a node is the number of queries that its plan makes of each one. A plan that succeeds has
told this number at every step that makes more queries of one, and none other.
-/

namespace WhereClause

/-! ## Widths -/

/-- Not-equal takes two queries, but only one on a truth value. -/
def comparisonWidth (token : String) (operand : Expr) : Nat :=
  if token = "!=" ∨ token = "<>" then
    match operand with
    | .bool _ => 1
    | _ => 2
  else 1

def columnWidth (operator : String) (operand : Expr) : Nat :=
  match operator, operand with
  | "IN", .list values => values.length
  | _, _ => comparisonWidth operator operand

def Expr.width : Expr → Nat
  | .binary operator left right =>
    if operator = "AND" then left.width * right.width
    else if operator = "OR" then left.width + right.width
    else columnWidth operator right
  | _ => 1

theorem columnWidth_of_comparison {operator : String}
    (h : Rule.ofOperator operator = .column .comparison) (operand : Expr) :
    columnWidth operator operand = comparisonWidth operator operand := by
  unfold columnWidth
  split <;> first | rfl | cases h

theorem Expr.width_column {operator : String} {rule : ColumnRule} {left right : Expr}
    (h : Rule.ofOperator operator = .column rule) :
    (binary operator left right).width = columnWidth operator right := by
  obtain ⟨hand, hor⟩ := not_or.mp (Rule.not_connective h)
  rw [width, if_neg hand, if_neg hor]

theorem length_crossed (ls rs : List Clause) : (crossed ls rs).length = ls.length * rs.length := by
  simp [crossed, List.length_flatMap, List.map_const', Nat.mul_comm]

theorem length_spread (clauses : List Clause) (qs : List Query) :
    (spread clauses qs).length = qs.length * clauses.length := by
  simp [spread, List.length_flatMap, List.map_const', Nat.mul_comm]

theorem length_comparisonClauses {token : String} (h : token ∈ comparisonTokens) (name : String)
    (operand : Expr) :
    (comparisonClauses name token operand).length = comparisonWidth token operand := by
  unfold comparisonClauses comparisonWidth
  by_cases hne : token = "!=" ∨ token = "<>"
  · rw [if_pos hne, if_pos hne]
    cases operand <;> rfl
  · obtain ⟨op, ho⟩ := ofToken_of_mem h hne
    rw [if_neg hne, if_neg hne, StoreOp.ofToken?_of_ofToken ho]
    rfl

theorem Expr.Supported.length_clauses {e : Expr} (h : e.Supported) : e.clauses.length = e.width := by
  induction h with
  | column name table => rfl
  | conjunction _ _ ihl ihr => rw [clauses_conjunction, length_crossed, ihl, ihr]; rfl
  | disjunction _ _ ihl ihr => rw [clauses_disjunction, List.length_append, ihl, ihr]; rfl
  | comparison name table ht ho =>
    have hr := ofOperator_of_mem ht
    rw [clauses_column _ hr, width_column hr, columnClauses_of_comparison hr,
      columnWidth_of_comparison hr]
    exact length_comparisonClauses ht name _
  | membership name table hv => exact List.length_map _
  | containment | range | pattern => rfl

theorem Expr.length_of_plan {e : Expr} {qs out : List Query} (h : (e.plan qs).result = .ok out) :
    out.length = qs.length * e.width := by
  have ho := e.plan_outcome qs
  rw [h] at ho
  cases ho with
  | planned hf _ =>
    rw [length_spread, (flaw?_eq_none_iff.mp hf).length_clauses]

/-! ## What a plan tells -/

def comparisonTrace (name token : String) (operand : Expr) : List String :=
  if token = "!=" ∨ token = "<>" then
    match operand with
    | .bool _ => []
    | _ => ["Splitting " ++ name ++ " " ++ token ++ " into < and > queries"]
  else []

def columnTrace (name operator : String) (operand : Expr) : List String :=
  match operator, operand with
  | "IN", .list values => ["IN on " ++ name ++ " fanned out over " ++ toString values.length ++ " values"]
  | _, _ => comparisonTrace name operator operand

/-- The lines of a plan that starts from so many queries. -/
def Expr.trace : Expr → Nat → List String
  | .binary operator left right, count =>
    if operator = "AND" then left.trace count ++ right.trace (count * left.width)
    else if operator = "OR" then
      left.trace count ++ right.trace count ++
        ["OR fan-out: " ++ toString (count * left.width) ++ " + " ++ toString (count * right.width) ++
          " queries"]
    else match left with
      | .column name _ => columnTrace name operator right
      | _ => []
  | _, _ => []

theorem columnTrace_of_comparison {operator : String}
    (h : Rule.ofOperator operator = .column .comparison) (name : String) (operand : Expr) :
    columnTrace name operator operand = comparisonTrace name operator operand := by
  unfold columnTrace
  split <;> first | rfl | cases h

theorem Expr.trace_column {operator : String} {rule : ColumnRule}
    (h : Rule.ofOperator operator = .column rule) (name : String) (table : Option String)
    (right : Expr) (count : Nat) :
    (binary operator (column name table) right).trace count = columnTrace name operator right := by
  obtain ⟨hand, hor⟩ := not_or.mp (Rule.not_connective h)
  rw [trace, if_neg hand, if_neg hor]

/-! ## One condition -/

theorem constrain_silent {token : String} (h : ¬ (token = "!=" ∨ token = "<>")) (qs : List Query)
    (field operand : Datum) : (constrain qs field (.text token) operand).events = [] := by
  rw [constrain, notEqual?_eq_none h]
  rfl

theorem equal_silent (qs : List Query) (field operand : Datum) :
    (constrain qs field (.text "=") operand).events = [] := constrain_silent (by decide) qs field operand

/-- A split is told before the operand is looked at, so also where the plan then fails. -/
theorem constrain_told (qs : List Query) (name token : String) (operand : Expr) :
    (constrain qs (.text name) (.text token) (.expr operand)).events.map Event.text =
      comparisonTrace name token operand := by
  unfold comparisonTrace
  by_cases hne : token = "!=" ∨ token = "<>"
  · rw [if_pos hne, constrain, notEqual?_eq_some hne]
    cases operand
    case bool b => rfl
    all_goals
      simp only [Datum.truth?, Traced.events_note_bind]
      rw [Traced.events_bind_of_silent _ fun below => Traced.events_bind_of_silent _ fun above => rfl]
      rfl
  · rw [if_neg hne, constrain_silent hne]
    rfl

theorem matchAny_silent (qs : List Query) (name : String) (values : List Expr) :
    (matchAny qs name values).events = [] := by
  induction values with
  | nil => rfl
  | cons v vs ih =>
    rw [matchAny, Traced.events_bind_of_silent]
    · exact equal_silent qs _ _
    · intro first
      rw [Traced.events_bind_of_silent _ fun others => rfl]
      exact ih

theorem startRange_silent (qs : List Query) (name start : String) :
    (startRange qs name start).events = [] := by
  rw [startRange, Traced.events_bind_of_silent]
  · exact constrain_silent (by decide) qs _ _
  · intro lower
    split
    · exact constrain_silent (by decide) lower _ _
    · rfl

theorem patternMatch_silent (qs : List Query) (name : String) (operand : Expr) :
    (patternMatch qs name operand).events = [] := by
  unfold patternMatch
  split
  · split
    · exact equal_silent qs _ _
    · exact startRange_silent qs name _
    · rfl
  · rfl

theorem closedRange_silent (qs : List Query) (name : String) (operand : Expr) :
    (closedRange qs name operand).events = [] := by
  unfold closedRange
  split
  · rw [Traced.events_bind_of_silent]
    · exact constrain_silent (by decide) qs _ _
    · exact fun lower => constrain_silent (by decide) lower _ _
  · rfl

theorem membership_told {qs out : List Query} {operator name : String} {operand : Expr}
    (h : (membership qs operator name operand).result = .ok out) :
    (membership qs operator name operand).events.map Event.text = columnTrace name "IN" operand := by
  cases operand
  case list values =>
    rw [membership] at h ⊢
    obtain ⟨found, -, -, he⟩ := Traced.bind_eq_ok h
    rw [he, matchAny_silent]
    rfl
  all_goals cases h

theorem containment_silent (qs : List Query) (name : String) (operand : Expr) :
    (containment qs "CONTAINS" name operand).events = [] := by
  unfold containment
  split
  · exact constrain_silent (by decide) qs _ _
  · rfl

theorem ColumnRule.plan_told {operator : String} {rule : ColumnRule}
    (hr : Rule.ofOperator operator = .column rule) (name : String) (table : Option String)
    {operand : Expr} {qs out : List Query}
    (h : (rule.plan qs operator (.column name table) operand).result = .ok out) :
    (rule.plan qs operator (.column name table) operand).events.map Event.text =
      columnTrace name operator operand := by
  cases rule with
  | comparison =>
    rw [columnTrace_of_comparison hr]
    exact constrain_told qs name operator operand
  | membership => rw [eq_of_ofOperator hr rfl] at h ⊢; exact membership_told h
  | pattern =>
    rw [eq_of_ofOperator hr rfl]
    exact congrArg (List.map Event.text) (patternMatch_silent qs name operand)
  | range =>
    rw [eq_of_ofOperator hr rfl]
    exact congrArg (List.map Event.text) (closedRange_silent qs name operand)
  | containment =>
    rw [eq_of_ofOperator hr rfl]
    exact congrArg (List.map Event.text) (containment_silent qs name operand)

/-! ## Whole plans -/

theorem Expr.plan_told {e : Expr} {qs out : List Query} (h : (e.plan qs).result = .ok out) :
    (e.plan qs).events.map Event.text = e.trace qs.length := by
  -- For any queries at once, since the right side of AND is planned on those that the left side gives.
  induction e using ruleInduction generalizing qs out with
  | conjunction left right ihl ihr =>
    rw [plan_conjunction] at h ⊢
    obtain ⟨narrowed, hl, hr, he⟩ := Traced.bind_eq_ok h
    rw [he, List.map_append, ihl hl, ihr hr, length_of_plan hl]
    rfl
  | disjunction left right ihl ihr =>
    rw [plan_disjunction_eq_bind] at h ⊢
    obtain ⟨ls, hl, h, he⟩ := Traced.bind_eq_ok h
    obtain ⟨rs, hr, -, he'⟩ := Traced.bind_eq_ok h
    rw [he, he', Traced.events_note_bind, List.map_append, List.map_append, ihl hl, ihr hr,
      length_of_plan hl, length_of_plan hr, ← List.append_assoc]
    rfl
  | column operator left right rule hrule =>
    rw [plan_column _ _ _ hrule] at h ⊢
    cases left
    case column name table =>
      rw [trace_column hrule]
      exact rule.plan_told hrule name table h
    all_goals cases h
  | single e he =>
    cases e
    case binary => exact absurd rfl he
    case column name table => exact congrArg (List.map Event.text) (equal_silent qs _ _)
    all_goals cases h

/-! ## Plans that fail -/

/-- What is told while a plan is made, and not of the whole plan. -/
def Event.IsStep : Event → Prop
  | .split _ _ | .orFanOut _ _ | .inFanOut _ _ => True
  | .planned _ _ | .severalBoundedFields _ => False

theorem Event.IsStep.severity {r : Event} (h : r.IsStep) : r.severity = .debug := by
  cases r <;> first | rfl | cases h

theorem constrain_steps (qs : List Query) (field operator operand : Datum) :
    ∀ r ∈ (constrain qs field operator operand).events, r.IsStep := by
  unfold constrain
  split
  · simp
  · split
    · simp
    · rw [Traced.events_note_bind,
        Traced.events_bind_of_silent _ fun below => Traced.events_bind_of_silent _ fun above => rfl]
      simp [Event.IsStep]

theorem membership_steps (qs : List Query) (operator name : String) (operand : Expr) :
    ∀ r ∈ (membership qs operator name operand).events, r.IsStep := by
  unfold membership
  split
  · apply Traced.forall_events_bind
    · simp [matchAny_silent]
    · intro found
      simp [Traced.events_note_bind, Event.IsStep]
  · simp

theorem containment_steps (qs : List Query) (operator name : String) (operand : Expr) :
    ∀ r ∈ (containment qs operator name operand).events, r.IsStep := by
  unfold containment
  split
  · exact constrain_steps qs _ _ _
  · simp

theorem ColumnRule.plan_steps (rule : ColumnRule) (qs : List Query) (operator : String)
    (left right : Expr) : ∀ r ∈ (rule.plan qs operator left right).events, r.IsStep := by
  apply Traced.forall_events_bind
  · cases left <;> simp [leftColumn]
  · intro name
    cases rule with
    | membership => exact membership_steps qs operator name right
    | pattern => simp [patternMatch_silent]
    | range => simp [closedRange_silent]
    | containment => exact containment_steps qs operator name right
    | comparison => exact constrain_steps qs _ _ _

theorem Expr.plan_steps (e : Expr) (qs : List Query) : ∀ r ∈ (e.plan qs).events, r.IsStep := by
  induction e using ruleInduction generalizing qs with
  | conjunction left right ihl ihr => exact Traced.forall_events_bind (ihl qs) ihr
  | disjunction left right ihl ihr =>
    rw [plan_disjunction_eq_bind]
    apply Traced.forall_events_bind (ihl qs)
    intro ls
    apply Traced.forall_events_bind (ihr qs)
    intro rs
    simp [Traced.events_note_bind, Event.IsStep]
  | column operator left right rule hrule =>
    rw [plan_column _ _ _ hrule]
    exact rule.plan_steps qs operator left right
  | single e he =>
    cases e
    case binary => exact absurd rfl he
    case column name table => exact constrain_steps qs _ _ _
    all_goals simp [plan]

/-! ## Whole plans and their records -/

/-- What a planner with the given flag says of the queries of a plan. -/
def boundsWarnings (warn : Bool) (queries : List Query) : List Event :=
  if warn then queries.filterMap boundsWarning? else []

theorem eq_severalBoundedFields_of_mem {warn : Bool} {queries : List Query} {r : Event}
    (h : r ∈ boundsWarnings warn queries) : ∃ fields, r = .severalBoundedFields fields := by
  cases warn with
  | false => cases h
  | true =>
    obtain ⟨q, -, hq⟩ := List.mem_filterMap.mp h
    unfold boundsWarning? at hq
    split at hq
    · exact ⟨_, (Option.some.inj hq).symm⟩
    · cases hq

theorem severity_of_mem_boundsWarnings {warn : Bool} {queries : List Query} {r : Event}
    (h : r ∈ boundsWarnings warn queries) : r.severity = .warning := by
  obtain ⟨fields, rfl⟩ := eq_severalBoundedFields_of_mem h
  rfl

theorem planNode_events_of_ok (warn : Bool) {qs out : List Query} {e : Expr}
    (h : (e.plan qs).result = .ok out) :
    (planNode warn qs e).events = (e.plan qs).events ++
      .planned e.kind out.length :: boundsWarnings warn out := by
  unfold planNode boundsWarnings
  rw [Traced.bind_def, Traced.andThen, h]
  cases warn <;> simp [Traced.events_note_bind, Traced.events_bind_of_silent]

theorem planDatum_of_ok {warn : Bool} {qs out : List Query} {clause : Datum}
    (h : (planDatum warn qs clause).result = .ok out) :
    ∃ e, Expr.parse clause = .ok e ∧ (e.plan qs).result = .ok out ∧
      (planDatum warn qs clause).events = (e.plan qs).events ++
        .planned e.kind out.length :: boundsWarnings warn out := by
  obtain ⟨e, he, hplan, hevents⟩ := Traced.bind_eq_ok h
  rw [planNode_result] at hplan
  exact ⟨e, he, hplan, hevents.trans (planNode_events_of_ok warn hplan)⟩

theorem planDatum_steps_of_error {warn : Bool} {qs : List Query} {clause : Datum} {f : Failure}
    (h : (planDatum warn qs clause).result = .error f) :
    ∀ r ∈ (planDatum warn qs clause).events, r.IsStep := by
  cases hp : Expr.parse clause with
  | error g => simp [planDatum, hp, Traced.bind_def, Traced.andThen]
  | ok e =>
    have hevents : (planDatum warn qs clause).events = (planNode warn qs e).events := by
      simp [planDatum, hp, Traced.bind_def, Traced.andThen]
    rw [planDatum, Traced.result_bind, Traced.result_ofResult, hp] at h
    have hplan : (e.plan qs).result = .error f := (planNode_result warn qs e).symm.trans h
    rw [hevents, planNode, Traced.bind_def, Traced.andThen, hplan]
    exact e.plan_steps qs

namespace Session

/-- The records of a planner at level `debug` count what each step makes of the queries before it, and
then all that is returned. A plan that fails has no such count, and no warning, at any level. -/
theorem fan_out_recorded (s : Session) (index : Nat) (qs : List Query) :
    (∀ (e : Expr) (out : List Query), s.plannerLevel = .debug →
      (s.plan index qs (.expr e)).result = .ok out →
      out.length = qs.length * e.width ∧
      ∃ told warnings, s.records index qs (.expr e) = told ++ warnings ∧
        told.map Event.text = e.trace qs.length ++
          ["Translated WHERE " ++ e.kind ++ " into " ++ toString (qs.length * e.width) ++ " queries"] ∧
        (∀ r ∈ told, r.severity = .debug) ∧ ∀ r ∈ warnings, r.severity = .warning) ∧
    ∀ (clause : Datum) (f : Failure), (s.plan index qs clause).result = .error f →
      ∀ r ∈ s.records index qs clause, r.severity = .debug ∧ ∀ kind count, r ≠ .planned kind count := by
  constructor
  · intro e out hlevel hout
    obtain ⟨e', he, hplan, hevents⟩ := planDatum_of_ok hout
    cases he
    have hlength := Expr.length_of_plan hplan
    refine ⟨hlength, (e.plan qs).events ++ [.planned e.kind out.length],
      boundsWarnings (s.warns index) out, ?_, ?_, ?_, ?_⟩
    · rw [records, shown, hlevel, Event.shownAt_debug, plan, hevents]
      exact List.append_cons _ _ _
    · rw [List.map_append, Expr.plan_told hplan, hlength]
      rfl
    · intro r hr
      rcases List.mem_append.mp hr with hr | hr
      · exact (e.plan_steps qs r hr).severity
      · rw [List.mem_singleton.mp hr]
        rfl
    · intro r hr
      exact severity_of_mem_boundsWarnings hr
  · intro clause f hf r hr
    have hstep := planDatum_steps_of_error hf r (List.mem_filter.mp hr).1
    refine ⟨hstep.severity, ?_⟩
    rintro kind count rfl
    exact hstep

/-- `city IN ("Rome", "Oslo", "Bern") AND (age <> 3 OR open)` on two queries, and the same with a pattern
that no plan is made for in the place of `open`. -/
theorem fan_out_recorded_on_two_queries :
    let city : Expr := .binary "IN" (.column "city" none)
      (.list [.string "Rome", .string "Oslo", .string "Bern"])
    let age : Expr := .binary "<>" (.column "age" none) (.number (.int 3))
    let name : Expr := .binary "LIKE" (.column "name" none) (.string "%o")
    let e : Expr := .binary "AND" city (.binary "OR" age (.column "open" none))
    let broken : Expr := .binary "AND" city (.binary "OR" age name)
    let seeds : List Query := [.filtered none [], .filtered (some "shops") []]
    let s := initial.live [.configure (.setLogLevel "debug"), .configure (.makePlanner (some true))]
    s.plannerLevel = .debug ∧
      (∃ out, (s.plan 1 seeds (.expr e)).result = .ok out ∧ out.length = 18 ∧
        ∃ told warnings, s.records 1 seeds (.expr e) = told ++ warnings ∧
          told.map Event.text =
            ["IN on city fanned out over 3 values", "Splitting age <> into < and > queries",
              "OR fan-out: 12 + 6 queries", "Translated WHERE binary_expr into 18 queries"]) ∧
      (∃ f, (s.plan 1 seeds (.expr broken)).result = .error f ∧
        ∀ r ∈ s.records 1 seeds (.expr broken),
          r.severity = .debug ∧ ∀ kind count, r ≠ .planned kind count) := by
  intro city age name e broken seeds s
  have hlevel : s.plannerLevel = .debug := by decide +kernel
  obtain ⟨hplanned, hfailed⟩ := fan_out_recorded s 1 seeds
  have hout : (s.plan 1 seeds (.expr e)).result = .ok (spread e.clauses seeds) := rfl
  have hbroken : (s.plan 1 seeds (.expr broken)).result =
      .error (.rejected (.unsupportedPattern "%o" (.endsWith "o"))) := rfl
  obtain ⟨hlength, told, warnings, hrecords, htold, -⟩ := hplanned e _ hlevel hout
  have htrace : e.trace seeds.length ++ ["Translated WHERE " ++ e.kind ++ " into " ++
      toString (seeds.length * e.width) ++ " queries"] =
      ["IN on city fanned out over 3 values", "Splitting age <> into < and > queries",
        "OR fan-out: 12 + 6 queries", "Translated WHERE binary_expr into 18 queries"] := by
    decide +kernel
  exact ⟨hlevel, ⟨_, hout, hlength, told, warnings, hrecords, htold.trans htrace⟩, _, hbroken,
    hfailed (.expr broken) _ hbroken⟩

end Session

end WhereClause

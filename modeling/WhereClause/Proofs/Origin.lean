import Mathlib.Data.List.Forall2
import WhereClause.Proofs.Supported

/-! # Where filters come from

A plan adds filters to its seeds. Each of them is one that the store knows, on a column of the node and
with a value that the node gives: no operator of a clause and no node gets into a query.
-/

namespace WhereClause

/-- A scalar, or a list of native values. -/
inductive Datum.IsNative : Datum → Prop
  | null : IsNative .null
  | bool (b : Bool) : IsNative (.bool b)
  | number (n : Number) : IsNative (.number n)
  | text (s : String) : IsNative (.text s)
  | list {items : List Datum} (h : ∀ d ∈ items, d.IsNative) : IsNative (.list items)

def storeOperators : List String := ["==", "<", "<=", ">", ">=", "array-contains", "array-contains-any"]

theorem StoreOp.text_mem (op : StoreOp) : op.text ∈ storeOperators := by
  cases op <;> decide

theorem StoreOp.eq_arrayContains {op : StoreOp} (h : op.text = "array-contains") :
    op = .arrayContains := by
  cases op <;> simp [StoreOp.text] at h ⊢

theorem mem_valuesOf {d : Datum} {es : List Expr} (h : d ∈ valuesOf es) : ∃ e ∈ es, d = e.value := by
  induction es with
  | nil => cases h
  | cons e es ih =>
    rw [valuesOf, List.mem_cons] at h
    rcases h with rfl | h
    · exact ⟨e, List.mem_cons_self, rfl⟩
    · obtain ⟨x, hx, hd⟩ := ih h
      exact ⟨x, List.mem_cons_of_mem e hx, hd⟩

theorem Expr.IsValue.isNative {e : Expr} (h : e.IsValue) : e.value.IsNative := by
  induction h with
  | string s => exact .text s
  | number n => exact .number n
  | bool b => exact .bool b
  | null => exact .null
  | list _ ih =>
    refine .list fun d hd => ?_
    obtain ⟨x, hx, rfl⟩ := mem_valuesOf hd
    exact ih x hx

namespace Expr

/-! ## What a part of a clause gives -/

/-- The column that a part is, or that its operator is put to. -/
def column? : Expr → Option String
  | column name _ => some name
  | binary _ (column name _) _ => some name
  | _ => none

/-- The values that a part asks for. -/
inductive Gives : Expr → Datum → Prop
  | alone (name : String) (table : Option String) : Gives (column name table) (.bool true)
  | operand {token : String} {x : Expr} (ht : token ∈ "CONTAINS" :: comparisonTokens) (left : Expr)
    (hx : x.IsValue) : Gives (binary token left x) x.value
  | negation {token : String} (ht : token = "!=" ∨ token = "<>") (left : Expr) (b : Bool) :
    Gives (binary token left (bool b)) (.bool !b)
  | member {token : String} {x : Expr} {xs : List Expr} (ht : token = "IN" ∨ token = "BETWEEN")
    (left : Expr) (hm : x ∈ xs) (hx : x.IsValue) : Gives (binary token left (list xs)) x.value
  | text {pattern : String} (hp : pattern.toList.getLast? ≠ some Pattern.wildcard) (left : Expr) :
    Gives (binary "LIKE" left (string pattern)) (.text pattern)
  | start {pattern start : String} (hp : pattern.toList = start.toList ++ [Pattern.wildcard])
    (left : Expr) : Gives (binary "LIKE" left (string pattern)) (.text start)
  | bound {pattern start bound : String} (hp : pattern.toList = start.toList ++ [Pattern.wildcard])
    (hb : Text.successor? start = some bound) (left : Expr) :
    Gives (binary "LIKE" left (string pattern)) (.text bound)

theorem Gives.isNative {part : Expr} {d : Datum} (h : part.Gives d) : d.IsNative := by
  cases h with
  | alone | negation => exact .bool _
  | text | start | bound => exact .text _
  | operand _ _ hx => exact hx.isNative
  | member _ _ _ hx => exact hx.isNative

/-- A filter that a part of a clause brings about. -/
structure Emits (part : Expr) (f : Filter) : Prop where
  field : part.column? = some f.field
  op : f.op ∈ storeOperators
  native : f.value.IsNative
  single : f.op = "array-contains" → ∀ items, f.value ≠ .list items
  source : part.Gives f.value

theorem emits_of_gives {part : Expr} {c : Condition} (hf : part.column? = some c.field)
    (hg : part.Gives c.value) (hs : c.op = .arrayContains → ∀ items, c.value ≠ .list items) :
    part.Emits c.filter where
  field := hf
  op := c.op.text_mem
  native := hg.isNative
  single h := hs (StoreOp.eq_arrayContains h)
  source := hg

/-! ## Conditions of a part -/

/-- Every condition of the clauses is brought about by the part. -/
def EmitsAll (part : Expr) (clauses : List Clause) : Prop :=
  ∀ clause ∈ clauses, ∀ c ∈ clause, part.Emits c.filter

section

variable {part : Expr} {c d : Condition}

theorem emitsAll_one (hc : part.Emits c.filter) : part.EmitsAll [[c]] := by
  simpa [EmitsAll] using hc

theorem emitsAll_both (hc : part.Emits c.filter) (hd : part.Emits d.filter) :
    part.EmitsAll [[c, d]] := by
  simpa [EmitsAll] using ⟨hc, hd⟩

theorem emitsAll_either (hc : part.Emits c.filter) (hd : part.Emits d.filter) :
    part.EmitsAll [[c], [d]] := by
  simpa [EmitsAll] using ⟨hc, hd⟩

end

variable (name : String) (table : Option String)

theorem emits_operand {token : String} {x : Expr} (ht : token ∈ comparisonTokens) (hx : x.IsValue)
    (op : StoreOp) (ho : op ≠ .arrayContains) :
    (binary token (column name table) x).Emits (Condition.filter ⟨name, op, x.value⟩) :=
  emits_of_gives rfl (.operand (List.mem_cons_of_mem _ ht) _ hx) fun h => absurd h ho

theorem ofToken?_ne_arrayContains {token : String} {op : StoreOp} (ht : token ∈ comparisonTokens)
    (h : StoreOp.ofToken? token = some op) : op ≠ .arrayContains := by
  rintro rfl
  unfold StoreOp.ofToken? at h
  split at h
  all_goals first | exact absurd ht (by decide) | cases h

theorem emitsAll_comparison {token : String} {x : Expr} (ht : token ∈ comparisonTokens)
    (hx : x.IsValue) :
    (binary token (column name table) x).EmitsAll (comparisonClauses name token x) := by
  have hone := emits_operand name table ht hx
  unfold comparisonClauses
  split
  · rename_i hne
    split
    · rename_i b
      have hg : (binary token (column name table) (bool b)).Gives (.bool !b) := .negation hne _ b
      exact emitsAll_one (emits_of_gives rfl hg (by simp))
    · exact emitsAll_either (hone .less (by decide)) (hone .greater (by decide))
  · cases ho : StoreOp.ofToken? token with
    | some op => exact emitsAll_one (hone op (ofToken?_ne_arrayContains ht ho))
    | none => simp [EmitsAll]

theorem value_ne_list {x : Expr} (h : x.form.isScalar = true) (items : List Datum) :
    x.value ≠ .list items := by
  cases x <;> simp [form, Form.isScalar, value] at h ⊢

theorem emitsAll_containment {x : Expr} (hx : x.form.isScalar = true) :
    (binary "CONTAINS" (column name table) x).EmitsAll (columnClauses name "CONTAINS" x) := by
  have hg : (binary "CONTAINS" (column name table) x).Gives x.value :=
    .operand (List.mem_cons_self) _ (isValue_of_isScalar hx)
  have hc : (binary "CONTAINS" (column name table) x).Emits
      (Condition.filter ⟨name, .arrayContains, x.value⟩) :=
    emits_of_gives rfl hg fun _ => value_ne_list hx
  exact emitsAll_one hc

theorem emits_member {token : String} {x : Expr} {xs : List Expr}
    (ht : token = "IN" ∨ token = "BETWEEN") (hm : x ∈ xs) (hx : x.IsValue) (op : StoreOp)
    (ho : op ≠ .arrayContains) :
    (binary token (column name table) (list xs)).Emits (Condition.filter ⟨name, op, x.value⟩) :=
  emits_of_gives rfl (.member ht _ hm hx) fun h => absurd h ho

theorem emitsAll_membership {xs : List Expr} (hxs : ∀ x ∈ xs, x.IsValue) :
    (binary "IN" (column name table) (list xs)).EmitsAll (columnClauses name "IN" (list xs)) := by
  intro clause hclause c hc
  obtain ⟨x, hx, rfl⟩ := List.mem_map.mp hclause
  rw [List.mem_singleton.mp hc]
  exact emits_member name table (.inl rfl) hx (hxs x hx) .equal (by decide)

theorem emitsAll_range {low high : Expr} (hl : low.IsValue) (hh : high.IsValue) :
    (binary "BETWEEN" (column name table) (list [low, high])).EmitsAll
      (columnClauses name "BETWEEN" (list [low, high])) := by
  have hlow : low ∈ [low, high] := List.mem_cons_self
  have hhigh : high ∈ [low, high] := List.mem_cons_of_mem low List.mem_cons_self
  exact emitsAll_both (emits_member name table (.inr rfl) hlow hl .atLeast (by decide))
    (emits_member name table (.inr rfl) hhigh hh .atMost (by decide))

theorem emitsAll_start {pattern start : String}
    (hp : pattern.toList = start.toList ++ [Pattern.wildcard]) :
    (binary "LIKE" (column name table) (string pattern)).EmitsAll [startClause name start] := by
  have hlower : (binary "LIKE" (column name table) (string pattern)).Emits
      (Condition.filter ⟨name, .atLeast, .text start⟩) :=
    emits_of_gives rfl (.start hp _) (by simp)
  unfold startClause
  cases hb : Text.successor? start with
  | some bound => exact emitsAll_both hlower (emits_of_gives rfl (.bound hp hb _) (by simp))
  | none => exact emitsAll_one hlower

theorem emitsAll_pattern (pattern : String) :
    (binary "LIKE" (column name table) (string pattern)).EmitsAll
      (columnClauses name "LIKE" (string pattern)) := by
  change EmitsAll _ [patternClause name pattern]
  unfold patternClause
  split
  · rename_i hlast
    apply emitsAll_start
    rw [String.toList_ofList]
    exact (List.dropLast_append_getLast? _ hlast).symm
  · rename_i hlast
    exact emitsAll_one (emits_of_gives rfl (.text hlast _) (by simp))

/-! ## All nodes -/

/-- Every condition of the node's alternatives is brought about by one of its parts. -/
def EmitsOwn (e : Expr) : Prop :=
  ∀ clause ∈ e.clauses, ∀ c ∈ clause, ∃ part ∈ e.operands, part.Emits c.filter

theorem emitsOwn_of_emitsAll {e : Expr} (ho : e.operands = [e]) (h : e.EmitsAll e.clauses) :
    e.EmitsOwn := by
  intro clause hclause c hc
  rw [ho]
  exact ⟨e, List.mem_singleton_self e, h clause hclause c hc⟩

theorem emitsOwn_column {token : String} {rule : ColumnRule}
    (hr : Rule.ofOperator token = .column rule) {operand : Expr}
    (h : (binary token (column name table) operand).EmitsAll (columnClauses name token operand)) :
    (binary token (column name table) operand).EmitsOwn := by
  apply emitsOwn_of_emitsAll (operands_column hr)
  rw [clauses_column _ hr]
  exact h

theorem Supported.emitsOwn {e : Expr} (h : e.Supported) : e.EmitsOwn := by
  induction h with
  | column name table =>
    apply emitsOwn_of_emitsAll rfl
    exact emitsAll_one (emits_of_gives rfl (.alone name table) (by simp))
  | @conjunction left right _ _ ihl ihr =>
    rw [EmitsOwn, clauses_conjunction, operands_conjunction]
    intro clause hclause c hc
    simp only [crossed, List.mem_flatMap, List.mem_map] at hclause
    obtain ⟨r, hr, l, hl, rfl⟩ := hclause
    -- A pair joins an alternative of each side, so a condition in it is one side's own.
    rcases List.mem_append.mp hc with hc | hc
    · obtain ⟨part, hpart, hemits⟩ := ihl l hl c hc
      exact ⟨part, List.mem_append_left _ hpart, hemits⟩
    · obtain ⟨part, hpart, hemits⟩ := ihr r hr c hc
      exact ⟨part, List.mem_append_right _ hpart, hemits⟩
  | disjunction _ _ ihl ihr =>
    rw [EmitsOwn, clauses_disjunction, operands_disjunction]
    intro clause hclause c hc
    rcases List.mem_append.mp hclause with hclause | hclause
    · obtain ⟨part, hpart, hemits⟩ := ihl clause hclause c hc
      exact ⟨part, List.mem_append_left _ hpart, hemits⟩
    · obtain ⟨part, hpart, hemits⟩ := ihr clause hclause c hc
      exact ⟨part, List.mem_append_right _ hpart, hemits⟩
  | comparison name table ht ho =>
    have hr := ofOperator_of_mem ht
    apply emitsOwn_column name table hr
    rw [columnClauses_of_comparison hr]
    exact emitsAll_comparison name table ht ho
  | containment name table ho =>
    have hr : Rule.ofOperator "CONTAINS" = .column .containment := rfl
    exact emitsOwn_column name table hr (emitsAll_containment name table ho)
  | membership name table hv =>
    have hr : Rule.ofOperator "IN" = .column .membership := rfl
    exact emitsOwn_column name table hr (emitsAll_membership name table hv)
  | range name table hl hh =>
    have hr : Rule.ofOperator "BETWEEN" = .column .range := rfl
    exact emitsOwn_column name table hr (emitsAll_range name table hl hh)
  | pattern name table ht =>
    have hr : Rule.ofOperator "LIKE" = .column .pattern := rfl
    exact emitsOwn_column name table hr (emitsAll_pattern name table _)

end Expr

/-! ## Whole plans -/

/-- Both are queries of the store, and the second is the first with filters that the node brings
about at its end. -/
def Query.Extends (e : Expr) (seed q : Query) : Prop :=
  ∃ collection own added, seed = .filtered collection own ∧
    q = .filtered collection (own ++ added) ∧ ∀ f ∈ added, ∃ part ∈ e.operands, part.Emits f

theorem extends_narrow {e : Expr} {clause : Clause}
    (h : ∀ c ∈ clause, ∃ part ∈ e.operands, part.Emits c.filter) (collection : Option String)
    (own : List Filter) :
    Query.Extends e (.filtered collection own) ((Query.filtered collection own).narrow clause) := by
  refine ⟨collection, own, clause.map Condition.filter, rfl, rfl, ?_⟩
  intro f hf
  obtain ⟨c, hc, rfl⟩ := List.mem_map.mp hf
  exact h c hc

theorem forall₂_spread {r : Query → Query → Prop} {clauses : List Clause} {qs : List Query}
    (h : ∀ clause ∈ clauses, ∀ q ∈ qs, r q (q.narrow clause)) :
    List.Forall₂ r (List.replicate clauses.length qs).flatten (spread clauses qs) := by
  induction clauses with
  | nil => exact .nil
  | cons c cs ih =>
    rw [List.forall_mem_cons] at h
    rw [List.length_cons, List.replicate_succ, List.flatten_cons]
    refine List.rel_append ?_ (ih h.2)
    rw [List.forall₂_map_right_iff]
    exact List.forall₂_same.mpr h.1

/-- The queries of a plan are copies of its seeds, in their order, each with filters added that the
store knows and that come from one part of the node: its column, and a value that it gives. -/
theorem planned_filters_emitted {warn : Bool} {qs out : List Query} {e : Expr}
    (h : (planDatum warn qs (.expr e)).result = .ok out)
    (hq : ∀ q ∈ qs, ∃ collection filters, q = .filtered collection filters) :
    ∃ copies, List.Forall₂ (Query.Extends e) (List.replicate copies qs).flatten out := by
  rw [planDatum_expr_result] at h
  have ho := e.plan_outcome qs
  rw [h] at ho
  cases ho with
  | planned hf _ =>
    have howned := (Expr.flaw?_eq_none_iff.mp hf).emitsOwn
    refine ⟨e.clauses.length, forall₂_spread fun clause hclause q hmem => ?_⟩
    obtain ⟨collection, filters, rfl⟩ := hq q hmem
    exact extends_narrow (howned clause hclause) collection filters

theorem planned_filters_emitted_for_tags :
    -- `open AND (tags CONTAINS-ANY ("a", ("b", null)) OR name LIKE "Jo%")`
    let e : Expr := .binary "AND" (.column "open" none)
      (.binary "OR"
        (.binary "CONTAINS-ANY" (.column "tags" none) (.list [.string "a", .list [.string "b", .null]]))
        (.binary "LIKE" (.column "name" none) (.string "Jo%")))
    let opened : Filter := ⟨"open", "==", .bool true, none⟩
    let tagged : Filter :=
      ⟨"tags", "array-contains-any", .list [.text "a", .list [.text "b", .null]], none⟩
    let owned : Filter := ⟨"owner", "==", .text "me", none⟩
    let named : List Filter := [⟨"name", ">=", .text "Jo", none⟩, ⟨"name", "<", .text "Jp", none⟩]
    let seeds : List Query := [.filtered none [], .filtered (some "shops") [owned]]
    let out : List Query :=
      [.filtered none [opened, tagged], .filtered (some "shops") [owned, opened, tagged],
        .filtered none (opened :: named), .filtered (some "shops") (owned :: opened :: named)]
    (planDatum true seeds (.expr e)).result = .ok out ∧
      (∀ q ∈ seeds, ∃ collection filters, q = .filtered collection filters) ∧
      ∃ copies, List.Forall₂ (Query.Extends e) (List.replicate copies seeds).flatten out := by
  intro e opened tagged owned named seeds out
  have hplan : (planDatum true seeds (.expr e)).result = .ok out := rfl
  have hseeds : ∀ q ∈ seeds, ∃ collection filters, q = .filtered collection filters := by
    simp [seeds]
  exact ⟨hplan, hseeds, planned_filters_emitted hplan hseeds⟩

end WhereClause

import WhereClause.Proofs.Meaning

/-! # Alternatives that do not overlap

Without a disjunction no document is granted by two alternatives of a clause. A plan then answers a
document as often as its queries did before, or not at all.
-/

namespace WhereClause

/-! ## Stores with one equality -/

/-- A store whose values are compared with each other, those that it holds and those of filters
alike. At most one of the three outcomes holds of two values. -/
structure ValueStore (V : Type) where
  ofDatum : Datum → V
  compare? : V → V → Option Ordering
  special : String → V → Datum → Prop
  equal_symm : ∀ {a b}, compare? a b = some .eq → compare? b a = some .eq
  equal_trans : ∀ {a b c}, compare? a b = some .eq → compare? b c = some .eq → compare? a c = some .eq

namespace ValueStore

variable {V : Type} (store : ValueStore V)

def toStore : Store V where
  order? v d := store.compare? v (store.ofDatum d)
  special := store.special

/-- Whether the store takes the values of two operands for equal. -/
def Alike (x y : Expr) : Prop :=
  store.compare? (store.ofDatum x.value) (store.ofDatum y.value) = some .eq

theorem alike_of_equal {x y : Expr} {v : V} (hx : store.toStore.equal v x.value)
    (hy : store.toStore.equal v y.value) : store.Alike x y :=
  store.equal_trans (store.equal_symm hx) hy

/-- No list of members names a value twice. -/
def DistinctMembers : Expr → Prop
  | .binary "IN" _ (.list values) => values.Pairwise fun x y => ¬ store.Alike x y
  | .binary _ left right => DistinctMembers left ∧ DistinctMembers right
  | _ => True

end ValueStore

/-- There is no disjunction. -/
def Expr.OrFree : Expr → Prop
  | .binary operator left right => operator ≠ "OR" ∧ left.OrFree ∧ right.OrFree
  | _ => True

namespace Store

variable {V : Type} (store : Store V)

/-! ## Clauses apart -/

/-- No document is granted by both clauses. -/
def Apart (c d : Clause) : Prop := ∀ doc, ¬ (store.grants doc c ∧ store.grants doc d)

variable {store}

theorem Apart.append_left {l m : Clause} (h : store.Apart l m) (r s : Clause) :
    store.Apart (l ++ r) (m ++ s) := by
  intro doc hboth
  rw [grants_append, grants_append] at hboth
  exact h doc ⟨hboth.1.1, hboth.2.1⟩

theorem Apart.append_right {r s : Clause} (h : store.Apart r s) (l m : Clause) :
    store.Apart (l ++ r) (m ++ s) := by
  intro doc hboth
  rw [grants_append, grants_append] at hboth
  exact h doc ⟨hboth.1.2, hboth.2.2⟩

theorem pairwise_crossed {ls rs : List Clause} (hl : ls.Pairwise store.Apart)
    (hr : rs.Pairwise store.Apart) : (crossed ls rs).Pairwise store.Apart := by
  unfold crossed
  rw [List.pairwise_flatMap]
  constructor
  · intro r _
    rw [List.pairwise_map]
    exact hl.imp fun h => h.append_left r r
  · refine hr.imp fun h c hc d hd => ?_
    obtain ⟨l, -, rfl⟩ := List.mem_map.mp hc
    obtain ⟨m, -, rfl⟩ := List.mem_map.mp hd
    exact h.append_right l m

theorem apart_of_field {name : String} {op₁ op₂ : StoreOp} {x y : Datum}
    (h : ∀ v, ¬ (store.test op₁.text v x ∧ store.test op₂.text v y)) :
    store.Apart [⟨name, op₁, x⟩] [⟨name, op₂, y⟩] := by
  rintro doc ⟨hx, hy⟩
  obtain ⟨v, hv, hvx⟩ := hx _ (List.mem_singleton_self _)
  obtain ⟨w, hw, hwy⟩ := hy _ (List.mem_singleton_self _)
  have hvw : v = w := Option.some.inj (hv.symm.trans hw)
  subst hvw
  exact h v ⟨hvx, hwy⟩

theorem apart_less_greater (name : String) (x : Datum) :
    store.Apart [⟨name, .less, x⟩] [⟨name, .greater, x⟩] := by
  apply apart_of_field
  rintro v ⟨hl, hg⟩
  have hl : store.order? v x = some .lt := hl
  have hg : store.order? v x = some .gt := hg
  rw [hl] at hg
  cases hg

theorem pairwise_comparisonClauses (name token : String) (operand : Expr) :
    (comparisonClauses name token operand).Pairwise store.Apart := by
  unfold comparisonClauses
  split
  · split
    · exact List.pairwise_singleton _ _
    · exact List.pairwise_pair.mpr (apart_less_greater name _)
  · split
    · exact List.pairwise_singleton _ _
    · exact List.Pairwise.nil

/-! ## Counting -/

open Classical in
/-- How many of the queries are answered with the document. -/
noncomputable def hits (store : Store V) (doc : Document V) (qs : List Query) : Nat :=
  qs.countP fun q => store.answers doc q

variable {doc : Document V}

theorem hits_eq_zero_iff {qs : List Query} :
    store.hits doc qs = 0 ↔ ∀ q ∈ qs, ¬ store.answers doc q := by
  unfold hits
  rw [List.countP_eq_zero]
  simp

theorem hits_append (qs rs : List Query) :
    store.hits doc (qs ++ rs) = store.hits doc qs + store.hits doc rs := List.countP_append

theorem hits_narrow_of_grants {clause : Clause} (h : store.grants doc clause) (qs : List Query) :
    store.hits doc (qs.map fun q => q.narrow clause) = store.hits doc qs := by
  unfold hits
  rw [List.countP_map]
  apply List.countP_congr
  intro q _
  simp [answers_narrow, h]

theorem hits_narrow_of_not_grants {clause : Clause} (h : ¬ store.grants doc clause)
    (qs : List Query) : store.hits doc (qs.map fun q => q.narrow clause) = 0 := by
  unfold hits
  rw [List.countP_map, List.countP_eq_zero]
  intro q _
  simp [answers_narrow, h]

theorem spread_cons (c : Clause) (cs : List Clause) (qs : List Query) :
    spread (c :: cs) qs = (qs.map fun q => q.narrow c) ++ spread cs qs := rfl

theorem hits_spread_of_not_grants {clauses : List Clause}
    (h : ∀ clause ∈ clauses, ¬ store.grants doc clause) (qs : List Query) :
    store.hits doc (spread clauses qs) = 0 := by
  induction clauses with
  | nil => rfl
  | cons c cs ih =>
    rw [List.forall_mem_cons] at h
    rw [spread_cons, hits_append, hits_narrow_of_not_grants h.1, ih h.2]

/-- At most one of the clauses grants the document, and that one keeps the number. -/
theorem hits_spread {clauses : List Clause} (h : clauses.Pairwise store.Apart) (qs : List Query) :
    store.hits doc (spread clauses qs) = 0 ∨
      store.hits doc (spread clauses qs) = store.hits doc qs := by
  induction h with
  | nil => exact .inl rfl
  | @cons c cs hc _ ih =>
    rw [spread_cons, hits_append]
    by_cases hg : store.grants doc c
    · have hothers : ∀ d ∈ cs, ¬ store.grants doc d := fun d hd hgd => hc d hd doc ⟨hg, hgd⟩
      rw [hits_narrow_of_grants hg, hits_spread_of_not_grants hothers]
      exact .inr (Nat.add_zero _)
    · rw [hits_narrow_of_not_grants hg, Nat.zero_add]
      exact ih

end Store

/-! ## All nodes -/

theorem Expr.clauses_of_left {operator : String} {rule : ColumnRule}
    (h : Rule.ofOperator operator = .column rule) {left : Expr} (hl : left.form ≠ .column)
    (right : Expr) : (binary operator left right).clauses = [] := by
  obtain ⟨hand, hor⟩ := not_or.mp (Rule.not_connective h)
  rw [clauses, if_neg hand, if_neg hor]
  intro name table he
  rw [he] at hl
  exact hl rfl

namespace ValueStore

variable {V : Type} {store : ValueStore V}

theorem apart_equal {x y : Expr} (h : ¬ store.Alike x y) (name : String) :
    store.toStore.Apart [⟨name, .equal, x.value⟩] [⟨name, .equal, y.value⟩] := by
  apply Store.apart_of_field
  rintro v ⟨hx, hy⟩
  exact h (store.alike_of_equal hx hy)

theorem pairwise_columnClauses {operator : String} {operand : Expr} {left : Expr}
    (h : store.DistinctMembers (.binary operator left operand)) (name : String) :
    (columnClauses name operator operand).Pairwise store.toStore.Apart := by
  unfold columnClauses
  split
  · rename_i values
    have hvalues : values.Pairwise fun x y => ¬ store.Alike x y := h
    rw [List.pairwise_map]
    exact hvalues.imp fun hxy => apart_equal hxy name
  · exact List.pairwise_singleton _ _
  · exact List.pairwise_singleton _ _
  · exact Store.pairwise_comparisonClauses name operator operand

theorem pairwise_clauses {e : Expr} (ho : e.OrFree) (hm : store.DistinctMembers e) :
    e.clauses.Pairwise store.toStore.Apart := by
  induction e using Expr.ruleInduction with
  | conjunction left right ihl ihr =>
    rw [Expr.clauses_conjunction]
    have hmembers : store.DistinctMembers left ∧ store.DistinctMembers right := hm
    exact Store.pairwise_crossed (ihl ho.2.1 hmembers.1) (ihr ho.2.2 hmembers.2)
  | disjunction left right _ _ => exact absurd rfl ho.1
  | column operator left right rule hrule =>
    by_cases hl : left.form = .column
    · cases left <;> cases hl
      rw [Expr.clauses_column _ hrule]
      exact pairwise_columnClauses hm _
    · rw [Expr.clauses_of_left hrule hl]
      exact List.Pairwise.nil
  | single e he =>
    cases e
    case binary => exact absurd rfl he
    case column name table => exact List.pairwise_singleton _ _
    all_goals exact List.Pairwise.nil

/-- Without a disjunction no two alternatives overlap, and a plan is answered with a document as often
as the queries at its start are, or not at all. -/
theorem hits_planned (store : ValueStore V) {warn : Bool} {qs out : List Query} {e : Expr}
    (h : (planDatum warn qs (.expr e)).result = .ok out) (ho : e.OrFree)
    (hm : store.DistinctMembers e) (doc : Document V) :
    (store.toStore.hits doc out = 0 ∨ store.toStore.hits doc out = store.toStore.hits doc qs) ∧
      e.clauses.Pairwise store.toStore.Apart := by
  have happart := pairwise_clauses ho hm
  rw [planDatum_expr_result] at h
  have houtcome := e.plan_outcome qs
  rw [h] at houtcome
  rw [houtcome.eq_spread]
  exact ⟨Store.hits_spread happart qs, happart⟩

/-! ## Values of data -/

/-- What is left of a value when only its equality counts. A list or a record is equal to nothing. -/
def key? : Datum → Option (Option Bool ⊕ Int ⊕ String)
  | .null => some (.inl none)
  | .bool b => some (.inl (some b))
  | .number n => n.amount?.map fun units => .inr (.inl units)
  | .text s => some (.inr (.inr s))
  | .list _ | .record _ | .expr _ => none

theorem order?_eq_iff (x y : Datum) :
    x.order? y = some .eq ↔ ∃ k, key? x = some k ∧ key? y = some k := by
  cases x <;> cases y
  case number.number m n =>
    cases hm : m.amount? with
    | none => simp [Datum.order?, key?, hm]
    | some i => cases hn : n.amount? <;> simp [Datum.order?, key?, hm, hn, eq_comm (a := i)]
  all_goals simp [Datum.order?, key?]
  all_goals exact eq_comm

def dataValues : ValueStore Datum where
  ofDatum := id
  compare? := Datum.order?
  special := Datum.contains
  equal_symm := by
    intro x y h
    rw [order?_eq_iff] at h ⊢
    obtain ⟨k, hx, hy⟩ := h
    exact ⟨k, hy, hx⟩
  equal_trans := by
    intro x y z hxy hyz
    rw [order?_eq_iff] at hxy hyz ⊢
    obtain ⟨k, hx, hy⟩ := hxy
    obtain ⟨l, hy', hz⟩ := hyz
    rw [hy] at hy'
    exact ⟨k, hx, hz.trans hy'.symm⟩

/-- `city <> "Rome" AND name IN ("Ada", "Eve")`. -/
def othersClause : Expr :=
  .binary "AND" (.binary "<>" (.column "city" none) (.string "Rome"))
    (.binary "IN" (.column "name" none) (.list [.string "Ada", .string "Eve"]))

def eve : Document Datum where
  value? name := [("name", .text "Eve"), ("city", .text "Siena")].lookup name

/-- The clause splits into four queries, and two seeds into eight. Two of the eight are answered with the
document, one for each seed. -/
theorem eve_found_twice :
    othersClause.OrFree ∧ dataValues.DistinctMembers othersClause ∧
      ∃ out, (planDatum true [.filtered none [], .filtered none []] (.expr othersClause)).result =
        .ok out ∧ out.length = 8 ∧ dataValues.toStore.hits eve out = 2 := by
  have hfree : othersClause.OrFree := by simp [othersClause, Expr.OrFree]
  have hnames : ¬ dataValues.Alike (.string "Ada") (.string "Eve") := by
    change ¬ (Datum.text "Ada").order? (.text "Eve") = some .eq
    decide
  have hdistinct : dataValues.DistinctMembers othersClause :=
    ⟨⟨trivial, trivial⟩, List.pairwise_pair.mpr hnames⟩
  have hplan : (planDatum true [.filtered none [], .filtered none []] (.expr othersClause)).result =
      .ok (spread othersClause.clauses [.filtered none [], .filtered none []]) := rfl
  refine ⟨hfree, hdistinct, _, hplan, rfl, ?_⟩
  obtain ⟨hzero | hsame, -⟩ := hits_planned dataValues hplan hfree hdistinct eve
  · rw [Store.hits_eq_zero_iff] at hzero
    -- The first seed under the greater half and the second name.
    have hmem := List.mem_of_getElem? (l := spread othersClause.clauses [.filtered none [], .filtered none []])
      (i := 6) rfl
    refine absurd ?_ (hzero _ hmem)
    intro f hf
    obtain rfl | hf := List.mem_cons.mp hf
    · exact ⟨.text "Siena", rfl, rfl⟩
    · obtain rfl := List.mem_singleton.mp hf
      exact ⟨.text "Eve", rfl, rfl⟩
  · rw [hsame]
    simp [Store.hits, Store.answers]

end ValueStore

end WhereClause

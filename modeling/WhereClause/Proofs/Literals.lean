import WhereClause.Expr.Build
import WhereClause.Proofs.Grammar
import WhereClause.Proofs.Origin

/-! # Values written as literals

The literal of a scalar stands for it, and the list of the literals of a list stands for the list.
Nothing else stands for a value.
-/

namespace WhereClause

mutual

/-- The literal of a scalar, or the list of what its items are wrapped in. -/
def Datum.wrapped : Datum → Except Failure Expr
  | .list items => do
    let nodes ← wrappedAll items
    Expr.listOf (nodes.map .expr)
  | d => Expr.literal d

def wrappedAll : List Datum → Except Failure (List Expr)
  | [] => .ok []
  | d :: ds => do
    let node ← d.wrapped
    let nodes ← wrappedAll ds
    return node :: nodes

end

/-! ## A list of nodes -/

theorem mapM_operand_expr (nodes : List Expr) : (nodes.map Datum.expr).mapM Expr.operand = .ok nodes := by
  induction nodes with
  | nil => rfl
  | cons node nodes ih =>
    rw [List.map_cons, List.mapM_cons, ih]
    rfl

theorem map_node_expr {nodes : List Expr} (h : ∀ node ∈ nodes, node.isForeign = false) :
    (nodes.map Datum.expr).map Datum.node = nodes.map .ok := by
  rw [List.map_map]
  apply List.map_congr_left
  intro node hn
  rw [Function.comp_apply, Datum.node, Expr.adopt, h node hn]
  rfl

theorem listOf_nodes {nodes : List Expr} (h : ∀ node ∈ nodes, node.isForeign = false) :
    Expr.listOf (nodes.map .expr) = .ok (.list nodes) := by
  have hnodes : (Datum.list (nodes.map .expr)).nodes = .ok nodes :=
    Datum.nodes_eq_ok_iff.mpr ⟨_, rfl, map_node_expr h⟩
  have hmake : Expr.construct .list [("value", .list (nodes.map .expr))] = .ok (.list nodes) := by
    rw [Expr.construct, Expr.assemble, Checked.also_eq_ok_iff]
    refine ⟨rfl, ?_⟩
    rw [Checked.map_eq_ok_iff]
    exact ⟨nodes, Part.withDefault_eq_ok_iff.mpr (.inr ⟨_, rfl, hnodes⟩), rfl⟩
  rw [Expr.listOf, mapM_operand_expr]
  change Expr.ofFields .list [("value", .list (nodes.map .expr))] = _
  rw [Expr.ofFields, hmake]
  rfl

/-! ## Values and nodes -/

theorem Expr.IsValue.not_foreign {e : Expr} (h : e.IsValue) : e.isForeign = false := by
  cases h <;> rfl

theorem wrappedAll_valuesOf {es : List Expr} (h : ∀ e ∈ es, e.value.wrapped = .ok e) :
    wrappedAll (valuesOf es) = .ok es := by
  induction es with
  | nil => rfl
  | cons e es ih =>
    rw [List.forall_mem_cons] at h
    rw [valuesOf, wrappedAll, h.1, ih h.2]
    rfl

theorem Expr.IsValue.wrapped_value {e : Expr} (h : e.IsValue) : e.value.wrapped = .ok e := by
  induction h with
  | string s | number n | bool b | null => rfl
  | @list items hitems ih =>
    rw [Expr.value, Datum.wrapped, wrappedAll_valuesOf ih]
    exact listOf_nodes fun e he => (hitems e he).not_foreign

theorem exists_valuesOf {ds : List Datum} (h : ∀ d ∈ ds, ∃ e : Expr, e.IsValue ∧ e.value = d) :
    ∃ es : List Expr, (∀ e ∈ es, e.IsValue) ∧ valuesOf es = ds := by
  induction ds with
  | nil => exact ⟨[], by simp, rfl⟩
  | cons d ds ih =>
    rw [List.forall_mem_cons] at h
    obtain ⟨⟨e, he, rfl⟩, hrest⟩ := h
    obtain ⟨es, hes, rfl⟩ := ih hrest
    exact ⟨e :: es, List.forall_mem_cons.mpr ⟨he, hes⟩, rfl⟩

theorem Datum.IsNative.exists_value {d : Datum} (h : d.IsNative) : ∃ e : Expr, e.IsValue ∧ e.value = d := by
  induction h with
  | null => exact ⟨.null, .null, rfl⟩
  | bool b => exact ⟨.bool b, .bool b, rfl⟩
  | number n => exact ⟨.number n, .number n, rfl⟩
  | text s => exact ⟨.string s, .string s, rfl⟩
  | list _ ih =>
    obtain ⟨es, hes, rfl⟩ := exists_valuesOf ih
    exact ⟨.list es, .list hes, rfl⟩

/-! ## The first node without a value -/

mutual

/-- The nodes under the lists of a node, from left to right. -/
def Expr.leaves : Expr → List Expr
  | .list items => leavesOf items
  | e => [e]

def leavesOf : List Expr → List Expr
  | [] => []
  | e :: es => e.leaves ++ leavesOf es

end

/-- Literals stand before the node, and it is none. -/
def FirstMisfit (leaves : List Expr) (x : Expr) : Prop :=
  ∃ before after, leaves = before ++ x :: after ∧ (∀ y ∈ before, y.form.isScalar = true) ∧
    x.form.isScalar = false

theorem FirstMisfit.append {leaves : List Expr} {x : Expr} (h : FirstMisfit leaves x)
    (more : List Expr) : FirstMisfit (leaves ++ more) x := by
  obtain ⟨before, after, rfl, hbefore, hx⟩ := h
  exact ⟨before, after ++ more, by simp, hbefore, hx⟩

theorem FirstMisfit.after_literals {front leaves : List Expr} {x : Expr} (h : FirstMisfit leaves x)
    (hfront : ∀ y ∈ front, y.form.isScalar = true) : FirstMisfit (front ++ leaves) x := by
  obtain ⟨before, after, rfl, hbefore, hx⟩ := h
  refine ⟨front ++ before, after, by simp, ?_, hx⟩
  intro y hy
  rcases List.mem_append.mp hy with hy | hy
  · exact hfront y hy
  · exact hbefore y hy

theorem firstMisfit_self {e : Expr} (h : e.form.isScalar = false) : FirstMisfit [e] e :=
  ⟨[], [], rfl, by simp, h⟩

theorem mem_leavesOf {es : List Expr} {x : Expr} (h : x ∈ leavesOf es) : ∃ e ∈ es, x ∈ e.leaves := by
  induction es with
  | nil => cases h
  | cons e es ih =>
    rcases List.mem_append.mp h with hx | hx
    · exact ⟨e, List.mem_cons_self .., hx⟩
    · obtain ⟨f, hf, hxf⟩ := ih hx
      exact ⟨f, List.mem_cons_of_mem _ hf, hxf⟩

theorem Expr.IsValue.leaves_literal {e : Expr} (h : e.IsValue) :
    ∀ x ∈ e.leaves, x.form.isScalar = true := by
  induction h with
  | string s | number n | bool b | null =>
    intro x hx
    rw [List.mem_singleton.mp hx]
    rfl
  | list _ ih =>
    intro x hx
    obtain ⟨e, he, hxe⟩ := mem_leavesOf hx
    exact ih e he x hxe

mutual

theorem Expr.firstMisfit_of_operandValue :
    ∀ (e : Expr) {cause : Rejection}, e.operandValue = .error cause →
      ∃ x, FirstMisfit e.leaves x ∧ cause = .operandNotLiteral x.kind
  | .string _, _, h | .number _, _, h | .bool _, _, h | .null, _, h => by cases h
  | .column .., _, h | .binary .., _, h | .unknown .., _, h => by
    cases h
    exact ⟨_, firstMisfit_self rfl, rfl⟩
  | .list items, cause, h => by
    rw [Expr.operandValue] at h
    cases hv : operandValues items with
    | ok ds => rw [hv] at h; cases h
    | error r =>
      rw [hv] at h
      cases h
      exact firstMisfit_of_operandValues items hv

theorem firstMisfit_of_operandValues :
    ∀ (es : List Expr) {cause : Rejection}, operandValues es = .error cause →
      ∃ x, FirstMisfit (leavesOf es) x ∧ cause = .operandNotLiteral x.kind
  | [], _, h => by cases h
  | e :: es, cause, h => by
    rw [operandValues] at h
    cases he : e.operandValue with
    | error r =>
      rw [he] at h
      cases h
      obtain ⟨x, hx, hc⟩ := e.firstMisfit_of_operandValue he
      exact ⟨x, hx.append _, hc⟩
    | ok d =>
      rw [he] at h
      cases hes : operandValues es with
      | ok ds => rw [hes] at h; cases h
      | error r =>
        rw [hes] at h
        cases h
        obtain ⟨x, hx, hc⟩ := firstMisfit_of_operandValues es hes
        have hliteral := (e.isValue_of_operandValue he).leaves_literal
        exact ⟨x, hx.after_literals hliteral, hc⟩

end

/-! ## Both ways -/

/-- A native datum is the value of what it is wrapped in, and a node that has a value is what the value is
wrapped in. The first leaf that is no literal is the reason why a node has none. -/
theorem wrapped_and_unwrapped :
    (∀ d : Datum, d.IsNative → ∃ e, d.wrapped = .ok e ∧ (Datum.expr e).operandValue = .ok d) ∧
    ∀ e : Expr,
      ((∃ d, (Datum.expr e).operandValue = .ok d) ↔ e.IsValue) ∧
      (∀ d, (Datum.expr e).operandValue = .ok d → d.wrapped = .ok e) ∧
      (¬ e.IsValue → ∃ x cause, FirstMisfit e.leaves x ∧
        (Datum.expr e).operandValue = .error cause ∧ cause.report.kind = .shape ∧
        cause.report.details = [("node_type", .text x.kind)]) := by
  constructor
  · intro d hd
    obtain ⟨e, he, rfl⟩ := hd.exists_value
    exact ⟨e, he.wrapped_value, he.operandValue⟩
  · intro e
    refine ⟨?_, ?_, ?_⟩
    · constructor
      · rintro ⟨d, hd⟩
        exact e.isValue_of_operandValue hd
      · intro he
        exact ⟨e.value, he.operandValue⟩
    · intro d hd
      obtain ⟨he, rfl⟩ := Expr.operandValue_eq_ok_iff.mp hd
      exact he.wrapped_value
    · intro hne
      cases hv : e.operandValue with
      | ok d => exact absurd (e.isValue_of_operandValue hv) hne
      | error cause =>
        obtain ⟨x, hx, rfl⟩ := e.firstMisfit_of_operandValue hv
        exact ⟨x, _, hx, hv, rfl, rfl⟩

theorem four_ones_wrapped :
    let one : Double := .ofDecimal false 1 0
    let ones : Datum := .list [.bool true, .number (.int 1), .list [.number (.double one), .text "1"]]
    let mixed : Expr := .list [.null, .list [.bool true, .column "age" none], .unknown "hint" []]
    (∃ e, ones.wrapped = .ok e ∧ (Datum.expr e).operandValue = .ok ones) ∧
      ∃ x cause, FirstMisfit mixed.leaves x ∧ (Datum.expr mixed).operandValue = .error cause ∧
        cause.report.kind = .shape ∧ cause.report.details = [("node_type", .text "column_ref")] := by
  intro one ones mixed
  have hinner : (Datum.list [.number (.double one), .text "1"]).IsNative := by
    apply Datum.IsNative.list
    simp only [List.forall_mem_cons]
    exact ⟨.number _, .text _, by simp⟩
  have hones : ones.IsNative := by
    apply Datum.IsNative.list
    simp only [List.forall_mem_cons]
    exact ⟨.bool _, .number _, hinner, by simp⟩
  have hmixed : ¬ mixed.IsValue := by
    intro h
    cases Expr.operandFlaw?_eq_none_iff.mpr h
  have hcolumn : (Datum.expr mixed).operandValue = .error (.operandNotLiteral "column_ref") := rfl
  obtain ⟨x, cause, hx, hv, hkind, -⟩ := (wrapped_and_unwrapped.2 mixed).2.2 hmixed
  obtain rfl := Except.error.inj (hcolumn.symm.trans hv)
  exact ⟨wrapped_and_unwrapped.1 ones hones, x, _, hx, hv, hkind, rfl⟩

end WhereClause

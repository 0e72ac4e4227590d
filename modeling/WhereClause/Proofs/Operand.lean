import WhereClause.Expr.Operand

/-! # What operands stand for

A literal stands for its value and a list of literals for the list of their values. Nothing else is
a value.
-/

namespace WhereClause

/-- A literal, or a list of values of any depth. -/
inductive Expr.IsValue : Expr → Prop
  | string (s : String) : IsValue (.string s)
  | number (n : Number) : IsValue (.number n)
  | bool (b : Bool) : IsValue (.bool b)
  | null : IsValue .null
  | list {items : List Expr} (h : ∀ e ∈ items, e.IsValue) : IsValue (.list items)

mutual

/-- A node that is no value stands for itself. -/
def Expr.value : Expr → Datum
  | .string s => .text s
  | .number n => .number n
  | .bool b => .bool b
  | .null => .null
  | .list items => .list (valuesOf items)
  | e => .expr e

def valuesOf : List Expr → List Datum
  | [] => []
  | e :: es => e.value :: valuesOf es

end

/-! ## Values have a value -/

theorem operandValues_of_forall {es : List Expr} (h : ∀ e ∈ es, e.operandValue = .ok e.value) :
    operandValues es = .ok (valuesOf es) := by
  induction es with
  | nil => rfl
  | cons e es ih =>
    rw [List.forall_mem_cons] at h
    rw [operandValues, h.1, ih h.2]
    rfl

theorem Expr.IsValue.operandValue {e : Expr} (h : e.IsValue) : e.operandValue = .ok e.value := by
  induction h with
  | string s | number n | bool b | null => rfl
  | list _ ih =>
    rw [Expr.operandValue, operandValues_of_forall ih]
    rfl

/-! ## Nothing else has one -/

mutual

theorem Expr.isValue_of_operandValue :
    ∀ (e : Expr) {d : Datum}, e.operandValue = .ok d → e.IsValue
  | .string s, _, _ => .string s
  | .number n, _, _ => .number n
  | .bool b, _, _ => .bool b
  | .null, _, _ => .null
  | .list items, d, h => by
    rw [Expr.operandValue] at h
    cases hv : operandValues items with
    | error r => rw [hv] at h; simp [Except.map] at h
    | ok ds => exact .list (forall_isValue_of_operandValues items hv)
  | .column .., _, h | .binary .., _, h | .unknown .., _, h => by simp [Expr.operandValue] at h

theorem forall_isValue_of_operandValues :
    ∀ (es : List Expr) {ds : List Datum}, operandValues es = .ok ds → ∀ e ∈ es, e.IsValue
  | [], _, _ => by simp
  | e :: es, ds, h => by
    rw [operandValues] at h
    cases he : e.operandValue with
    | error r => rw [he] at h; simp at h
    | ok d =>
      cases hes : operandValues es with
      | error r => rw [he, hes] at h; simp [Except.map] at h
      | ok rest =>
        rw [List.forall_mem_cons]
        exact ⟨e.isValue_of_operandValue he, forall_isValue_of_operandValues es hes⟩

end

theorem Expr.operandValue_eq_ok_iff {e : Expr} {d : Datum} :
    e.operandValue = .ok d ↔ e.IsValue ∧ d = e.value := by
  constructor
  · intro h
    have hv := e.isValue_of_operandValue h
    rw [hv.operandValue] at h
    exact ⟨hv, (Except.ok.inj h).symm⟩
  · rintro ⟨h, rfl⟩
    exact h.operandValue

/-! ## Why a node is no value -/

/-- The first fault of a node as an operand. -/
def Expr.operandFlaw? (e : Expr) : Option Rejection :=
  match e.operandValue with
  | .ok _ => none
  | .error cause => some cause

theorem Expr.operandFlaw?_eq_none_iff {e : Expr} : e.operandFlaw? = none ↔ e.IsValue := by
  unfold operandFlaw?
  cases h : e.operandValue with
  | ok d => simpa using (operandValue_eq_ok_iff.mp h).1
  | error cause =>
    simp only [reduceCtorEq, false_iff]
    intro hv
    rw [hv.operandValue] at h
    exact absurd h (by simp)

end WhereClause

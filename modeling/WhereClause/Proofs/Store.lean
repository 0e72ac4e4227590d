import WhereClause.Proofs.Condition
import WhereClause.Proofs.PrefixRange

/-! # What a store answers

A store compares the values that documents hold with the values of filters. A query is answered with
the documents that pass all of its filters.
-/

namespace WhereClause

/-- A field holds at most one value. -/
structure Document (V : Type) where
  value? : String → Option V

structure Store (V : Type) where
  /-- How a held value compares with the value of a filter, if they can be compared. -/
  order? : V → Datum → Option Ordering
  /-- The tests of the operators that do not compare. -/
  special : String → V → Datum → Prop

namespace Store

variable {V : Type} (store : Store V)

def less (v : V) (d : Datum) : Prop := store.order? v d = some .lt

def equal (v : V) (d : Datum) : Prop := store.order? v d = some .eq

def greater (v : V) (d : Datum) : Prop := store.order? v d = some .gt

/-- What an operator asks of a held value. -/
def test (op : String) (v : V) (d : Datum) : Prop :=
  match op with
  | "==" => store.equal v d
  | "<" => store.less v d
  | "<=" => store.less v d ∨ store.equal v d
  | ">" => store.greater v d
  | ">=" => store.greater v d ∨ store.equal v d
  | op => store.special op v d

/-- No filter is passed by a field that is absent. -/
def passes (doc : Document V) (f : Filter) : Prop :=
  ∃ v, doc.value? f.field = some v ∧ store.test f.op v f.value

/-- Only the store's own queries are answered. -/
def answers (doc : Document V) : Query → Prop
  | .filtered _ filters => ∀ f ∈ filters, store.passes doc f
  | .recorder _ _ | .sealed => False

/-- A clause holds where all of its conditions do. -/
def grants (doc : Document V) (clause : Clause) : Prop := ∀ c ∈ clause, store.passes doc c.filter

/-! ## Narrowed queries -/

variable {store} {doc : Document V}

theorem answers_narrow (q : Query) (clause : Clause) :
    store.answers doc (q.narrow clause) ↔ store.answers doc q ∧ store.grants doc clause := by
  cases q with
  | filtered collection filters =>
    simp only [Query.narrow, answers, grants, List.forall_mem_append, List.forall_mem_map]
  | recorder name notes | sealed => simp [Query.narrow, answers]

theorem exists_answers_spread (clauses : List Clause) (qs : List Query) :
    (∃ q ∈ spread clauses qs, store.answers doc q) ↔
      (∃ q ∈ qs, store.answers doc q) ∧ ∃ clause ∈ clauses, store.grants doc clause := by
  simp only [spread, List.mem_flatMap, List.mem_map]
  constructor
  · rintro ⟨_, ⟨clause, hc, q, hq, rfl⟩, ha⟩
    rw [answers_narrow] at ha
    exact ⟨⟨q, hq, ha.1⟩, clause, hc, ha.2⟩
  · rintro ⟨⟨q, hq, ha⟩, clause, hc, hg⟩
    exact ⟨_, ⟨clause, hc, q, hq, rfl⟩, (answers_narrow q clause).mpr ⟨ha, hg⟩⟩

theorem grants_append (l r : Clause) :
    store.grants doc (l ++ r) ↔ store.grants doc l ∧ store.grants doc r := List.forall_mem_append

theorem exists_grants_crossed (ls rs : List Clause) :
    (∃ clause ∈ crossed ls rs, store.grants doc clause) ↔
      (∃ l ∈ ls, store.grants doc l) ∧ ∃ r ∈ rs, store.grants doc r := by
  simp only [crossed, List.mem_flatMap, List.mem_map]
  constructor
  · rintro ⟨_, ⟨r, hr, l, hl, rfl⟩, hg⟩
    rw [grants_append] at hg
    exact ⟨⟨l, hl, hg.1⟩, r, hr, hg.2⟩
  · rintro ⟨⟨l, hl, hgl⟩, r, hr, hgr⟩
    exact ⟨_, ⟨r, hr, l, hl, rfl⟩, (grants_append l r).mpr ⟨hgl, hgr⟩⟩

/-! ## Clauses on one field -/

/-- Conditions put to the value that one field holds. -/
def accepts (store : Store V) (v : V) (clause : Clause) : Prop :=
  ∀ c ∈ clause, store.test c.op.text v c.value

theorem accepts_cons (v : V) (c : Condition) (clause : Clause) :
    store.accepts v (c :: clause) ↔ store.test c.op.text v c.value ∧ store.accepts v clause :=
  List.forall_mem_cons

theorem accepts_nil (v : V) : store.accepts v [] := fun _ h => absurd h List.not_mem_nil

end Store

/-- At least one condition, and all of them on the one field. -/
def OnField (name : String) (clause : Clause) : Prop := clause ≠ [] ∧ ∀ c ∈ clause, c.field = name

namespace Store

variable {V : Type} {store : Store V} {doc : Document V}

theorem grants_iff_of_onField {name : String} {clause : Clause} (h : OnField name clause) :
    store.grants doc clause ↔ ∃ v, doc.value? name = some v ∧ store.accepts v clause := by
  obtain ⟨hne, hfield⟩ := h
  constructor
  · intro hg
    obtain ⟨first, hfirst⟩ := List.exists_mem_of_ne_nil clause hne
    obtain ⟨v, hv, -⟩ := hg first hfirst
    have hname : doc.value? name = some v := by rw [← hfield first hfirst]; exact hv
    refine ⟨v, hname, fun c hc => ?_⟩
    obtain ⟨w, hw, htest⟩ := hg c hc
    change doc.value? c.field = some w at hw
    rw [hfield c hc, hname] at hw
    rw [Option.some.inj hw]
    exact htest
  · rintro ⟨v, hv, ha⟩ c hc
    exact ⟨v, by rw [← hfield c hc] at hv; exact hv, ha c hc⟩

theorem exists_grants_of_onField {name : String} {clauses : List Clause}
    (h : ∀ clause ∈ clauses, OnField name clause) :
    (∃ clause ∈ clauses, store.grants doc clause) ↔
      ∃ v, doc.value? name = some v ∧ ∃ clause ∈ clauses, store.accepts v clause := by
  constructor
  · rintro ⟨clause, hc, hg⟩
    obtain ⟨v, hv, ha⟩ := (grants_iff_of_onField (h clause hc)).mp hg
    exact ⟨v, hv, clause, hc, ha⟩
  · rintro ⟨v, hv, clause, hc, ha⟩
    exact ⟨clause, hc, (grants_iff_of_onField (h clause hc)).mpr ⟨v, hv, ha⟩⟩

end Store

/-! ## Texts and truth values -/

/-- A store that tells the types of held values apart. Texts are compared by code point, false is
below true, and neither compares with a value of another type. -/
structure TypedStore (V : Type) extends Store V where
  text? : V → Option String
  truth? : V → Option Bool
  order?_text : ∀ v t, order? v (.text t) = (text? v).map fun s => compare s t
  order?_bool : ∀ v b, order? v (.bool b) = (truth? v).map fun a => compare a b

namespace TypedStore

variable {V : Type} (store : TypedStore V)

theorem compare_text_lt {s t : String} : compare s t = .lt ↔ s < t := compareOfLessAndEq_eq_lt

theorem compare_text_ge {s t : String} : compare s t = .gt ∨ s = t ↔ t ≤ s := by
  rw [← String.not_lt, ← compare_text_lt, ← Std.compare_eq_iff_eq (a := s)]
  cases compare s t <;> simp

theorem equal_text (v : V) (t : String) : store.equal v (.text t) ↔ store.text? v = some t := by
  simp [Store.equal, store.order?_text]

theorem less_text (v : V) (t : String) :
    store.less v (.text t) ↔ ∃ s, store.text? v = some s ∧ s < t := by
  simp [Store.less, store.order?_text, compare_text_lt]

theorem atLeast_text (v : V) (t : String) :
    store.greater v (.text t) ∨ store.equal v (.text t) ↔ ∃ s, store.text? v = some s ∧ t ≤ s := by
  simp only [Store.greater, Store.equal, store.order?_text]
  cases store.text? v with
  | none => simp
  | some s => simp [compare_text_ge]

theorem equal_bool (v : V) (b : Bool) : store.equal v (.bool b) ↔ store.truth? v = some b := by
  simp only [Store.equal, store.order?_bool]
  cases store.truth? v with
  | none => simp
  | some a => cases a <;> cases b <;> decide

theorem equal_bool_not (v : V) (b : Bool) :
    store.equal v (.bool !b) ↔ store.less v (.bool b) ∨ store.greater v (.bool b) := by
  simp only [Store.equal, Store.less, Store.greater, store.order?_bool]
  cases store.truth? v with
  | none => simp
  | some a => cases a <;> cases b <;> decide

end TypedStore

/-! ## Documents of data -/

/-- The amount of a number in units of the smallest double. -/
def Number.amount? : Number → Option Int
  | int n => some (n * Double.one)
  | double x => x.units?

/-- Only data of one type compare. -/
def Datum.order? : Datum → Datum → Option Ordering
  | .null, .null => some .eq
  | .bool a, .bool b => some (compare a b)
  | .number m, .number n => do return compare (← m.amount?) (← n.amount?)
  | .text s, .text t => some (compare s t)
  | _, _ => none

/-- What a list holds, or one of what it holds. -/
def Datum.contains (op : String) : Datum → Datum → Prop
  | .list items, d =>
    match op, d with
    | "array-contains", d => ∃ x ∈ items, x.order? d = some .eq
    | "array-contains-any", .list ds => ∃ d ∈ ds, ∃ x ∈ items, x.order? d = some .eq
    | _, _ => False
  | _, _ => False

def dataStore : TypedStore Datum where
  order? := Datum.order?
  special := Datum.contains
  text?
    | .text s => some s
    | _ => none
  truth?
    | .bool b => some b
    | _ => none
  order?_text v t := by cases v <;> rfl
  order?_bool v b := by cases v <;> rfl

end WhereClause

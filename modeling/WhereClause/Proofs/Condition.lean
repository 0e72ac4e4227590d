import WhereClause.Plan.Clause
import WhereClause.Proofs.Operand

/-! # Conditions on queries

A condition is a filter that a clause asks for. Every step of a plan either stops, or puts a list of
conditions to every query, once for each alternative.
-/

namespace WhereClause

structure Condition where
  field : String
  op : StoreOp
  value : Datum

/-- Conditions that hold together. -/
abbrev Clause := List Condition

namespace Condition

def filter (c : Condition) : Filter := ⟨c.field, c.op.text, c.value, none⟩

/-- The condition as a recorder notes it. -/
def note (c : Condition) : Datum × Datum × Datum := (.text c.field, .text c.op.text, c.value)

end Condition

namespace Query

/-- The query with the conditions of a clause at its end. -/
def narrow : Query → Clause → Query
  | filtered collection filters, clause => filtered collection (filters ++ clause.map Condition.filter)
  | recorder name notes, clause => recorder name (notes ++ clause.map Condition.note)
  | sealed, _ => sealed

theorem narrow_append (q : Query) (c d : Clause) : q.narrow (c ++ d) = (q.narrow c).narrow d := by
  cases q <;> simp [narrow]

theorem narrow_eq_sealed {q : Query} {c : Clause} (h : q.narrow c = sealed) : q = sealed := by
  cases q <;> simp [narrow] at h ⊢

theorem refine_of_ne_sealed {q : Query} (h : q ≠ sealed) (c : Condition) :
    q.refine (.text c.field) (.text c.op.text) c.value = .ok (q.narrow [c]) := by
  cases q with
  | filtered collection filters => rfl
  | recorder name notes => rfl
  | sealed => exact absurd rfl h

end Query

/-! ## Alternatives -/

/-- Every query under each alternative, one alternative after the other. -/
def spread (clauses : List Clause) (queries : List Query) : List Query :=
  clauses.flatMap fun c => queries.map fun q => q.narrow c

/-- One of the left with one of the right. The right one changes last. -/
def crossed (left right : List Clause) : List Clause :=
  right.flatMap fun r => left.map fun l => l ++ r

theorem spread_append (ls rs : List Clause) (qs : List Query) :
    spread (ls ++ rs) qs = spread ls qs ++ spread rs qs := by
  simp [spread]

theorem spread_crossed (ls rs : List Clause) (qs : List Query) :
    spread (crossed ls rs) qs = spread rs (spread ls qs) := by
  simp only [spread, crossed, List.flatMap_assoc, List.flatMap_map, List.map_flatMap, List.map_map]
  simp only [Function.comp_def, Query.narrow_append]

theorem spread_one (c : Clause) (qs : List Query) : spread [c] qs = qs.map fun q => q.narrow c := by
  simp [spread]

theorem sealed_mem_spread {clauses : List Clause} {qs : List Query}
    (h : .sealed ∈ spread clauses qs) : .sealed ∈ qs := by
  simp only [spread, List.mem_flatMap, List.mem_map] at h
  obtain ⟨c, -, q, hq, hs⟩ := h
  rwa [Query.narrow_eq_sealed hs] at hq

/-! ## How a step ends -/

/-- A step that has the given flaw and the given alternatives is rejected for its flaw, or stops at a
sealed query, or spreads its alternatives. -/
inductive Outcome (flaw? : Option Rejection) (clauses : List Clause) (queries : List Query) :
    Except Failure (List Query) → Prop
  | rejected {cause : Rejection} (h : flaw? = some cause) :
    Outcome flaw? clauses queries (.error (.rejected cause))
  | sealed (h : .sealed ∈ queries) : Outcome flaw? clauses queries (.error .sealed)
  | planned (h : flaw? = none) (hs : .sealed ∈ queries → clauses = []) :
    Outcome flaw? clauses queries (.ok (spread clauses queries))

namespace Outcome

variable {fl fr : Option Rejection} {ls rs : List Clause} {qs : List Query}
  {x y : Except Failure (List Query)}

theorem andThen {f : List Query → Except Failure (List Query)} (hx : Outcome fl ls qs x)
    (hf : ∀ narrowed, Outcome fr rs narrowed (f narrowed)) :
    Outcome (fl.or fr) (crossed ls rs) qs (x.bind f) := by
  cases hx with
  | rejected h => exact rejected (by rw [h]; rfl)
  | sealed h => exact sealed h
  | planned hl hls =>
    subst hl
    have hr := hf (spread ls qs)
    change Outcome _ _ _ (f (spread ls qs))
    cases hfx : f (spread ls qs) with
    | error e =>
      rw [hfx] at hr
      cases hr with
      | rejected h => exact rejected h
      | sealed h => exact sealed (sealed_mem_spread h)
    | ok out =>
      rw [hfx] at hr
      cases hr with
      | planned h hrs =>
        rw [← spread_crossed]
        refine planned h fun hq => ?_
        simp [hls hq, crossed]

theorem both (hx : Outcome fl ls qs x) (hy : Outcome fr rs qs y) :
    Outcome (fl.or fr) (ls ++ rs) qs (x.bind fun a => y.bind fun b => .ok (a ++ b)) := by
  cases hx with
  | rejected h => exact rejected (by rw [h]; rfl)
  | sealed h => exact sealed h
  | planned hl hls =>
    subst hl
    cases hy with
    | rejected h => exact rejected h
    | sealed h => exact sealed h
    | planned hr hrs =>
      change Outcome _ _ _ (.ok (spread ls qs ++ spread rs qs))
      rw [← spread_append]
      refine planned hr fun hq => ?_
      rw [hls hq, hrs hq]
      rfl

theorem eq_spread {out : List Query} (h : Outcome fl ls qs (.ok out)) : out = spread ls qs := by
  cases h with
  | planned h hs => rfl

theorem ok_of_not_sealed (h : Outcome none ls qs x) (hq : .sealed ∉ qs) :
    x = .ok (spread ls qs) := by
  cases h with
  | rejected h => cases h
  | sealed h => exact absurd h hq
  | planned h hs => rfl

theorem rejected_of_not_sealed {cause : Rejection} (h : Outcome (some cause) ls qs x)
    (hq : .sealed ∉ qs) : x = .error (.rejected cause) := by
  cases h with
  | rejected h => rw [Option.some.inj h]
  | sealed h => exact absurd h hq
  | planned h hs => cases h

end Outcome

/-! ## One condition on every query -/

variable {qs : List Query}

theorem refineAll_of_not_sealed (h : .sealed ∉ qs) (c : Condition) :
    refineAll (.text c.field) (.text c.op.text) c.value qs = .ok (spread [[c]] qs) := by
  rw [spread_one]
  induction qs with
  | nil => rfl
  | cons q qs ih =>
    rw [List.mem_cons, not_or] at h
    rw [refineAll, Query.refine_of_ne_sealed (Ne.symm h.1), ih h.2]
    rfl

theorem refineAll_of_sealed (h : .sealed ∈ qs) (c : Condition) :
    refineAll (.text c.field) (.text c.op.text) c.value qs = .error .sealed := by
  induction qs with
  | nil => cases h
  | cons q qs ih =>
    rw [refineAll]
    by_cases hq : q = .sealed
    · rw [hq]; rfl
    · rw [Query.refine_of_ne_sealed hq, ih (List.mem_of_ne_of_mem (Ne.symm hq) h)]
      rfl

theorem refineAll_outcome (qs : List Query) (c : Condition) :
    Outcome none [[c]] qs (refineAll (.text c.field) (.text c.op.text) c.value qs) := by
  by_cases h : .sealed ∈ qs
  · rw [refineAll_of_sealed h]
    exact .sealed h
  · rw [refineAll_of_not_sealed h]
    exact .planned rfl fun hs => absurd hs h

theorem restrict_outcome {token : String} {op : StoreOp} (ho : StoreOp.ofToken token = .ok op)
    (qs : List Query) (name : String) (operand : Expr) :
    Outcome operand.operandFlaw? [[⟨name, op, operand.value⟩]] qs
      (restrict qs (.text name) (.text token) (.expr operand)) := by
  rw [restrict, StoreOp.ofDatum, ho, Datum.operandValue, Expr.operandFlaw?]
  cases hv : operand.operandValue with
  | error cause => exact .rejected rfl
  | ok d =>
    rw [(Expr.operandValue_eq_ok_iff.mp hv).2]
    exact refineAll_outcome qs ⟨name, op, operand.value⟩

/-! ## Comparisons -/

/-- The first fault of a comparison with an operand. The token is checked before the operand. -/
def comparisonFlaw? (token : String) (operand : Expr) : Option Rejection :=
  if token = "!=" ∨ token = "<>" then operand.operandFlaw?
  else match StoreOp.ofToken token with
    | .ok _ => operand.operandFlaw?
    | .error cause => some cause

/-- The alternatives of a comparison. Not-equal has two, and only one on a truth value. -/
def comparisonClauses (name token : String) (operand : Expr) : List Clause :=
  if token = "!=" ∨ token = "<>" then
    match operand with
    | .bool b => [[⟨name, .equal, .bool !b⟩]]
    | _ => [[⟨name, .less, operand.value⟩], [⟨name, .greater, operand.value⟩]]
  else match StoreOp.ofToken? token with
    | some op => [[⟨name, op, operand.value⟩]]
    | none => []

theorem StoreOp.ofToken?_of_ofToken {token : String} {op : StoreOp} (h : ofToken token = .ok op) :
    ofToken? token = some op := by
  unfold ofToken at h
  split at h
  · cases h
  · cases hs : ofToken? token with
    | none => rw [hs] at h; cases h
    | some found => rw [hs] at h; rw [Except.ok.inj h]

theorem notEqual?_eq_none {token : String} (h : ¬ (token = "!=" ∨ token = "<>")) :
    notEqual? (.text token) = none := if_neg h

theorem notEqual?_eq_some {token : String} (h : token = "!=" ∨ token = "<>") :
    notEqual? (.text token) = some token := if_pos h

theorem below_above_outcome (qs : List Query) (name : String) (operand : Expr) :
    Outcome operand.operandFlaw?
      [[⟨name, .less, operand.value⟩], [⟨name, .greater, operand.value⟩]] qs
      ((restrict qs (.text name) (.text "<") (.expr operand)).bind fun below =>
        (restrict qs (.text name) (.text ">") (.expr operand)).bind fun above =>
          .ok (below ++ above)) := by
  have hless : StoreOp.ofToken "<" = .ok .less := rfl
  have hgreater : StoreOp.ofToken ">" = .ok .greater := rfl
  have h := (restrict_outcome hless qs name operand).both (restrict_outcome hgreater qs name operand)
  rwa [Option.or_self] at h

theorem constrain_outcome_of_ofToken {token : String} {op : StoreOp}
    (hne : ¬ (token = "!=" ∨ token = "<>")) (ho : StoreOp.ofToken token = .ok op)
    (qs : List Query) (name : String) (operand : Expr) :
    Outcome operand.operandFlaw? [[⟨name, op, operand.value⟩]] qs
      (constrain qs (.text name) (.text token) (.expr operand)).result := by
  rw [constrain, notEqual?_eq_none hne]
  exact restrict_outcome ho qs name operand

theorem constrain_outcome (qs : List Query) (name token : String) (operand : Expr) :
    Outcome (comparisonFlaw? token operand) (comparisonClauses name token operand) qs
      (constrain qs (.text name) (.text token) (.expr operand)).result := by
  unfold comparisonFlaw? comparisonClauses
  by_cases hne : token = "!=" ∨ token = "<>"
  · rw [constrain, notEqual?_eq_some hne, if_pos hne, if_pos hne]
    have hequal : StoreOp.ofToken "=" = .ok .equal := rfl
    cases operand
    case bool b => exact restrict_outcome hequal qs name (.bool !b)
    -- On any other operand the two halves are taken one after the other.
    all_goals
      simp only [Datum.truth?, Traced.result_bind, Traced.result_note, Traced.result_ofResult,
        Traced.result_pure]
      exact below_above_outcome qs name _
  · rw [if_neg hne, if_neg hne]
    cases ho : StoreOp.ofToken token with
    | error cause =>
      rw [constrain, notEqual?_eq_none hne]
      rw [Traced.result_ofResult, restrict, StoreOp.ofDatum, ho]
      exact .rejected rfl
    | ok op =>
      rw [StoreOp.ofToken?_of_ofToken ho]
      exact constrain_outcome_of_ofToken hne ho qs name operand

end WhereClause

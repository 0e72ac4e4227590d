import Mathlib.Data.List.Forall2
import Mathlib.Data.List.Perm.Basic
import WhereClause.Proofs.Supported

/-! # The order of queries

The sides of AND can be exchanged, and AND can be taken into the sides of OR. The queries of the plan
are then the same ones, and only their order changes, or that of the filters that are added to them.
-/

namespace WhereClause

/-- The same clauses in any order, each with its conditions in any order. -/
def Rearranged (cs ds : List Clause) : Prop := ∃ ms, List.Forall₂ List.Perm cs ms ∧ ms.Perm ds

/-- The same queries in any order, each with what was added to its seed in any order. -/
def Reordered (seeds qs rs : List Query) : Prop :=
  ∃ cs ds, qs = spread cs seeds ∧ rs = spread ds seeds ∧ Rearranged cs ds

/-- Both plans succeed, with queries that are so related, or both fail. -/
inductive Concordant (related : List Query → List Query → Prop) :
    Except Failure (List Query) → Except Failure (List Query) → Prop
  | succeed {qs rs : List Query} (h : related qs rs) : Concordant related (.ok qs) (.ok rs)
  | fail (e f : Failure) : Concordant related (.error e) (.error f)

/-! ## Alternatives in another order -/

theorem flatMap_map_perm {α β γ : Type} (f : α → β → γ) (as : List α) (bs : List β) :
    (bs.flatMap fun b => as.map fun a => f a b).Perm (as.flatMap fun a => bs.map fun b => f a b) := by
  induction as with
  | nil => simp
  | cons a as ih =>
    have hcolumns := List.map_append_flatMap_perm bs (f a) fun b => as.map fun x => f x b
    exact hcolumns.symm.trans (ih.append_left (bs.map (f a)))

theorem rearranged_crossed (ls rs : List Clause) : Rearranged (crossed ls rs) (crossed rs ls) := by
  -- The sides of each pair are exchanged in place, and then the pairs are taken the other way.
  refine ⟨rs.flatMap fun r => ls.map fun l => r ++ l, ?_, ?_⟩
  · refine List.rel_flatMap (List.forall₂_same.mpr fun r _ => rfl) ?_
    rintro r _ rfl
    rw [List.forall₂_map_left_iff, List.forall₂_map_right_iff]
    exact List.forall₂_same.mpr fun l _ => List.perm_append_comm
  · exact flatMap_map_perm (fun l r => r ++ l) ls rs

theorem crossed_append_perm (ks ls rs : List Clause) :
    (crossed (ks ++ ls) rs).Perm (crossed ks rs ++ crossed ls rs) := by
  unfold crossed
  simp only [List.map_append]
  exact (List.flatMap_append_perm rs _ _).symm

theorem spread_perm {cs ds : List Clause} (h : cs.Perm ds) (qs : List Query) :
    (spread cs qs).Perm (spread ds qs) := h.flatMap_right _

/-! ## Nodes in another order -/

theorem concordant_of_spread {related : List Query → List Query → Prop} {e f : Expr}
    (hs : e.Supported ↔ f.Supported) {qs : List Query}
    (hr : related (spread e.clauses qs) (spread f.clauses qs)) (warn : Bool) (hq : .sealed ∉ qs) :
    Concordant related (planDatum warn qs (.expr e)).result (planDatum warn qs (.expr f)).result := by
  by_cases he : e.Supported
  · rw [planDatum_ok_of_supported he warn hq, planDatum_ok_of_supported (hs.mp he) warn hq]
    exact .succeed hr
  · obtain ⟨x, hx⟩ := planDatum_error_of_not_supported he warn hq
    obtain ⟨y, hy⟩ := planDatum_error_of_not_supported (fun h => he (hs.mpr h)) warn hq
    rw [hx, hy]
    exact .fail x y

/-- The sides of a conjunction can be exchanged, and a conjunction distributes over a disjunction on
its left without a change inside any query. -/
theorem conjunction_reordered (a b c : Expr) (warn : Bool) {qs : List Query} (hq : .sealed ∉ qs) :
    Concordant (Reordered qs)
      (planDatum warn qs (.expr (.binary "AND" a b))).result
      (planDatum warn qs (.expr (.binary "AND" b a))).result ∧
    Concordant List.Perm
      (planDatum warn qs (.expr (.binary "AND" (.binary "OR" a b) c))).result
      (planDatum warn qs (.expr (.binary "OR" (.binary "AND" a c) (.binary "AND" b c)))).result := by
  constructor
  · have hs : (Expr.binary "AND" a b).Supported ↔ (Expr.binary "AND" b a).Supported := by
      rw [Expr.supported_conjunction_iff, Expr.supported_conjunction_iff, and_comm]
    refine concordant_of_spread hs ?_ warn hq
    exact ⟨_, _, rfl, rfl, rearranged_crossed a.clauses b.clauses⟩
  · have hs : (Expr.binary "AND" (.binary "OR" a b) c).Supported ↔
        (Expr.binary "OR" (.binary "AND" a c) (.binary "AND" b c)).Supported := by
      simp only [Expr.supported_conjunction_iff, Expr.supported_disjunction_iff]
      exact and_and_right
    refine concordant_of_spread hs ?_ warn hq
    exact spread_perm (crossed_append_perm a.clauses b.clauses c.clauses) qs

theorem conjunction_reordered_on_two_seeds :
    let a : Expr := .binary "IN" (.column "city" none) (.list [.string "Rome", .string "Oslo"])
    let b : Expr := .binary "<>" (.column "age" none) (.number (.int 3))
    let c : Expr := .column "open" none
    let seeds : List Query :=
      [.filtered none [], .filtered (some "shops") [⟨"owner", "==", .text "me", none⟩]]
    Query.sealed ∉ seeds ∧
      (∃ out out', (planDatum true seeds (.expr (.binary "AND" a b))).result = .ok out ∧
        (planDatum true seeds (.expr (.binary "AND" b a))).result = .ok out' ∧
        Reordered seeds out out' ∧ out.length = 8) ∧
      ∃ out out', (planDatum true seeds (.expr (.binary "AND" (.binary "OR" a b) c))).result = .ok out ∧
        (planDatum true seeds
          (.expr (.binary "OR" (.binary "AND" a c) (.binary "AND" b c)))).result = .ok out' ∧
        out.Perm out' ∧ out.length = 8 := by
  intro a b c seeds
  have hq : Query.sealed ∉ seeds := by simp [seeds]
  have planned (e : Expr) (hs : e.Supported) :
      (planDatum true seeds (.expr e)).result = .ok (spread e.clauses seeds) :=
    planDatum_ok_of_supported hs true hq
  have hab := planned (.binary "AND" a b) (by decide)
  have hba := planned (.binary "AND" b a) (by decide)
  have hor := planned (.binary "AND" (.binary "OR" a b) c) (by decide)
  have hin := planned (.binary "OR" (.binary "AND" a c) (.binary "AND" b c)) (by decide)
  obtain ⟨hcomm, hdist⟩ := conjunction_reordered a b c true hq
  rw [hab, hba] at hcomm
  rw [hor, hin] at hdist
  cases hcomm with
  | succeed hreordered =>
    cases hdist with
    | succeed hperm => exact ⟨hq, ⟨_, _, hab, hba, hreordered, rfl⟩, _, _, hor, hin, hperm, rfl⟩

end WhereClause

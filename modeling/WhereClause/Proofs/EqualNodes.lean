import Mathlib.Data.List.Forall2
import WhereClause.Proofs.FanOut

/-! # Plans of equal nodes

Of two nodes that compare equal one can hold `1` where the other one holds `1.0`. They are planned alike,
with equal queries or the same failure, and with the same events.
-/

namespace WhereClause

/-! ## Ends that agree -/

/-- Both end with related values, or both with the same error. -/
inductive SameEnd {α β ε : Type} (related : α → β → Prop) : Except ε α → Except ε β → Prop
  | ok {a : α} {b : β} (h : related a b) : SameEnd related (.ok a) (.ok b)
  | error (e : ε) : SameEnd related (.error e) (.error e)

/-- Both tell the same and end alike. -/
structure Traced.Agree {α β : Type} (related : α → β → Prop) (x : Traced α) (y : Traced β) : Prop where
  events : x.events = y.events
  ends : SameEnd related x.result y.result

section

variable {α β γ δ ε : Type} {r : α → β → Prop} {s : γ → δ → Prop}

theorem SameEnd.bind {x : Except ε α} {y : Except ε β} {f : α → Except ε γ} {g : β → Except ε δ}
    (h : SameEnd r x y) (hf : ∀ a b, r a b → SameEnd s (f a) (g b)) :
    SameEnd s (x.bind f) (y.bind g) := by
  cases h with
  | ok h => exact hf _ _ h
  | error e => exact .error e

theorem SameEnd.map {x : Except ε α} {y : Except ε β} {f : α → γ} {g : β → δ}
    (h : SameEnd r x y) (hf : ∀ a b, r a b → s (f a) (g b)) : SameEnd s (x.map f) (y.map g) := by
  cases h with
  | ok h => exact .ok (hf _ _ h)
  | error e => exact .error e

theorem SameEnd.imp {r' : α → β → Prop} {x : Except ε α} {y : Except ε β} (h : SameEnd r x y)
    (hr : ∀ a b, r a b → r' a b) : SameEnd r' x y := by
  cases h with
  | ok h => exact .ok (hr _ _ h)
  | error e => exact .error e

namespace Traced

theorem Agree.imp {r' : α → β → Prop} {x : Traced α} {y : Traced β} (h : Agree r x y)
    (hr : ∀ a b, r a b → r' a b) : Agree r' x y := ⟨h.events, h.ends.imp hr⟩

theorem agree_pure {a : α} {b : β} (h : r a b) : Agree r (pure a) (pure b) := ⟨rfl, .ok h⟩

theorem agree_reject (cause : Rejection) : Agree r (reject cause) (reject cause) := ⟨rfl, .error _⟩

theorem agree_ofResult {x : Except Failure α} {y : Except Failure β} (h : SameEnd r x y) :
    Agree r (ofResult x) (ofResult y) := ⟨rfl, h⟩

theorem agree_note (e : Event) : Agree Eq (note e) (note e) := ⟨rfl, .ok rfl⟩

theorem agree_noteAll (events : List Event) : Agree Eq (noteAll events) (noteAll events) := ⟨rfl, .ok rfl⟩

theorem Agree.bind {x : Traced α} {y : Traced β} {f : α → Traced γ} {g : β → Traced δ}
    (h : Agree r x y) (hf : ∀ a b, r a b → Agree s (f a) (g b)) : Agree s (x >>= f) (y >>= g) := by
  obtain ⟨xs, x⟩ := x
  obtain ⟨ys, y⟩ := y
  obtain ⟨rfl, hends⟩ := h
  cases hends with
  | ok h =>
    have hab := hf _ _ h
    exact ⟨congrArg (xs ++ ·) hab.events, hab.ends⟩
  | error e => exact ⟨rfl, .error e⟩

theorem Agree.note_bind (e : Event) {x : Traced γ} {y : Traced δ} (h : Agree s x y) :
    Agree s (note e >>= fun _ => x) (note e >>= fun _ => y) := (agree_note e).bind fun _ _ _ => h

end Traced

end

/-! ## Equal nodes -/

/-- What two equal nodes have in common at their top. -/
inductive Expr.SameTop : Expr → Expr → Prop
  | string (s : String) : SameTop (.string s) (.string s)
  | number {m n : Number} (h : m.same n = true) : SameTop (.number m) (.number n)
  | bool (b : Bool) : SameTop (.bool b) (.bool b)
  | null : SameTop .null .null
  | column (name : String) (table : Option String) : SameTop (.column name table) (.column name table)
  | list {xs ys : List Expr} (h : sameNodes xs ys = true) : SameTop (.list xs) (.list ys)
  | binary (operator : String) {l r m s : Expr} (hl : l.same m = true) (hr : r.same s = true) :
    SameTop (.binary operator l r) (.binary operator m s)
  | unknown (kind : String) (es fs : List (String × Datum)) :
    SameTop (.unknown kind es) (.unknown kind fs)

theorem Expr.sameTop_of_same {a b : Expr} (h : a.same b = true) : a.SameTop b := by
  cases a with
  | string s => cases b <;> simp [same] at h; subst h; exact .string s
  | number m => cases b <;> simp [same] at h; exact .number h
  | bool v => cases b <;> simp [same] at h; subst h; exact .bool v
  | null => cases b <;> simp [same] at h; exact .null
  | column name table =>
    cases b <;> simp [same] at h
    obtain ⟨rfl, rfl⟩ := h
    exact .column name table
  | list xs => cases b <;> simp [same] at h; exact .list h
  | binary operator l r =>
    cases b <;> simp [same] at h
    obtain ⟨⟨rfl, hl⟩, hr⟩ := h
    exact .binary operator hl hr
  | unknown kind es =>
    cases b <;> simp [same] at h
    obtain ⟨⟨rfl, -⟩, -⟩ := h
    exact .unknown kind es _

theorem Expr.SameTop.kind {a b : Expr} (h : a.SameTop b) : a.kind = b.kind := by
  cases h <;> rfl

theorem Expr.SameTop.truth? {a b : Expr} (h : a.SameTop b) :
    (Datum.expr a).truth? = (Datum.expr b).truth? := by
  cases h <;> rfl

theorem sameNodes_cons {x : Expr} {xs ys : List Expr} (h : sameNodes (x :: xs) ys = true) :
    ∃ y zs, ys = y :: zs ∧ x.same y = true ∧ sameNodes xs zs = true := by
  cases ys with
  | nil => simp [sameNodes] at h
  | cons y zs =>
    simp only [sameNodes, Bool.and_eq_true] at h
    exact ⟨y, zs, rfl, h⟩

theorem sameNodes_nil {ys : List Expr} (h : sameNodes [] ys = true) : ys = [] := by
  cases ys with
  | nil => rfl
  | cons y zs => simp [sameNodes] at h

theorem length_eq_of_sameNodes {xs ys : List Expr} (h : sameNodes xs ys = true) :
    xs.length = ys.length := by
  induction xs generalizing ys with
  | nil => rw [sameNodes_nil h]
  | cons x xs ih =>
    obtain ⟨y, zs, rfl, -, hs⟩ := sameNodes_cons h
    rw [List.length_cons, List.length_cons, ih hs]

/-! ## Operands -/

mutual

theorem Expr.operandValue_same : ∀ (a : Expr) {b : Expr}, a.same b = true →
    SameEnd (fun d e => d.same e = true) a.operandValue b.operandValue
  | .list xs, b, h => by
    cases Expr.sameTop_of_same h with
    | list hs => exact (operandValues_same xs hs).map fun ds es hd => by rwa [Datum.same]
  | .number _, b, h => by
    cases Expr.sameTop_of_same h with
    | number hn => exact .ok (by rwa [Datum.same])
  | .string _, b, h | .bool _, b, h | .null, b, h => by
    cases Expr.sameTop_of_same h
    exact .ok (by simp [Datum.same])
  | .column .., b, h | .binary .., b, h | .unknown .., b, h => by
    cases Expr.sameTop_of_same h
    exact .error _

theorem operandValues_same : ∀ (xs : List Expr) {ys : List Expr}, sameNodes xs ys = true →
    SameEnd (fun ds es => sameItems ds es = true) (operandValues xs) (operandValues ys)
  | [], ys, h => by
    rw [sameNodes_nil h]
    exact .ok (by rw [sameItems])
  | x :: xs, ys, h => by
    obtain ⟨y, zs, rfl, hx, hs⟩ := sameNodes_cons h
    have hhead := x.operandValue_same hx
    rw [operandValues, operandValues]
    generalize x.operandValue = v, y.operandValue = w at hhead
    cases hhead with
    | error cause => exact .error cause
    | ok hd => exact (operandValues_same xs hs).map fun ds es hds => by simp [sameItems, hd, hds]

end

/-! ## Equal queries -/

/-- Equal filters of one field and one operator. -/
structure Filter.Equal (f g : Filter) : Prop where
  field : f.field = g.field
  op : f.op = g.op
  same : f.same g = true

/-- Queries of the store over one collection, with equal filters in one order. -/
inductive Query.Equal : Query → Query → Prop
  | filtered (collection : Option String) {fs gs : List Filter} (h : List.Forall₂ Filter.Equal fs gs) :
    Equal (.filtered collection fs) (.filtered collection gs)

theorem sameFilters_of_equal {fs gs : List Filter} (h : List.Forall₂ Filter.Equal fs gs) :
    Query.sameFilters fs gs = true := by
  induction h with
  | nil => rfl
  | cons hf _ ih => simp [Query.sameFilters, hf.same, ih]

theorem Query.Equal.same {q r : Query} (h : q.Equal r) : q.same r = true := by
  cases h with
  | filtered collection h => simp [Query.same, sameFilters_of_equal h]

theorem rangeFieldNames_of_equal {fs gs : List Filter} (h : List.Forall₂ Filter.Equal fs gs) :
    (fs.filter Filter.isRange).map Filter.field = (gs.filter Filter.isRange).map Filter.field := by
  induction h with
  | nil => rfl
  | @cons f g fs gs hf _ ih =>
    have hr : f.isRange = g.isRange := by rw [Filter.isRange, Filter.isRange, hf.op]
    rw [List.filter_cons, List.filter_cons, hr]
    split
    · rw [List.map_cons, List.map_cons, hf.field, ih]
    · exact ih

theorem Query.Equal.boundedFields {q r : Query} (h : q.Equal r) :
    q.boundedFields = r.boundedFields := by
  cases h with
  | filtered collection h => exact congrArg List.eraseDups (rangeFieldNames_of_equal h)

theorem Query.Equal.boundsWarning? {q r : Query} (h : q.Equal r) :
    WhereClause.boundsWarning? q = WhereClause.boundsWarning? r := by
  rw [WhereClause.boundsWarning?, WhereClause.boundsWarning?, h.boundedFields]

theorem boundsWarnings_of_equal {qs rs : List Query} (h : List.Forall₂ Query.Equal qs rs) (warn : Bool) :
    boundsWarnings warn qs = boundsWarnings warn rs := by
  cases warn with
  | false => rfl
  | true =>
    change qs.filterMap boundsWarning? = rs.filterMap boundsWarning?
    induction h with
    | nil => rfl
    | cons hq _ ih => rw [List.filterMap_cons, List.filterMap_cons, hq.boundsWarning?, ih]

/-! ## One condition on equal queries -/

section

variable {qs rs : List Query} (hqs : List.Forall₂ Query.Equal qs rs)

include hqs

theorem refineAll_agree (name op : String) {v w : Datum} (hv : v.same w = true) :
    SameEnd (List.Forall₂ Query.Equal) (refineAll (.text name) (.text op) v qs)
      (refineAll (.text name) (.text op) w rs) := by
  induction hqs with
  | nil => exact .ok .nil
  | cons hq _ ih =>
    cases hq with
    | filtered collection hf =>
      have hnew : Filter.Equal ⟨name, op, v, none⟩ ⟨name, op, w, none⟩ :=
        ⟨rfl, rfl, by simp [Filter.same, hv]⟩
      have hrefined := Query.Equal.filtered collection (List.rel_append hf (.cons hnew .nil))
      exact ih.bind fun qs rs hs => .ok (.cons hrefined hs)

theorem restrict_agree (name token : String) {d e : Datum}
    (hv : SameEnd (fun v w => v.same w = true) d.operandValue e.operandValue) :
    SameEnd (List.Forall₂ Query.Equal) (restrict qs (.text name) (.text token) d)
      (restrict rs (.text name) (.text token) e) := by
  unfold restrict
  cases StoreOp.ofDatum (.text token) with
  | error f => exact .error f
  | ok op =>
    generalize d.operandValue = v, e.operandValue = w at hv
    cases hv with
    | error cause => exact .error _
    | ok hv => exact refineAll_agree hqs name op.text hv

theorem constrain_agree (name token : String) {d e : Datum}
    (hv : SameEnd (fun v w => v.same w = true) d.operandValue e.operandValue)
    (ht : d.truth? = e.truth?) :
    Traced.Agree (List.Forall₂ Query.Equal) (constrain qs (.text name) (.text token) d)
      (constrain rs (.text name) (.text token) e) := by
  unfold constrain
  rw [ht]
  cases notEqual? (.text token) with
  | none => exact Traced.agree_ofResult (restrict_agree hqs name token hv)
  | some split =>
    cases e.truth? with
    | some b =>
      have hb : SameEnd (fun v w => v.same w = true) (Datum.bool !b).operandValue
          (Datum.bool !b).operandValue := .ok (by simp [Datum.same])
      exact Traced.agree_ofResult (restrict_agree hqs name "=" hb)
    | none =>
      apply Traced.Agree.note_bind
      apply (Traced.agree_ofResult (restrict_agree hqs name "<" hv)).bind
      intro below below' hbelow
      apply (Traced.agree_ofResult (restrict_agree hqs name ">" hv)).bind
      intro above above' habove
      exact Traced.agree_pure (List.rel_append hbelow habove)

theorem constrain_expr_agree (name token : String) {a b : Expr} (h : a.same b = true) :
    Traced.Agree (List.Forall₂ Query.Equal) (constrain qs (.text name) (.text token) (.expr a))
      (constrain rs (.text name) (.text token) (.expr b)) :=
  constrain_agree hqs name token (a.operandValue_same h) (Expr.sameTop_of_same h).truth?

theorem constrain_text_agree (name token text : String) :
    Traced.Agree (List.Forall₂ Query.Equal) (constrain qs (.text name) (.text token) (.text text))
      (constrain rs (.text name) (.text token) (.text text)) :=
  constrain_agree hqs name token (.ok (by simp [Datum.same])) rfl

end

/-! ## Rules on equal queries -/

section

variable {qs rs : List Query} (hqs : List.Forall₂ Query.Equal qs rs)

include hqs

theorem matchAny_agree (name : String) {xs ys : List Expr} (h : sameNodes xs ys = true) :
    Traced.Agree (List.Forall₂ Query.Equal) (matchAny qs name xs) (matchAny rs name ys) := by
  induction xs generalizing ys with
  | nil =>
    rw [sameNodes_nil h]
    exact Traced.agree_pure .nil
  | cons x xs ih =>
    obtain ⟨y, zs, rfl, hx, hs⟩ := sameNodes_cons h
    apply (constrain_expr_agree hqs name "=" hx).bind
    intro first first' hfirst
    apply (ih hs).bind
    intro others others' hothers
    exact Traced.agree_pure (List.rel_append hfirst hothers)

theorem membership_agree (operator name : String) {a b : Expr} (h : a.same b = true) :
    Traced.Agree (List.Forall₂ Query.Equal) (membership qs operator name a)
      (membership rs operator name b) := by
  cases Expr.sameTop_of_same h with
  | list hs =>
    rw [membership, membership, length_eq_of_sameNodes hs]
    apply (matchAny_agree hqs name hs).bind
    intro found found' hfound
    exact Traced.Agree.note_bind _ (Traced.agree_pure hfound)
  | string | number | bool | null | column | binary | unknown => exact Traced.agree_reject _

theorem startRange_agree (name start : String) :
    Traced.Agree (List.Forall₂ Query.Equal) (startRange qs name start) (startRange rs name start) := by
  unfold startRange
  apply (constrain_text_agree hqs name ">=" start).bind
  intro lower lower' hlower
  split
  · exact constrain_text_agree hlower name "<" _
  · exact Traced.agree_pure hlower

theorem patternMatch_agree (name : String) {a b : Expr} (h : a.same b = true) :
    Traced.Agree (List.Forall₂ Query.Equal) (patternMatch qs name a) (patternMatch rs name b) := by
  cases Expr.sameTop_of_same h with
  | string pattern =>
    rw [patternMatch, patternMatch]
    split
    · exact constrain_text_agree hqs name "=" _
    · exact startRange_agree hqs name _
    · exact Traced.agree_reject _
  | number | bool | null | column | list | binary | unknown => exact Traced.agree_reject _

theorem closedRange_agree (name : String) {a b : Expr} (h : a.same b = true) :
    Traced.Agree (List.Forall₂ Query.Equal) (closedRange qs name a) (closedRange rs name b) := by
  cases Expr.sameTop_of_same h with
  | @list xs ys hs =>
    match xs, ys, hs, length_eq_of_sameNodes hs with
    | [low, high], [low', high'], hs, _ =>
      simp only [sameNodes, Bool.and_eq_true, and_true] at hs
      apply (constrain_expr_agree hqs name ">=" hs.1).bind
      intro lower lower' hlower
      exact constrain_expr_agree hlower name "<=" hs.2
    | [], [], _, _ | [_], [_], _, _ | _ :: _ :: _ :: _, _ :: _ :: _ :: _, _, _ =>
      exact Traced.agree_reject _
  | string | number | bool | null | column | binary | unknown => exact Traced.agree_reject _

theorem containment_agree (operator name : String) {a b : Expr} (h : a.same b = true) :
    Traced.Agree (List.Forall₂ Query.Equal) (containment qs operator name a)
      (containment rs operator name b) := by
  rw [containment, containment, (Expr.sameTop_of_same h).kind]
  split
  · exact constrain_expr_agree hqs name operator h
  · exact Traced.agree_reject _

theorem ColumnRule.plan_agree (rule : ColumnRule) (operator : String) {l r m s : Expr}
    (hl : l.same m = true) (hr : r.same s = true) :
    Traced.Agree (List.Forall₂ Query.Equal) (rule.plan qs operator l r) (rule.plan rs operator m s) := by
  have hcolumn : Traced.Agree Eq (leftColumn operator l) (leftColumn operator m) := by
    cases Expr.sameTop_of_same hl with
    | column name table => exact Traced.agree_pure rfl
    | string | number | bool | null | list | binary | unknown => exact Traced.agree_reject _
  apply hcolumn.bind
  rintro name _ rfl
  cases rule with
  | membership => exact membership_agree hqs operator name hr
  | pattern => exact patternMatch_agree hqs name hr
  | range => exact closedRange_agree hqs name hr
  | containment => exact containment_agree hqs operator name hr
  | comparison => exact constrain_expr_agree hqs name operator hr

end

/-! ## Whole plans -/

theorem Expr.plan_agree {a b : Expr} (h : a.same b = true) {qs rs : List Query}
    (hqs : List.Forall₂ Query.Equal qs rs) :
    Traced.Agree (List.Forall₂ Query.Equal) (a.plan qs) (b.plan rs) := by
  -- The right sides of AND start from what the left sides give, which are equal queries and not the same.
  induction a using ruleInduction generalizing b qs rs with
  | conjunction left right ihl ihr =>
    cases sameTop_of_same h with
    | binary _ hl hr =>
      rw [plan_conjunction, plan_conjunction]
      exact (ihl hl hqs).bind fun _ _ hnarrowed => ihr hr hnarrowed
  | disjunction left right ihl ihr =>
    cases sameTop_of_same h with
    | binary _ hl hr =>
      rw [plan_disjunction_eq_bind, plan_disjunction_eq_bind]
      apply (ihl hl hqs).bind
      intro ls ls' hls
      apply (ihr hr hqs).bind
      intro rs rs' hrs
      rw [hls.length_eq, hrs.length_eq]
      exact Traced.Agree.note_bind _ (Traced.agree_pure (List.rel_append hls hrs))
  | column operator left right rule hrule =>
    cases sameTop_of_same h with
    | binary _ hl hr =>
      rw [plan_column _ _ _ hrule, plan_column _ _ _ hrule]
      exact rule.plan_agree hqs operator hl hr
  | single e he =>
    cases sameTop_of_same h with
    | binary => exact absurd rfl he
    | column name table => exact constrain_agree hqs name "=" (.ok (by simp [Datum.same])) rfl
    | string | number | bool | null | list | unknown => exact Traced.agree_reject _

theorem planNode_agree (warn : Bool) {a b : Expr} (h : a.same b = true) {qs rs : List Query}
    (hqs : List.Forall₂ Query.Equal qs rs) :
    Traced.Agree (List.Forall₂ Query.Equal) (planNode warn qs a) (planNode warn rs b) := by
  apply (Expr.plan_agree h hqs).bind
  intro out out' hout
  rw [(Expr.sameTop_of_same h).kind, hout.length_eq]
  apply Traced.Agree.note_bind
  cases warn with
  | false => exact Traced.agree_pure hout
  | true =>
    have hwarnings : out.filterMap boundsWarning? = out'.filterMap boundsWarning? :=
      boundsWarnings_of_equal hout true
    rw [hwarnings]
    exact (Traced.agree_noteAll _).bind fun _ _ _ => Traced.agree_pure hout

namespace Session

/-- A filter of a held query is equal to itself, even where its value is not. -/
theorem equal_held (s : Session) {seeds : List Query}
    (h : ∀ q ∈ seeds, ∃ collection filters, q = .filtered collection filters) :
    ∀ held ∈ (s.hold seeds).1, held.query.Equal held.query := by
  induction seeds generalizing s with
  | nil => simp [hold]
  | cons q qs ih =>
    rw [List.forall_mem_cons] at h
    obtain ⟨⟨collection, filters, rfl⟩, hqs⟩ := h
    simp only [hold, List.forall_mem_cons]
    refine ⟨.filtered collection ?_, ih _ hqs⟩
    rw [List.forall₂_same]
    intro f hf
    obtain ⟨g, -, rfl⟩ := List.mem_map.mp hf
    exact ⟨rfl, rfl, g.same_heldIn _⟩

/-- Nodes that compare equal are planned alike on queries of the store: with the same events, and either
with equal queries or with the same failure. -/
theorem equal_nodes_planned_alike {a b : Expr} (h : a.same b = true) (s : Session) (index : Nat)
    {seeds : List Query} (hseeds : ∀ q ∈ seeds, ∃ collection filters, q = .filtered collection filters) :
    let qs := (s.hold seeds).1.map Held.query
    Traced.Agree (List.Forall₂ fun q r => q.Equal r ∧ q.same r = true)
      (s.plan index qs (.expr a)) (s.plan index qs (.expr b)) := by
  intro qs
  have hqs : List.Forall₂ Query.Equal qs qs := by
    rw [List.forall₂_same]
    intro q hq
    obtain ⟨held, hheld, rfl⟩ := List.mem_map.mp hq
    exact s.equal_held hseeds held hheld
  have hparsed : SameEnd (fun x y => x.same y = true) (Expr.parse (.expr a)) (Expr.parse (.expr b)) :=
    .ok h
  have hplans : Traced.Agree (List.Forall₂ Query.Equal) (s.plan index qs (.expr a))
      (s.plan index qs (.expr b)) :=
    (Traced.agree_ofResult hparsed).bind fun _ _ hnodes => planNode_agree _ hnodes hqs
  exact hplans.imp fun _ _ hout => hout.imp fun _ _ hq => ⟨hq, hq.same⟩

theorem equal_nodes_planned_alike_with_doubles :
    let one : Double := .finite false ⟨2 ^ 52, 1022, by decide, by decide, .inr (by decide)⟩
    let two : Double := .finite false ⟨2 ^ 52, 1023, by decide, by decide, .inr (by decide)⟩
    let clause (x y : Number) : Expr := .binary "AND"
      (.binary "IN" (.column "age" none) (.list [.number x, .number y]))
      (.binary "CONTAINS-ANY" (.column "tags" none) (.list [.string "x", .list [.number x]]))
    let a := clause (.int 1) (.double two)
    let b := clause (.double one) (.int 2)
    let seeds : List Query := [.filtered (some "shops") [⟨"size", "<", .number (.double .nan), none⟩]]
    let qs := (initial.hold seeds).1.map Held.query
    a.same b = true ∧ (∃ out, (initial.plan 0 qs (.expr a)).result = .ok out ∧ out.length = 2) ∧
      Traced.Agree (List.Forall₂ fun q r => q.Equal r ∧ q.same r = true)
        (initial.plan 0 qs (.expr a)) (initial.plan 0 qs (.expr b)) := by
  intro one two clause a b seeds qs
  have hone : (Number.int 1).same (.double one) = true := by decide +kernel
  have htwo : (Number.double two).same (.int 2) = true := by decide +kernel
  have hsame : a.same b = true := by simp [a, b, clause, Expr.same, sameNodes, hone, htwo]
  have hseeds : ∀ q ∈ seeds, ∃ collection filters, q = .filtered collection filters := by simp [seeds]
  exact ⟨hsame, ⟨_, rfl, rfl⟩, equal_nodes_planned_alike hsame initial 0 hseeds⟩

end Session

end WhereClause

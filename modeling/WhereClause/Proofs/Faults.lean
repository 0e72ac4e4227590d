import WhereClause.Entries
import WhereClause.Proofs.Grammar

/-! # Faults told in order

A check tells the faults of all values in node position, from left to right. Where values that are no nodes
are put into a record that is read, the faults told are theirs, and no others.
-/

namespace WhereClause

/-! ## The faults of a check -/

namespace Checked

variable {α β γ : Type}

def faults : Checked α → List Fault
  | faulty fs => fs
  | _ => []

@[simp] theorem faults_ok (a : α) : (ok a).faults = [] := rfl

@[simp] theorem faults_faulty (fs : List Fault) : (faulty fs : Checked α).faults = fs := rfl

@[simp] theorem faults_map (f : α → β) (x : Checked α) : (x.map f).faults = x.faults := by
  cases x <;> rfl

theorem faults_both (f : α → β → γ) {x : Checked α} {y : Checked β} (hx : ¬ x.Stopped) (hy : ¬ y.Stopped) :
    (both f x y).faults = x.faults ++ y.faults := by
  cases x <;> cases y <;> simp_all [both]

theorem stopped_all {xs : List (Checked α)} : (all xs).Stopped ↔ ∃ x ∈ xs, x.Stopped := by
  induction xs with
  | nil => simp [all]
  | cons x xs ih => simp [all, ih]

theorem faults_all {xs : List (Checked α)} (h : ∀ x ∈ xs, ¬ x.Stopped) :
    (all xs).faults = xs.flatMap faults := by
  induction xs with
  | nil => rfl
  | cons x xs ih =>
    rw [List.forall_mem_cons] at h
    have hrest : ¬ (all xs).Stopped := by
      rw [stopped_all]
      rintro ⟨y, hy, hs⟩
      exact h.2 y hy hs
    rw [all, faults_both _ h.1 hrest, ih h.2, List.flatMap_cons]

theorem all_eq_faulty {xs : List (Checked α)} (h : ∀ x ∈ xs, ¬ x.Stopped) {fs : List Fault}
    (hf : faulty fs ∈ xs) : all xs = faulty (xs.flatMap faults) := by
  have hstop : ¬ (all xs).Stopped := by
    rw [stopped_all]
    rintro ⟨y, hy, hs⟩
    exact h y hy hs
  rcases ok_or_faulty hstop with ⟨as, hok⟩ | ⟨gs, hfaulty⟩
  · rw [all_eq_ok_iff] at hok
    rw [hok] at hf
    simp at hf
  · rw [← faults_all h, hfaulty]
    rfl

end Checked

open Checked

namespace Datum

/-! ## Positions -/

/-- The value at a position: at each step the place of a child among the children. The operands of a record
tagged `binary_expr` have the places 0 and 1. -/
def at? : Datum → List Nat → Option Datum
  | d, [] => some d
  | d, i :: p => d.children[i]?.bind fun child => child.at? p

/-- Puts another value in the place of a child. -/
def setChild (d : Datum) (i : Nat) (x : Datum) : Datum :=
  match d with
  | record entries =>
    match entries.lookup "type", entries.lookup "value" with
    | some (.text "binary_expr"), _ => record (Entries.put entries (if i = 0 then "left" else "right", x))
    | some (.text "expr_list"), some (.list items) => record (Entries.put entries ("value", .list (items.set i x)))
    | _, _ => d
  | _ => d

/-- Puts another value at a position. -/
def replace : Datum → List Nat → Datum → Datum
  | _, [], x => x
  | d, i :: p, x =>
    match d.children[i]? with
    | some child => d.setChild i (child.replace p x)
    | none => d

end Datum

/-- A value to be put at a position. -/
structure Edit where
  position : List Nat
  value : Datum

def Datum.replaceAll (d : Datum) (edits : List Edit) : Datum :=
  edits.foldl (fun d edit => d.replace edit.position edit.value) d

/-- From left to right, and not one within the other. -/
def Before (p q : List Nat) : Prop := p < q ∧ ¬ p <+: q

instance (p q : List Nat) : Decidable (Before p q) := inferInstanceAs (Decidable (_ ∧ _))

theorem not_before_nil (p : List Nat) : ¬ Before p [] := fun h => List.not_lt_nil _ h.1

theorem before_cons_iff {i j : Nat} {p q : List Nat} :
    Before (i :: p) (j :: q) ↔ i < j ∨ i = j ∧ Before p q := by
  unfold Before
  rw [List.cons_lt_cons_iff, List.cons_prefix_cons]
  constructor
  · rintro ⟨h | ⟨rfl, h⟩, hn⟩
    · exact .inl h
    · exact .inr ⟨rfl, h, fun hp => hn ⟨rfl, hp⟩⟩
  · rintro (h | ⟨rfl, h, hn⟩)
    · exact ⟨.inl h, fun hp => absurd hp.1 (Nat.ne_of_lt h)⟩
    · exact ⟨.inr ⟨rfl, h⟩, fun hp => hn hp.2⟩

namespace Datum

/-! ## Records whose own fields are right -/

/-- Only the nodes inside can have faults. -/
inductive Framed : Datum → Prop
  | binary {entries : List (String × Datum)} {operator : String} {l r : Datum}
    (ht : entries.lookup "type" = some (text "binary_expr"))
    (ho : entries.lookup "operator" = some (text operator)) (hl : entries.lookup "left" = some l)
    (hr : entries.lookup "right" = some r) : Framed (record entries)
  | list {entries : List (String × Datum)} {items : List Datum}
    (ht : entries.lookup "type" = some (text "expr_list"))
    (hv : entries.lookup "value" = some (list items)) : Framed (record entries)

theorem children_binary {entries : List (String × Datum)} {l r : Datum}
    (ht : entries.lookup "type" = some (text "binary_expr")) (hl : entries.lookup "left" = some l)
    (hr : entries.lookup "right" = some r) : (record entries).children = [l, r] := by
  simp [children, ht, hl, hr]

theorem children_list {entries : List (String × Datum)} {items : List Datum}
    (ht : entries.lookup "type" = some (text "expr_list"))
    (hv : entries.lookup "value" = some (list items)) : (record entries).children = items := by
  simp [children, ht, hv]

theorem Framed.node {d : Datum} (h : d.Framed) :
    ∃ build : List Expr → Expr, d.node = (all (d.children.map Datum.node)).map build := by
  cases h with
  | @binary entries operator l r ht ho hl hr =>
    have hf : Form.binary.tag? = some "binary_expr" := rfl
    refine ⟨fun es => .binary (Operator.normal operator) (es.getD 0 .null) (es.getD 1 .null), ?_⟩
    rw [node_of_tagged ht hf, children_binary ht hl hr, List.map_cons, List.map_singleton]
    simp only [Expr.assemble, checkTag_eq_ok ht hf, ok_also, lookup_partsOf_some ho, lookup_partsOf_some hl,
      lookup_partsOf_some hr, Part.required, part_value, part_node, asText]
    cases l.node <;> cases r.node <;> rfl
  | @list entries items ht hv =>
    have hf : Form.list.tag? = some "expr_list" := rfl
    refine ⟨.list, ?_⟩
    rw [node_of_tagged ht hf, children_list ht hv]
    simp only [Expr.assemble, checkTag_eq_ok ht hf, ok_also, lookup_partsOf_some hv, Part.withDefault,
      part_nodes, nodes, nodesOf_eq_all]

theorem Framed.setChild {d : Datum} (h : d.Framed) {i : Nat} (hi : i < d.children.length) (x : Datum) :
    (d.setChild i x).Framed ∧ (d.setChild i x).children = d.children.set i x := by
  cases h with
  | @binary entries operator l r ht ho hl hr =>
    rw [children_binary ht hl hr] at hi ⊢
    rcases i with _ | _ | i
    · have hset : (record entries).setChild 0 x = record (Entries.put entries ("left", x)) := by
        simp only [Datum.setChild, ht, if_true]
      have ht' := Entries.lookup_put_of_ne (by decide : "type" ≠ "left") ht x
      have ho' := Entries.lookup_put_of_ne (by decide : "operator" ≠ "left") ho x
      have hr' := Entries.lookup_put_of_ne (by decide : "right" ≠ "left") hr x
      have hl' := Entries.lookup_put_self entries "left" x
      rw [hset]
      exact ⟨.binary ht' ho' hl' hr', children_binary ht' hl' hr'⟩
    · have hset : (record entries).setChild 1 x = record (Entries.put entries ("right", x)) := by
        simp only [Datum.setChild, ht, if_neg Nat.one_ne_zero]
      have ht' := Entries.lookup_put_of_ne (by decide : "type" ≠ "right") ht x
      have ho' := Entries.lookup_put_of_ne (by decide : "operator" ≠ "right") ho x
      have hl' := Entries.lookup_put_of_ne (by decide : "left" ≠ "right") hl x
      have hr' := Entries.lookup_put_self entries "right" x
      rw [hset]
      exact ⟨.binary ht' ho' hl' hr', children_binary ht' hl' hr'⟩
    · simp only [List.length_cons, List.length_nil] at hi
      omega
  | @list entries items ht hv =>
    rw [children_list ht hv]
    have hset : (record entries).setChild i x = record (Entries.put entries ("value", .list (items.set i x))) := by
      simp only [Datum.setChild, ht, hv]
    have ht' := Entries.lookup_put_of_ne (by decide : "type" ≠ "value") ht (.list (items.set i x))
    have hv' := Entries.lookup_put_self entries "value" (.list (items.set i x))
    rw [hset]
    exact ⟨.list ht' hv', children_list ht' hv'⟩

theorem Framed.not_stopped_child {d : Datum} (h : d.Framed) (hd : ¬ d.node.Stopped) :
    ∀ child ∈ d.children, ¬ child.node.Stopped := by
  obtain ⟨build, hnode⟩ := h.node
  rw [hnode, stopped_map, stopped_all] at hd
  intro child hc hs
  exact hd ⟨child.node, List.mem_map_of_mem hc, hs⟩

theorem Framed.faults_node {d : Datum} (h : d.Framed) (hc : ∀ child ∈ d.children, ¬ child.node.Stopped) :
    d.node.faults = d.children.flatMap fun child => child.node.faults := by
  obtain ⟨build, hnode⟩ := h.node
  rw [hnode, faults_map, faults_all (List.forall_mem_map.mpr hc), List.flatMap_map]

theorem Framed.node_eq_faulty {d : Datum} (h : d.Framed) (hc : ∀ child ∈ d.children, ¬ child.node.Stopped)
    {child : Datum} (hchild : child ∈ d.children) {fs : List Fault} (hf : child.node = faulty fs) :
    d.node = faulty (d.children.flatMap fun child => child.node.faults) := by
  obtain ⟨build, hnode⟩ := h.node
  have hmem : faulty fs ∈ d.children.map Datum.node := hf ▸ List.mem_map_of_mem hchild
  rw [hnode, all_eq_faulty (List.forall_mem_map.mpr hc) hmem, List.flatMap_map]
  rfl

theorem framed_of_node_eq_ok {d : Datum} {e : Expr} (h : d.node = ok e) (hc : d.children ≠ []) :
    d.Framed ∧ ∀ child ∈ d.children, ∃ e, child.node = ok e := by
  refine ⟨?_, fun child hchild => node_eq_ok_of_mem_children h hchild⟩
  obtain ⟨child, hchild⟩ := List.exists_mem_of_ne_nil _ hc
  obtain ⟨entries, rfl, ⟨ht, -⟩ | ⟨ht, items, hv, -⟩⟩ := cases_of_mem_children hchild
  · obtain ⟨_, _, _, ho, ⟨_, hl, -⟩, ⟨_, hr, -⟩, -⟩ := (node_binary_eq_ok_iff ht).mp h
    exact .binary ht ho hl hr
  · exact .list ht hv

/-! ## One value put at a position -/

/-- The value at the position is read, and so is all that stands behind it. -/
def Clear : Datum → List Nat → Prop
  | d, [] => ∃ e, d.node = ok e
  | d, i :: p => d.Framed ∧ ∃ child, d.children[i]? = some child ∧ child.Clear p ∧
      ∀ later ∈ d.children.drop (i + 1), ∃ e, later.node = ok e

theorem clear_of_node_eq_ok {d x : Datum} {e : Expr} (h : d.node = ok e) {p : List Nat}
    (hp : d.at? p = some x) : d.Clear p := by
  induction p generalizing d e with
  | nil => exact ⟨e, h⟩
  | cons i p ih =>
    rw [at?, Option.bind_eq_some_iff] at hp
    obtain ⟨child, hchild, hx⟩ := hp
    have hmem := List.mem_of_getElem? hchild
    obtain ⟨hframed, hread⟩ := framed_of_node_eq_ok h (List.ne_nil_of_mem hmem)
    obtain ⟨f, hf⟩ := hread child hmem
    exact ⟨hframed, child, hchild, ih hf hx, fun later hl => hread later (List.mem_of_mem_drop hl)⟩

theorem faults_of_forall_read {ds : List Datum} (h : ∀ d ∈ ds, ∃ e, d.node = ok e) :
    (ds.flatMap fun d => d.node.faults) = [] := by
  rw [List.flatMap_eq_nil_iff]
  intro d hd
  obtain ⟨e, he⟩ := h d hd
  rw [he]
  rfl

theorem replace_cons {d child : Datum} {i : Nat} (h : d.children[i]? = some child) (p : List Nat) (x : Datum) :
    d.replace (i :: p) x = d.setChild i (child.replace p x) := by
  rw [replace, h]

/-- What is put in comes last among the faults: what stands before it keeps its own, and nothing behind it has
any. -/
theorem Clear.node_replace {d x : Datum} {p : List Nat} (h : d.Clear p) {fs : List Fault}
    (hx : x.node = faulty fs) (hd : ¬ d.node.Stopped) :
    (d.replace p x).node = faulty (d.node.faults ++ fs) := by
  induction p generalizing d with
  | nil =>
    obtain ⟨e, he⟩ := h
    rw [he]
    exact hx
  | cons i p ih =>
    obtain ⟨hframed, child, hchild, hclear, hlater⟩ := h
    have hstop := hframed.not_stopped_child hd
    have hchanged := ih hclear (hstop child (List.mem_of_getElem? hchild))
    obtain ⟨hi, hget⟩ := List.getElem?_eq_some_iff.mp hchild
    obtain ⟨hframed', hchildren⟩ := hframed.setChild hi (child.replace p x)
    -- The children in front are kept, and those behind have no faults.
    have hold : d.children = d.children.take i ++ child :: d.children.drop (i + 1) := by
      rw [← hget, ← List.drop_eq_getElem_cons hi, List.take_append_drop]
    have hnew : (d.setChild i (child.replace p x)).children =
        d.children.take i ++ child.replace p x :: d.children.drop (i + 1) := by
      rw [hchildren, List.set_eq_take_append_cons_drop, if_pos hi]
    have hstop' : ∀ c ∈ (d.setChild i (child.replace p x)).children, ¬ c.node.Stopped := by
      rw [hchildren]
      intro c hc
      rcases List.mem_or_eq_of_mem_set hc with hc | rfl
      · exact hstop c hc
      · rw [hchanged]
        exact not_stopped_faulty _
    have hmem : child.replace p x ∈ (d.setChild i (child.replace p x)).children := by
      rw [hnew]
      simp
    rw [replace_cons hchild, hframed'.node_eq_faulty hstop' hmem hchanged, hframed.faults_node hstop, hnew]
    conv => rhs; rw [hold]
    simp only [List.flatMap_append, List.flatMap_cons, faults_of_forall_read hlater, hchanged, faults_faulty,
      List.append_nil, List.append_assoc]

theorem Clear.replace {d : Datum} {p q : List Nat} (hq : d.Clear q) (hpq : Before p q) (x : Datum) :
    (d.replace p x).Clear q := by
  induction q generalizing d p with
  | nil => exact absurd hpq (not_before_nil p)
  | cons j q ih =>
    cases p with
    | nil => exact absurd (List.nil_prefix) hpq.2
    | cons i p =>
      obtain ⟨hframed, child, hchild, hclear, hlater⟩ := hq
      cases hc : d.children[i]? with
      | none =>
        have hsame : d.replace (i :: p) x = d := by rw [Datum.replace, hc]
        rw [hsame]
        exact ⟨hframed, child, hchild, hclear, hlater⟩
      | some c =>
        rw [replace_cons hc]
        obtain ⟨hi, -⟩ := List.getElem?_eq_some_iff.mp hc
        obtain ⟨hframed', hchildren⟩ := hframed.setChild hi (c.replace p x)
        rcases before_cons_iff.mp hpq with hij | ⟨rfl, hbefore⟩
        · refine ⟨hframed', child, ?_, hclear, ?_⟩
          · rw [hchildren, List.getElem?_set_ne (Nat.ne_of_lt hij), hchild]
          · rw [hchildren, List.drop_set_of_lt (by omega)]
            exact hlater
        · rw [hchild] at hc
          cases hc
          refine ⟨hframed', child.replace p x, ?_, ih hclear hbefore, ?_⟩
          · rw [hchildren, List.getElem?_set_self hi]
          · rw [hchildren, List.drop_set_of_lt (by omega)]
            exact hlater

/-! ## Values put at several positions -/

theorem node_replaceAll {d : Datum} {edits : List Edit} (hd : ¬ d.node.Stopped)
    (hclear : ∀ edit ∈ edits, d.Clear edit.position)
    (horder : edits.Pairwise fun a b => Before a.position b.position)
    (hfail : ∀ edit ∈ edits, ∃ fs, edit.value.node = faulty fs)
    (hne : edits ≠ [] ∨ ∃ fs, d.node = faulty fs) :
    (d.replaceAll edits).node = faulty (d.node.faults ++ edits.flatMap fun edit => edit.value.node.faults) := by
  induction edits generalizing d with
  | nil =>
    obtain ⟨fs, hfs⟩ := hne.resolve_left (fun h => h rfl)
    simp [replaceAll, hfs]
  | cons edit edits ih =>
    rw [List.pairwise_cons] at horder
    rw [List.forall_mem_cons] at hclear hfail
    obtain ⟨fs, hfs⟩ := hfail.1
    have hstep := hclear.1.node_replace hfs hd
    have hrest := ih (by rw [hstep]; exact not_stopped_faulty _)
      (fun later hl => (hclear.2 later hl).replace (horder.1 later hl) _) horder.2 hfail.2 (.inr ⟨_, hstep⟩)
    rw [replaceAll, List.foldl_cons, ← replaceAll, hrest, hstep]
    simp [hfs]

/-- What is wrong with a value in node position, in words. -/
def messages (d : Datum) : List String := d.node.faults.map Fault.message

theorem setChild_record (entries : List (String × Datum)) (i : Nat) (x : Datum) :
    ∃ changed, (record entries).setChild i x = record changed := by
  unfold setChild
  dsimp only
  split <;> exact ⟨_, rfl⟩

theorem replaceAll_record (entries : List (String × Datum)) {edits : List Edit}
    (h : ∀ edit ∈ edits, edit.position ≠ []) :
    ∃ changed, (record entries).replaceAll edits = record changed := by
  induction edits generalizing entries with
  | nil => exact ⟨entries, rfl⟩
  | cons edit edits ih =>
    rw [List.forall_mem_cons] at h
    obtain ⟨i, p, hp⟩ := List.exists_cons_of_ne_nil h.1
    rw [replaceAll, List.foldl_cons, ← replaceAll, hp]
    cases hc : (record entries).children[i]? with
    | none =>
      rw [replace, hc]
      exact ih entries h.2
    | some child =>
      obtain ⟨changed, hchanged⟩ := setChild_record entries i (child.replace p edit.value)
      rw [replace_cons hc, hchanged]
      exact ih changed h.2

end Datum

/-- The record of `a = 1 AND b IN (1, 2)`. -/
def soundEntries : List (String × Datum) :=
  let one : Datum := .record [("type", .text "number"), ("value", .number (.int 1))]
  let two : Datum := .record [("type", .text "number"), ("value", .text "2")]
  [("type", .text "binary_expr"), ("operator", .text "AND"),
    ("left", .record [("type", .text "binary_expr"), ("operator", .text "="),
      ("left", .record [("type", .text "column_ref"), ("column", .text "a")]), ("right", one)]),
    ("right", .record [("type", .text "binary_expr"), ("operator", .text "IN"),
      ("left", .record [("type", .text "column_ref"), ("column", .text "b")]),
      ("right", .record [("type", .text "expr_list"), ("value", .list [one, two])])])]

/-- No number for the 1, an operation without operands for the `b`, and no node for the 2. -/
def threeEdits : List Edit :=
  [⟨[0, 1], .record [("type", .text "number"), ("value", .null)]⟩,
    ⟨[1, 0], .record [("type", .text "binary_expr"), ("operator", .text "+")]⟩,
    ⟨[1, 1, 1], .number (.int 2)⟩]

end WhereClause

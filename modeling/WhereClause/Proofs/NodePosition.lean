import WhereClause.Proofs.Supported

/-! # Values in node position

The `type` of a record is looked up among the tags of the forms. A list or a record cannot be looked
up, and the whole check stops there. Everything else that is wrong is a fault.
-/

namespace WhereClause

/-! ## Checks that stop -/

namespace Checked

variable {α β γ : Type}

/-- The check came to a list or a record in the place of a name. -/
def Stopped (x : Checked α) : Prop := ∃ c, x = .notKey c

@[simp] theorem stopped_notKey (c : Container) : (notKey c : Checked α).Stopped := ⟨c, rfl⟩

@[simp] theorem not_stopped_ok (a : α) : ¬ (ok a).Stopped := by rintro ⟨c, h⟩; cases h

@[simp] theorem not_stopped_faulty (fs : List Fault) : ¬ (faulty fs : Checked α).Stopped := by
  rintro ⟨c, h⟩; cases h

@[simp] theorem not_stopped_fault (f : Fault) : ¬ (fault f : Checked α).Stopped :=
  not_stopped_faulty [f]

@[simp] theorem stopped_map (f : α → β) (x : Checked α) : (x.map f).Stopped ↔ x.Stopped := by
  cases x <;> simp [map]

@[simp] theorem stopped_both (f : α → β → γ) (x : Checked α) (y : Checked β) :
    (both f x y).Stopped ↔ x.Stopped ∨ y.Stopped := by
  cases x <;> cases y <;> simp [both]

@[simp] theorem stopped_also (x : Checked Unit) (y : Checked α) :
    (x.also y).Stopped ↔ x.Stopped ∨ y.Stopped := stopped_both _ x y

theorem ok_or_faulty {x : Checked α} (h : ¬ x.Stopped) : (∃ a, x = ok a) ∨ ∃ fs, x = faulty fs := by
  cases x with
  | ok a => exact .inl ⟨a, rfl⟩
  | faulty fs => exact .inr ⟨fs, rfl⟩
  | notKey c => exact absurd (stopped_notKey c) h

end Checked

open Checked

/-! ## Plain fields do not stop -/

namespace Datum

@[simp] theorem not_stopped_asText (d : Datum) : ¬ d.asText.Stopped := by
  cases d <;> simp [asText]

@[simp] theorem not_stopped_asOptionalText (d : Datum) : ¬ d.asOptionalText.Stopped := by
  cases d <;> simp [asOptionalText]

@[simp] theorem not_stopped_asNull (d : Datum) : ¬ d.asNull.Stopped := by
  cases d <;> simp [asNull]

@[simp] theorem not_stopped_asTag (tag : String) (d : Datum) : ¬ (d.asTag tag).Stopped := by
  unfold asTag
  split
  · split <;> simp
  · simp

theorem not_stopped_truthOfInt (n : Int) : ¬ (truthOfInt n).Stopped := by
  unfold truthOfInt
  repeat' split
  all_goals simp

theorem not_stopped_truthOfDouble (x : Double) : ¬ (truthOfDouble x).Stopped := by
  unfold truthOfDouble
  split
  · split
    · exact not_stopped_truthOfInt _
    · simp
  · simp

theorem not_stopped_truthOfText (s : String) : ¬ (truthOfText s).Stopped := by
  simp only [truthOfText]
  split
  · simp
  · split <;> simp

@[simp] theorem not_stopped_asTruth (d : Datum) : ¬ d.asTruth.Stopped := by
  unfold asTruth
  split
  · simp
  · exact not_stopped_truthOfInt _
  · exact not_stopped_truthOfDouble _
  · exact not_stopped_truthOfText _
  · simp

theorem not_stopped_numberOfText (s : String) : ¬ (numberOfText s).Stopped := by
  simp only [numberOfText]
  split <;> simp

@[simp] theorem not_stopped_asNumber (d : Datum) : ¬ d.asNumber.Stopped := by
  unfold asNumber
  split
  · simp
  · simp
  · exact not_stopped_numberOfText _
  · simp

end Datum

namespace Part

variable {α : Type}

@[simp] theorem stopped_required (part : Option Part) (read : Part → Checked α) :
    (required part read).Stopped ↔ ∃ p, part = some p ∧ (read p).Stopped := by
  cases part <;> simp [required]

@[simp] theorem stopped_withDefault (part : Option Part) (default : α) (read : Part → Checked α) :
    (withDefault part default read).Stopped ↔ ∃ p, part = some p ∧ (read p).Stopped := by
  cases part <;> simp [withDefault]

end Part

namespace Expr

@[simp] theorem not_stopped_checkTag (form : Form) (part : Option Part) :
    ¬ (checkTag form part).Stopped := by
  simp [checkTag]

/-! ## Forms with nodes inside -/

theorem stopped_assemble_list (parts : List (String × Part)) :
    (assemble .list parts).Stopped ↔ ∃ p, parts.lookup "value" = some p ∧ p.nodes.Stopped := by
  simp [assemble]

theorem stopped_assemble_binary (parts : List (String × Part)) :
    (assemble .binary parts).Stopped ↔
      (∃ p, parts.lookup "left" = some p ∧ p.node.Stopped) ∨
        ∃ p, parts.lookup "right" = some p ∧ p.node.Stopped := by
  simp [assemble]

theorem not_stopped_assemble {form : Form} (hl : form ≠ .list) (hb : form ≠ .binary)
    (parts : List (String × Part)) : ¬ (assemble form parts).Stopped := by
  cases form with
  | list => exact absurd rfl hl
  | binary => exact absurd rfl hb
  | string | number | bool | null | column | unknown => simp [assemble]

end Expr

/-! ## Positions -/

namespace Datum

/-- The values that are read as nodes in order to read this one. -/
def children : Datum → List Datum
  | record entries =>
    match entries.lookup "type" with
    | some (.text "binary_expr") => (entries.lookup "left").toList ++ (entries.lookup "right").toList
    | some (.text "expr_list") =>
      match entries.lookup "value" with
      | some (.list items) => items
      | _ => []
    | _ => []
  | _ => []

/-- A record with a list or a record for its `type`. -/
def HasContainerTag : Datum → Prop
  | record entries =>
    (∃ items, entries.lookup "type" = some (.list items)) ∨
      ∃ inner, entries.lookup "type" = some (.record inner)
  | _ => False

/-- The second value is read as a node whenever the first one is. -/
inductive Reads : Datum → Datum → Prop
  | here (d : Datum) : Reads d d
  | under {d child x : Datum} (hc : child ∈ d.children) (h : Reads child x) : Reads d x

/-- There is no such record in node position, at any depth. -/
def WellTagged (d : Datum) : Prop := ∀ x, Reads d x → ¬ x.HasContainerTag

theorem stopped_nodesOf (items : List Datum) :
    (nodesOf items).Stopped ↔ ∃ d ∈ items, d.node.Stopped := by
  induction items with
  | nil => simp [nodesOf]
  | cons d ds ih => simp [nodesOf, ih]

theorem stopped_nodes (d : Datum) :
    d.nodes.Stopped ↔ ∃ items, d = list items ∧ ∃ x ∈ items, x.node.Stopped := by
  cases d with
  | list items => simp [nodes, stopped_nodesOf]
  | null | bool | number | text | record | expr => simp [nodes]

theorem exists_lookup_partsOf (entries : List (String × Datum)) (key : String) (p : Part → Prop) :
    (∃ x, (partsOf entries).lookup key = some x ∧ p x) ↔
      ∃ d, entries.lookup key = some d ∧ p d.part := by
  rw [lookup_partsOf]
  cases entries.lookup key <;> simp

theorem node_of_tag {entries : List (String × Datum)} {tag : String}
    (ht : entries.lookup "type" = some (text tag)) :
    (record entries).node = Expr.assemble (Form.ofTag tag) (partsOf entries) := by
  rw [node, Expr.ofParts, lookup_partsOf, ht]
  rfl

theorem node_of_no_tag {entries : List (String × Datum)}
    (ht : ∀ tag, entries.lookup "type" ≠ some (text tag)) (hu : ¬ (record entries).HasContainerTag) :
    (record entries).node = Expr.assemble .unknown (partsOf entries) := by
  rw [node, Expr.ofParts, lookup_partsOf]
  cases h : entries.lookup "type" with
  | none => rfl
  | some d =>
    cases d with
    | text tag => exact absurd h (ht tag)
    | list items => exact absurd (.inl ⟨items, h⟩) hu
    | record inner => exact absurd (.inr ⟨inner, h⟩) hu
    | null | bool | number | expr => rfl

theorem stopped_node_of_containerTag {d : Datum} (h : d.HasContainerTag) : d.node.Stopped := by
  cases d with
  | record entries =>
    rw [node, Expr.ofParts, lookup_partsOf]
    rcases h with ⟨items, h⟩ | ⟨inner, h⟩
    · rw [h]; exact stopped_notKey _
    · rw [h]; exact stopped_notKey _
  | null | bool | number | text | list | expr => cases h

theorem stopped_node_binary {entries : List (String × Datum)}
    (ht : entries.lookup "type" = some (text "binary_expr")) :
    (record entries).node.Stopped ↔ ∃ d ∈ (record entries).children, d.node.Stopped := by
  have hform : Form.ofTag "binary_expr" = .binary := by decide
  rw [node_of_tag ht, hform, Expr.stopped_assemble_binary]
  rw [exists_lookup_partsOf, exists_lookup_partsOf]
  simp only [children, ht, List.mem_append, Option.mem_toList, or_and_right, exists_or]
  rfl

theorem stopped_node_list {entries : List (String × Datum)}
    (ht : entries.lookup "type" = some (text "expr_list")) :
    (record entries).node.Stopped ↔ ∃ d ∈ (record entries).children, d.node.Stopped := by
  have hform : Form.ofTag "expr_list" = .list := by decide
  rw [node_of_tag ht, hform, Expr.stopped_assemble_list, exists_lookup_partsOf]
  simp only [children, ht]
  cases hv : entries.lookup "value" with
  | none => simp
  | some d =>
    simp only [Option.some.injEq, exists_eq_left', part, stopped_nodes]
    cases d with
    | list items => simp
    | null | bool | number | text | record | expr => simp

theorem children_of_other {entries : List (String × Datum)}
    (hb : entries.lookup "type" ≠ some (text "binary_expr"))
    (hl : entries.lookup "type" ≠ some (text "expr_list")) : (record entries).children = [] := by
  -- Both hypotheses are side conditions of the last equation.
  simp only [children]

theorem not_stopped_node_of_other {entries : List (String × Datum)}
    (hb : entries.lookup "type" ≠ some (text "binary_expr"))
    (hl : entries.lookup "type" ≠ some (text "expr_list")) (hu : ¬ (record entries).HasContainerTag) :
    ¬ (record entries).node.Stopped := by
  by_cases ht : ∃ tag, entries.lookup "type" = some (text tag)
  · obtain ⟨tag, ht⟩ := ht
    rw [ht] at hb hl
    have hlist : Form.ofTag tag ≠ .list := by
      intro h
      have htag : "expr_list" = tag := Option.some.inj (Form.tag_ofTag h (by decide))
      exact hl (by rw [htag])
    have hbinary : Form.ofTag tag ≠ .binary := by
      intro h
      have htag : "binary_expr" = tag := Option.some.inj (Form.tag_ofTag h (by decide))
      exact hb (by rw [htag])
    rw [node_of_tag ht]
    exact Expr.not_stopped_assemble hlist hbinary _
  · rw [node_of_no_tag (fun tag h => ht ⟨tag, h⟩) hu]
    exact Expr.not_stopped_assemble (by decide) (by decide) _

theorem stopped_node_iff (d : Datum) :
    d.node.Stopped ↔ d.HasContainerTag ∨ ∃ child ∈ d.children, child.node.Stopped := by
  cases d with
  | record entries =>
    by_cases hb : entries.lookup "type" = some (text "binary_expr")
    · rw [stopped_node_binary hb]
      simp [HasContainerTag, hb]
    by_cases hl : entries.lookup "type" = some (text "expr_list")
    · rw [stopped_node_list hl]
      simp [HasContainerTag, hl]
    rw [children_of_other hb hl]
    constructor
    · intro h
      by_cases hu : (record entries).HasContainerTag
      · exact .inl hu
      · exact absurd h (not_stopped_node_of_other hb hl hu)
    · rintro (hu | ⟨child, hc, -⟩)
      · exact stopped_node_of_containerTag hu
      · cases hc
  | expr e =>
    simp only [node, Expr.adopt, HasContainerTag, children]
    split <;> simp
  | null | bool | number | text | list => simp [node, HasContainerTag, children]

/-! ## All depths -/

theorem cases_of_mem_children {d child : Datum} (h : child ∈ d.children) :
    ∃ entries, d = record entries ∧
      ((entries.lookup "type" = some (text "binary_expr") ∧
          (entries.lookup "left" = some child ∨ entries.lookup "right" = some child)) ∨
        (entries.lookup "type" = some (text "expr_list") ∧
          ∃ items, entries.lookup "value" = some (list items) ∧ child ∈ items)) := by
  unfold children at h
  split at h
  · rename_i entries
    refine ⟨entries, rfl, ?_⟩
    split at h
    · rename_i ht
      exact .inl ⟨ht, by simpa only [List.mem_append, Option.mem_toList] using h⟩
    · rename_i ht
      split at h
      · rename_i items hv
        exact .inr ⟨ht, items, hv, h⟩
      · cases h
    · cases h
  · cases h

theorem sizeOf_lt_of_lookup {entries : List (String × Datum)} {key : String} {d : Datum}
    (h : entries.lookup key = some d) : sizeOf d < sizeOf (record entries) := by
  obtain ⟨front, back, rfl, -⟩ := List.lookup_eq_some_iff.mp h
  have hm : (key, d) ∈ front ++ (key, d) :: back := by simp
  have hlt := List.sizeOf_lt_of_mem hm
  simp only [Prod.mk.sizeOf_spec] at hlt
  simp only [record.sizeOf_spec]
  omega

theorem sizeOf_lt_of_mem_children {d child : Datum} (h : child ∈ d.children) :
    sizeOf child < sizeOf d := by
  obtain ⟨entries, rfl, ⟨-, hl | hr⟩ | ⟨-, items, hv, hitem⟩⟩ := cases_of_mem_children h
  · exact sizeOf_lt_of_lookup hl
  · exact sizeOf_lt_of_lookup hr
  · have hlt := List.sizeOf_lt_of_mem hitem
    have hvalue := sizeOf_lt_of_lookup hv
    simp only [list.sizeOf_spec] at hvalue
    omega

theorem stopped_node_iff_exists (d : Datum) : d.node.Stopped ↔ ∃ x, Reads d x ∧ x.HasContainerTag := by
  constructor
  · intro h
    rw [stopped_node_iff] at h
    rcases h with hu | ⟨child, hc, hs⟩
    · exact ⟨d, .here d, hu⟩
    · obtain ⟨x, hr, hu⟩ := (stopped_node_iff_exists child).mp hs
      exact ⟨x, .under hc hr, hu⟩
  · rintro ⟨x, hr, hu⟩
    induction hr with
    | here d => exact stopped_node_of_containerTag hu
    | under hc _ ih => exact (stopped_node_iff _).mpr (.inr ⟨_, hc, ih hu⟩)
termination_by sizeOf d
decreasing_by exact sizeOf_lt_of_mem_children hc

theorem not_stopped_node_iff (d : Datum) : ¬ d.node.Stopped ↔ d.WellTagged := by
  rw [stopped_node_iff_exists]
  simp [WellTagged]

end Datum

/-! ## Clauses read from records -/

/-- The one error of a record that is no node. -/
def ReadOrRejected (result : Except Failure Expr) : Prop :=
  (∃ e, result = .ok e) ∨
    ∃ cause, result = .error (.rejected cause) ∧ cause.report.kind = .invalidExpression

/-- An error of a plan descends from the error of clauses. -/
def PlannedOrRejected (result : Except Failure (List Query)) : Prop :=
  (∃ out, result = .ok out) ∨
    ∃ cause, result = .error (.rejected cause) ∧ ErrorKind.clause ∈ cause.report.kind.lineage

variable {entries : List (String × Datum)}

theorem parse_record_of_wellTagged (h : (Datum.record entries).WellTagged) :
    ReadOrRejected (Expr.parse (.record entries)) := by
  rw [Expr.parse]
  rcases ok_or_faulty ((Datum.not_stopped_node_iff _).mpr h) with ⟨e, he⟩ | ⟨fs, hf⟩
  · rw [he]; exact .inl ⟨e, rfl⟩
  · rw [hf]; exact .inr ⟨.malformed fs, rfl, rfl⟩

theorem parse_record_of_not_wellTagged (h : ¬ (Datum.record entries).WellTagged) :
    ∃ c, Expr.parse (.record entries) = .error (.notKey c) := by
  rw [← Datum.not_stopped_node_iff, Classical.not_not] at h
  obtain ⟨c, hc⟩ := h
  exact ⟨c, by rw [Expr.parse, hc]⟩

theorem plan_plannedOrRejected (warn : Bool) {qs : List Query} (hq : .sealed ∉ qs) (e : Expr) :
    PlannedOrRejected (planDatum warn qs (.expr e)).result := by
  cases hf : e.flaw? with
  | none => exact .inl ⟨_, planDatum_ok_of_supported (Expr.flaw?_eq_none_iff.mp hf) warn hq⟩
  | some cause =>
    exact .inr ⟨cause, planDatum_rejected_of_flaw? hf warn hq, cause.clause_mem_lineage⟩

theorem planDatum_of_parse_ok {w : Datum} {e : Expr} (h : Expr.parse w = .ok e) (warn : Bool)
    (qs : List Query) : (planDatum warn qs w).result = (planDatum warn qs (.expr e)).result := by
  rw [planDatum_expr_result, planDatum, Traced.result_bind, Traced.result_ofResult, h]
  exact planNode_result warn qs e

theorem planDatum_of_parse_error {w : Datum} {f : Failure} (h : Expr.parse w = .error f) (warn : Bool)
    (qs : List Query) : (planDatum warn qs w).result = .error f := by
  rw [planDatum, Traced.result_bind, Traced.result_ofResult, h]
  rfl

theorem plan_record_of_wellTagged (h : (Datum.record entries).WellTagged) (warn : Bool)
    {qs : List Query} (hq : .sealed ∉ qs) :
    PlannedOrRejected (planDatum warn qs (.record entries)).result := by
  rcases parse_record_of_wellTagged h with ⟨e, he⟩ | ⟨cause, hc, -⟩
  · rw [planDatum_of_parse_ok he]
    exact plan_plannedOrRejected warn hq e
  · exact .inr ⟨cause, planDatum_of_parse_error hc warn qs, cause.clause_mem_lineage⟩

/-- A record is read or rejected, and planned or rejected, exactly if it is well tagged. Otherwise the
failure is of another kind, and the same from both. -/
theorem read_or_rejected_iff_wellTagged (entries : List (String × Datum)) :
    (ReadOrRejected (Expr.parse (.record entries)) ↔ (Datum.record entries).WellTagged) ∧
    (∀ (warn : Bool) (qs : List Query), .sealed ∉ qs →
      (PlannedOrRejected (planDatum warn qs (.record entries)).result ↔
        (Datum.record entries).WellTagged)) ∧
    (¬ (Datum.record entries).WellTagged →
      ∃ c, Expr.parse (.record entries) = .error (.notKey c) ∧
        ∀ (warn : Bool) (qs : List Query),
          (planDatum warn qs (.record entries)).result = .error (.notKey c)) := by
  by_cases hw : (Datum.record entries).WellTagged
  · have hparse := parse_record_of_wellTagged hw
    refine ⟨⟨fun _ => hw, fun _ => hparse⟩, ?_, fun h => absurd hw h⟩
    intro warn qs hq
    have hplan := plan_record_of_wellTagged hw warn hq
    exact ⟨fun _ => hw, fun _ => hplan⟩
  · obtain ⟨c, hc⟩ := parse_record_of_not_wellTagged hw
    have hplan := planDatum_of_parse_error hc
    have hread : ¬ ReadOrRejected (Expr.parse (.record entries)) := by
      rw [hc]
      rintro (⟨e, h⟩ | ⟨cause, h, -⟩) <;> cases h
    refine ⟨⟨fun h => absurd h hread, fun h => absurd h hw⟩, ?_, fun _ => ⟨c, hc, hplan⟩⟩
    intro warn qs _
    have hplanned : ¬ PlannedOrRejected (planDatum warn qs (.record entries)).result := by
      rw [hplan warn qs]
      rintro (⟨out, h⟩ | ⟨cause, h, -⟩) <;> cases h
    exact ⟨fun h => absurd h hplanned, fun h => absurd h hw⟩

theorem rejected_and_stopped :
    PlannedOrRejected (planDatum true [.filtered none []] (.record [("type", .number (.int 3))])).result ∧
      ∃ c, (planDatum true [.filtered none []] (.record
        [("type", .text "expr_list"), ("value", .list [.record [("type", .list [])]])])).result =
          .error (.notKey c) := by
  constructor
  · obtain ⟨hparse, hplan, -⟩ := read_or_rejected_iff_wellTagged [("type", .number (.int 3))]
    exact (hplan true _ (by simp)).mpr (hparse.mp (.inr ⟨_, rfl, rfl⟩))
  · have hinner : (Datum.record [("type", .list [])]).HasContainerTag := .inl ⟨[], rfl⟩
    obtain ⟨c, -, h⟩ := (read_or_rejected_iff_wellTagged
      [("type", .text "expr_list"), ("value", .list [.record [("type", .list [])]])]).2.2
      fun hw => hw _ (.under (List.mem_singleton_self _) (.here _)) hinner
    exact ⟨c, h true _⟩

theorem not_all_read_or_rejected :
    ¬ ∀ entries : List (String × Datum), ReadOrRejected (Expr.parse (.record entries)) ∧
      ∀ (warn : Bool) (qs : List Query), .sealed ∉ qs →
        PlannedOrRejected (planDatum warn qs (.record entries)).result := by
  intro h
  have hparse : Expr.parse (.record [("type", .list [])]) = .error (.notKey .list) := rfl
  have hlist := (h [("type", .list [])]).1
  rw [hparse] at hlist
  rcases hlist with ⟨e, he⟩ | ⟨cause, hc, -⟩
  · cases he
  · cases hc

end WhereClause

import WhereClause.Expr.Build
import WhereClause.Expr.Record
import WhereClause.Proofs.Grammar
import WhereClause.Proofs.OperatorNormal

/-! # Nodes written and read again

The record of a node that was read or built denotes that node.
-/

namespace WhereClause

/-! ## Nodes that come about -/

/-- A node stands somewhere in a value. -/
inductive Datum.Holds : Datum → Expr → Prop
  | node (e : Expr) : Holds (.expr e) e
  | item {items : List Datum} {d : Datum} {e : Expr} (hd : d ∈ items) (h : Holds d e) :
    Holds (.list items) e
  | entry {entries : List (String × Datum)} {key : String} {d : Datum} {e : Expr}
    (hd : (key, d) ∈ entries) (h : Holds d e) : Holds (.record entries) e

namespace Datum

theorem holds_expr_iff {e x : Expr} : (expr e).Holds x ↔ x = e := by
  constructor
  · intro h
    cases h
    rfl
  · rintro rfl
    exact .node x

theorem holds_list_iff {items : List Datum} {x : Expr} :
    (list items).Holds x ↔ ∃ d ∈ items, d.Holds x := by
  constructor
  · intro h
    cases h with
    | item hd h => exact ⟨_, hd, h⟩
  · rintro ⟨d, hd, h⟩
    exact .item hd h

theorem holds_record_iff {entries : List (String × Datum)} {x : Expr} :
    (record entries).Holds x ↔ ∃ entry ∈ entries, entry.2.Holds x := by
  constructor
  · intro h
    cases h with
    | entry hd h => exact ⟨_, hd, h⟩
  · rintro ⟨entry, hd, h⟩
    exact .entry hd h

theorem holds_nodes_iff {nodes : List Expr} {x : Expr} :
    (list (nodes.map expr)).Holds x ↔ x ∈ nodes := by
  rw [holds_list_iff]
  constructor
  · rintro ⟨d, hd, hx⟩
    obtain ⟨node, hnode, rfl⟩ := List.mem_map.mp hd
    rwa [holds_expr_iff.mp hx]
  · intro hx
    exact ⟨_, List.mem_map_of_mem hx, .node x⟩

end Datum

/-- A node that is read, made from its fields, or built by hand, from data whose own nodes came about so. -/
inductive Expr.Made : Expr → Prop
  | read {d : Datum} {e : Expr} (hd : ∀ x, d.Holds x → Made x) (h : parse d = .ok e) : Made e
  | fields {form : Form} {entries : List (String × Datum)} {e : Expr}
    (hd : ∀ x, (Datum.record entries).Holds x → Made x) (h : ofFields form entries = .ok e) : Made e
  | literal {d : Datum} {e : Expr} (h : Expr.literal d = .ok e) : Made e
  | column {name : Datum} {e : Expr} (hd : ∀ x, name.Holds x → Made x) (h : columnOf name = .ok e) :
    Made e
  | list {values : List Datum} {e : Expr} (hd : ∀ x, (Datum.list values).Holds x → Made x)
    (h : listOf values = .ok e) : Made e
  | binary {operator left right : Datum} {e : Expr}
    (hd : ∀ x, (Datum.list [operator, left, right]).Holds x → Made x)
    (h : binaryOf operator left right = .ok e) : Made e

/-- Operators are in normal form, nodes inside carry no tag of another form, and what an unknown form
keeps does not name its type again. -/
inductive Expr.Canonical : Expr → Prop
  | string (s : String) : Canonical (.string s)
  | number (n : Number) : Canonical (.number n)
  | bool (b : Bool) : Canonical (.bool b)
  | null : Canonical .null
  | column (name : String) (table : Option String) : Canonical (.column name table)
  | list {items : List Expr} (h : ∀ e ∈ items, Canonical e) (hf : ∀ e ∈ items, e.isForeign = false) :
    Canonical (.list items)
  | binary {operator : String} {left right : Expr} (ho : Operator.normal operator = operator)
    (hl : Canonical left) (hr : Canonical right) (hfl : left.isForeign = false)
    (hfr : right.isForeign = false) : Canonical (.binary operator left right)
  | unknown {kind : String} {extra : List (String × Datum)} (h : ∀ entry ∈ extra, entry.1 ≠ "type") :
    Canonical (.unknown kind extra)

/-! ## A canonical node is denoted by its record -/

theorem Expr.Canonical.denotes {e : Expr} (h : e.Canonical) (hf : e.isForeign = false) :
    e.record.Denotes e := by
  induction h with
  | string s => exact .string rfl rfl
  | number n => exact .number rfl rfl (.number n)
  | bool b => exact .bool rfl rfl (.bool b)
  | null => exact .null rfl (.inr rfl)
  | column name table => exact .column rfl rfl (.inr rfl)
  | @list items _ hforeign ih =>
    -- A list is denoted by pairs: each item with its record.
    let pairs := items.map fun e => (e.record, e)
    have hfst : pairs.map Prod.fst = recordAll items := by
      rw [recordAll_eq_map, List.map_map]
      rfl
    have hsnd : pairs.map Prod.snd = items := by
      rw [List.map_map]
      exact List.map_id items
    have hlist : (Expr.list items).record.Denotes (.list (pairs.map Prod.snd)) := by
      apply Datum.Denotes.list pairs rfl
      · rw [hfst]
        rfl
      · intro pair hpair
        obtain ⟨x, hx, rfl⟩ := List.mem_map.mp hpair
        exact ih x hx (hforeign x hx)
    rwa [hsnd] at hlist
  | @binary operator left right ho _ _ hfl hfr ihl ihr =>
    have h : (Expr.binary operator left right).record.Denotes _ :=
      Datum.Denotes.binary rfl rfl rfl rfl (ihl hfl) (ihr hfr)
    rwa [ho] at h
  | @unknown kind extra h =>
    have hk : Form.ofTag kind = .unknown := by simpa [isForeign, Expr.kind, form] using hf
    have hextra : (Expr.unknown kind extra).entries.filter (·.1 != "type") = extra := by
      rw [entries, List.filter_cons_of_neg (by simp), List.filter_eq_self]
      intro entry hentry
      simpa using h entry hentry
    have hunknown : (Expr.unknown kind extra).record.Denotes _ := Datum.Denotes.unknown rfl hk
    rwa [hextra] at hunknown

/-! ## What is denoted is canonical -/

namespace Datum

theorem holds_of_lookup {entries : List (String × Datum)} {key : String} {d : Datum} {x : Expr}
    (h : entries.lookup key = some d) (hx : d.Holds x) : (record entries).Holds x := by
  obtain ⟨front, back, hsplit, -⟩ := List.lookup_eq_some_iff.mp h
  have hmem : (key, d) ∈ entries := by rw [hsplit]; simp
  exact .entry hmem hx

theorem ne_type_of_mem_filter (entries : List (String × Datum)) :
    ∀ entry ∈ entries.filter (·.1 != "type"), entry.1 ≠ "type" := by
  intro entry h
  simpa using (List.mem_filter.mp h).2

theorem Denotes.canonical {d : Datum} {e : Expr} (h : d.Denotes e) (hd : ∀ x, d.Holds x → x.Canonical) :
    e.Canonical ∧ e.isForeign = false := by
  induction h with
  | string => exact ⟨.string _, rfl⟩
  | number => exact ⟨.number _, rfl⟩
  | bool => exact ⟨.bool _, rfl⟩
  | null => exact ⟨.null, rfl⟩
  | column => exact ⟨.column _ _, rfl⟩
  | emptyList => exact ⟨.list (by simp) (by simp), rfl⟩
  | list pairs ht hv _ ih =>
    have hpairs : ∀ pair ∈ pairs, pair.2.Canonical ∧ pair.2.isForeign = false := by
      intro pair hpair
      apply ih pair hpair
      intro x hx
      exact hd x (holds_of_lookup hv (.item (List.mem_map.mpr ⟨pair, hpair, rfl⟩) hx))
    refine ⟨.list ?_ ?_, rfl⟩
    · intro x hx
      obtain ⟨pair, hpair, rfl⟩ := List.mem_map.mp hx
      exact (hpairs pair hpair).1
    · intro x hx
      obtain ⟨pair, hpair, rfl⟩ := List.mem_map.mp hx
      exact (hpairs pair hpair).2
  | binary ht ho hl hr _ _ ihl ihr =>
    obtain ⟨hcl, hfl⟩ := ihl fun x hx => hd x (holds_of_lookup hl hx)
    obtain ⟨hcr, hfr⟩ := ihr fun x hx => hd x (holds_of_lookup hr hx)
    exact ⟨.binary (Operator.normal_normal _) hcl hcr hfl hfr, rfl⟩
  | @unknown entries kind ht hk =>
    refine ⟨.unknown (ne_type_of_mem_filter entries), ?_⟩
    simp [Expr.isForeign, Expr.kind, Expr.form, hk]
  | node h => exact ⟨hd _ (.node _), h⟩

end Datum

/-! ## Nodes made from their fields -/

theorem node_of_construct {form : Form} {tag : String} {entries : List (String × Datum)} {e : Expr}
    (ht : form.tag? = some tag) (h : Expr.construct form entries = .ok e) :
    (Datum.record (("type", .text tag) :: entries)).node = .ok e := by
  have htype : (("type", Datum.text tag) :: entries).lookup "type" = some (.text tag) := rfl
  have hfield : ∀ key, key ≠ "type" →
      (partsOf (("type", Datum.text tag) :: entries)).lookup key = (partsOf entries).lookup key := by
    intro key hkey
    rw [partsOf, List.lookup_cons, beq_false_of_ne hkey]
  rw [Datum.node_of_tagged htype ht]
  unfold Expr.construct at h
  cases form
  case unknown => cases ht
  -- Each form has its own fields, and none of them is the `type`.
  all_goals
    simp only [Expr.assemble, Checked.also_eq_ok_iff] at h ⊢
    refine ⟨Datum.checkTag_eq_ok htype ht, ?_⟩
    simp only [hfield _ (by decide : "value" ≠ "type"), hfield _ (by decide : "column" ≠ "type"),
      hfield _ (by decide : "table" ≠ "type"), hfield _ (by decide : "operator" ≠ "type"),
      hfield _ (by decide : "left" ≠ "type"), hfield _ (by decide : "right" ≠ "type")]
    exact h.2

theorem canonical_of_construct {form : Form} {entries : List (String × Datum)} {e : Expr}
    (hd : ∀ x, (Datum.record entries).Holds x → x.Canonical)
    (h : Expr.construct form entries = .ok e) : e.Canonical := by
  cases ht : form.tag? with
  | none =>
    -- The unknown form takes any `type`, also the tag of another form, so nothing is said of its tag.
    cases form <;> cases ht
    obtain ⟨kind, -, rfl⟩ := Datum.assemble_unknown_eq_ok_iff.mp h
    exact .unknown (Datum.ne_type_of_mem_filter entries)
  | some tag =>
    -- With its tag in front the record is read, and the tag holds no node.
    have hdenotes := Datum.node_eq_ok_iff.mp (node_of_construct ht h)
    refine (hdenotes.canonical ?_).1
    intro x hx
    cases hx with
    | entry hmem hx =>
      rcases List.mem_cons.mp hmem with he | hmem
      · cases he
        cases hx
      · exact hd x (.entry hmem hx)

theorem ofFields_eq_ok_iff {form : Form} {entries : List (String × Datum)} {e : Expr} :
    Expr.ofFields form entries = .ok e ↔ Expr.construct form entries = .ok e := by
  unfold Expr.ofFields
  cases Expr.construct form entries <;> simp [Checked.orInvalid]

/-! ## Nodes built by hand -/

theorem canonical_of_literal {d : Datum} {e : Expr} (h : Expr.literal d = .ok e) : e.Canonical := by
  cases d with
  | null => cases h; exact .null
  | bool b => cases h; exact .bool b
  | number n => cases h; exact .number n
  | text s => cases h; exact .string s
  | list | record | expr => cases h

theorem canonical_of_operand {d : Datum} {e : Expr} (hd : ∀ x, d.Holds x → x.Canonical)
    (h : Expr.operand d = .ok e) : e.Canonical := by
  unfold Expr.operand at h
  split at h
  · cases h
    exact hd _ (.node _)
  · exact canonical_of_literal h

theorem exists_of_mem_mapM {α β ε : Type} {f : α → Except ε β} {as : List α} {bs : List β}
    (h : as.mapM f = .ok bs) : ∀ b ∈ bs, ∃ a ∈ as, f a = .ok b := by
  induction as generalizing bs with
  | nil =>
    cases h
    simp
  | cons a as ih =>
    rw [List.mapM_cons] at h
    cases hb : f a with
    | error e => rw [hb] at h; cases h
    | ok b =>
      cases hbs : as.mapM f with
      | error e => rw [hb, hbs] at h; cases h
      | ok rest =>
        rw [hb, hbs] at h
        cases h
        intro x hx
        rcases List.mem_cons.mp hx with rfl | hx
        · exact ⟨a, List.mem_cons_self .., hb⟩
        · obtain ⟨y, hy, hfy⟩ := ih hbs x hx
          exact ⟨y, List.mem_cons_of_mem _ hy, hfy⟩

theorem canonical_of_listOf {values : List Datum} {e : Expr}
    (hd : ∀ x, (Datum.list values).Holds x → x.Canonical) (h : Expr.listOf values = .ok e) :
    e.Canonical := by
  unfold Expr.listOf at h
  cases hnodes : values.mapM Expr.operand with
  | error f => rw [hnodes] at h; cases h
  | ok nodes =>
    rw [hnodes] at h
    refine canonical_of_construct ?_ (ofFields_eq_ok_iff.mp h)
    intro x hx
    have hvalue : (Datum.list (nodes.map .expr)).Holds x := by simpa [Datum.holds_record_iff] using hx
    obtain ⟨v, hv, hoperand⟩ := exists_of_mem_mapM hnodes x (Datum.holds_nodes_iff.mp hvalue)
    exact canonical_of_operand (fun y hy => hd y (.item hv hy)) hoperand

theorem canonical_of_binaryOf {operator left right : Datum} {e : Expr}
    (hd : ∀ x, (Datum.list [operator, left, right]).Holds x → x.Canonical)
    (h : Expr.binaryOf operator left right = .ok e) : e.Canonical := by
  unfold Expr.binaryOf at h
  cases hnode : Expr.operand right with
  | error f => rw [hnode] at h; cases h
  | ok node =>
    rw [hnode] at h
    have hright := canonical_of_operand (fun x hx => hd x (.item (by simp) hx)) hnode
    refine canonical_of_construct ?_ (ofFields_eq_ok_iff.mp h)
    intro x hx
    have hx : operator.Holds x ∨ left.Holds x ∨ x = node := by
      simpa [Datum.holds_record_iff, Datum.holds_expr_iff] using hx
    rcases hx with hx | hx | rfl
    · exact hd x (.item (by simp) hx)
    · exact hd x (.item (by simp) hx)
    · exact hright

/-! ## All nodes that come about -/

theorem Expr.Made.canonical {e : Expr} (h : e.Made) : e.Canonical := by
  induction h with
  | read _ h ih =>
    unfold parse at h
    split at h
    · cases h
      exact ih _ (.node _)
    · split at h
      · rename_i hread
        cases h
        exact ((Datum.node_eq_ok_iff.mp hread).canonical ih).1
      · cases h
      · cases h
    · cases h
  | fields _ h ih => exact canonical_of_construct ih (ofFields_eq_ok_iff.mp h)
  | literal h => exact canonical_of_literal h
  | column _ h ih =>
    refine canonical_of_construct ?_ (ofFields_eq_ok_iff.mp h)
    intro x hx
    exact ih x (by simpa [Datum.holds_record_iff] using hx)
  | list _ h ih => exact canonical_of_listOf ih h
  | binary _ h ih => exact canonical_of_binaryOf ih h

theorem parse_record_of_canonical {e : Expr} (h : e.Canonical) (hf : e.isForeign = false) :
    Expr.parse e.record = .ok e := parse_record_eq_ok_iff.mpr (h.denotes hf)

/-- The record of `rank not like (007, yes, ?)`, with a break in the operator, a number and a truth value
given as texts, an entry of no field, and a form that is not known. -/
def roughEntries : List (String × Datum) :=
  [("type", .text "binary_expr"), ("operator", .text "not\t like"), ("note", .null),
    ("left", .record [("type", .text "column_ref"), ("column", .text "rank")]),
    ("right", .record [("value", .list [.record [("value", .text " 007"), ("type", .text "number")],
      .record [("type", .text "bool"), ("value", .text "Yes")],
      .record [("type", .text "hint"), ("of", .list [.null])]]), ("type", .text "expr_list")])]

def smoothClause : Expr :=
  .binary "NOT LIKE" (.column "rank" none)
    (.list [.number (.int 7), .bool true, .unknown "hint" [("of", .list [.null])]])

end WhereClause

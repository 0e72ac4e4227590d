import WhereClause.Expr.Equal
import WhereClause.Proofs.NodePosition

/-! # The grammar of records

A value in node position denotes at most one node. A record is read exactly if it denotes a node, and
then as that node.
-/

namespace WhereClause

/-! ## Checks that succeed -/

namespace Checked

variable {α β γ : Type}

@[simp] theorem map_eq_ok_iff {f : α → β} {x : Checked α} {b : β} :
    x.map f = ok b ↔ ∃ a, x = ok a ∧ f a = b := by
  cases x <;> simp [map]

@[simp] theorem both_eq_ok_iff {f : α → β → γ} {x : Checked α} {y : Checked β} {c : γ} :
    both f x y = ok c ↔ ∃ a b, x = ok a ∧ y = ok b ∧ f a b = c := by
  cases x <;> cases y <;> simp [both]

@[simp] theorem also_eq_ok_iff {x : Checked Unit} {y : Checked α} {a : α} :
    x.also y = ok a ↔ x = ok () ∧ y = ok a := by
  cases x <;> cases y <;> simp [also, both]

theorem ok_also (x : Checked α) : (ok ()).also x = x := by
  cases x <;> rfl

theorem all_eq_ok_iff {xs : List (Checked α)} {as : List α} : all xs = ok as ↔ xs = as.map ok := by
  induction xs generalizing as with
  | nil =>
    constructor
    · intro h
      cases h
      rfl
    · intro h
      rw [List.map_eq_nil_iff.mp h.symm]
      rfl
  | cons x xs ih =>
    rw [all, both_eq_ok_iff]
    cases as with
    | nil => simp
    | cons a as => simp [ih]

end Checked

open Checked

/-! ## Entries that are read -/

namespace Datum

@[simp] theorem part_value (d : Datum) : d.part.value = d := rfl

@[simp] theorem part_node (d : Datum) : d.part.node = d.node := rfl

@[simp] theorem part_nodes (d : Datum) : d.part.nodes = d.nodes := rfl

end Datum

theorem lookup_partsOf_some {entries : List (String × Datum)} {key : String} {d : Datum}
    (h : entries.lookup key = some d) : (partsOf entries).lookup key = some d.part := by
  rw [lookup_partsOf, h]
  rfl

namespace Part

variable {α : Type} {entries : List (String × Datum)} {key : String} {read : Part → Checked α} {a : α}

@[simp] theorem required_eq_ok_iff :
    required ((partsOf entries).lookup key) read = ok a ↔
      ∃ d, entries.lookup key = some d ∧ read d.part = ok a := by
  rw [lookup_partsOf]
  cases entries.lookup key <;> simp [required, fault]

@[simp] theorem withDefault_eq_ok_iff {default : α} :
    withDefault ((partsOf entries).lookup key) default read = ok a ↔
      (entries.lookup key = none ∧ default = a) ∨
        ∃ d, entries.lookup key = some d ∧ read d.part = ok a := by
  rw [lookup_partsOf]
  cases entries.lookup key <;> simp [withDefault]

end Part

/-! ## Fields -/

namespace Datum

@[simp] theorem asText_eq_ok_iff {d : Datum} {s : String} : d.asText = ok s ↔ d = text s := by
  cases d <;> simp [asText, fault]

@[simp] theorem asOptionalText_eq_ok_iff {d : Datum} {s : Option String} :
    d.asOptionalText = ok s ↔ d = ofOption s := by
  cases d <;> cases s <;> simp [asOptionalText, fault, ofOption]

@[simp] theorem asNull_eq_ok_iff {d : Datum} {u : Unit} : d.asNull = ok u ↔ d = null := by
  cases d <;> simp [asNull, fault]

@[simp] theorem asTag_eq_ok_iff {tag : String} {d : Datum} : d.asTag tag = ok () ↔ d = text tag := by
  unfold asTag
  split
  · split <;> simp_all [fault]
  · rename_i hne
    simpa [fault] using hne tag

def truthWords (b : Bool) : List String := if b then trueWords else falseWords

/-- The truth values, the numbers equal to 0 or 1, and certain words in any case of ASCII letters. -/
inductive IsTruth : Datum → Bool → Prop
  | bool (b : Bool) : IsTruth (.bool b) b
  | number {n : Number} {b : Bool} (h : n.same (Number.ofBool b) = true) : IsTruth (.number n) b
  | word {s : String} {b : Bool} (h : String.ofList (Text.lowerAscii s.toList) ∈ truthWords b) :
    IsTruth (.text s) b

/-- The numbers, the truth values as 1 and 0, and texts that are numerals between white space. A text
is read as a double only if it is no whole number. -/
inductive IsNumber : Datum → Number → Prop
  | number (n : Number) : IsNumber (.number n) n
  | bool (b : Bool) : IsNumber (.bool b) (Number.ofBool b)
  | whole {s : String} {n : Int} (h : Numeral.int? (Text.trim s.toList) = some n) :
    IsNumber (.text s) (.int n)
  | double {s : String} {x : Double} (hi : Numeral.int? (Text.trim s.toList) = none)
    (h : Numeral.double? (Text.trim s.toList) = some x) : IsNumber (.text s) (.double x)

theorem truthOfInt_eq_ok_iff {n : Int} {b : Bool} :
    truthOfInt n = ok b ↔ n = if b then 1 else 0 := by
  unfold truthOfInt
  repeat' split
  all_goals cases b <;> simp_all [fault]

theorem truthOfDouble_eq_ok_iff {x : Double} {b : Bool} :
    truthOfDouble x = ok b ↔ x.toInt? = some (if b then 1 else 0) := by
  unfold truthOfDouble
  cases x.toInt? with
  | none => simp [fault]
  | some n =>
    dsimp only
    split
    · simp [truthOfInt_eq_ok_iff]
    · cases b <;> simp [fault] <;> omega

theorem not_mem_trueWords {word : String} (h : word ∈ falseWords) : word ∉ trueWords := by
  simp only [falseWords, List.mem_cons, List.not_mem_nil, or_false] at h
  rcases h with rfl | rfl | rfl | rfl | rfl | rfl <;> decide

theorem truthOfText_eq_ok_iff {s : String} {b : Bool} :
    truthOfText s = ok b ↔ String.ofList (Text.lowerAscii s.toList) ∈ truthWords b := by
  simp only [truthOfText]
  generalize String.ofList (Text.lowerAscii s.toList) = word
  by_cases hf : word ∈ falseWords
  · have ht := not_mem_trueWords hf
    cases b <;> simp [truthWords, hf, ht]
  · by_cases ht : word ∈ trueWords
    · cases b <;> simp [truthWords, hf, ht]
    · cases b <;> simp [truthWords, hf, ht, fault]

@[simp] theorem asTruth_eq_ok_iff {d : Datum} {b : Bool} : d.asTruth = ok b ↔ d.IsTruth b := by
  constructor
  · intro h
    unfold asTruth at h
    split at h
    · cases h
      exact .bool b
    · rw [truthOfInt_eq_ok_iff] at h
      exact .number (by simp [Number.same, Number.ofBool, h])
    · rw [truthOfDouble_eq_ok_iff] at h
      exact .number (by simp [Number.same, Number.ofBool, h])
    · exact .word (truthOfText_eq_ok_iff.mp h)
    · cases h
  · intro h
    cases h with
    | bool => rfl
    | @number n _ h =>
      cases n with
      | int n => exact truthOfInt_eq_ok_iff.mpr (by simpa [Number.same, Number.ofBool] using h)
      | double x => exact truthOfDouble_eq_ok_iff.mpr (by simpa [Number.same, Number.ofBool] using h)
    | word h => exact truthOfText_eq_ok_iff.mpr h

theorem numberOfText_eq_ok_iff {s : String} {n : Number} :
    numberOfText s = ok n ↔ (text s).IsNumber n := by
  simp only [numberOfText, Numeral.read?]
  constructor
  · intro h
    cases hi : Numeral.int? (Text.trim s.toList) with
    | some m =>
      rw [hi] at h
      cases h
      exact .whole hi
    | none =>
      rw [hi] at h
      cases hd : Numeral.double? (Text.trim s.toList) with
      | some x =>
        rw [hd] at h
        cases h
        exact .double hi hd
      | none =>
        rw [hd] at h
        cases h
  · intro h
    cases h with
    | whole h => rw [h]
    | double hi h => rw [hi, h]; rfl

@[simp] theorem asNumber_eq_ok_iff {d : Datum} {n : Number} : d.asNumber = ok n ↔ d.IsNumber n := by
  cases d with
  | text s => exact numberOfText_eq_ok_iff
  | number m =>
    constructor
    · intro h
      cases h
      exact .number _
    · intro h
      cases h
      rfl
  | bool b =>
    constructor
    · intro h
      cases h
      exact .bool _
    · intro h
      cases h
      rfl
  | null | list | record | expr =>
    constructor
    · intro h
      cases h
    · intro h
      cases h

end Datum

/-! ## What a value denotes -/

/-- A value in node position and the node that it stands for. The `type` of a record tells which entries
count, and a record of an unknown type keeps them all. A node stands for itself, unless it carries the
tag of another form. -/
inductive Datum.Denotes : Datum → Expr → Prop
  | string {entries : List (String × Datum)} {s : String}
    (ht : entries.lookup "type" = some (.text "string"))
    (hv : entries.lookup "value" = some (.text s)) : Denotes (.record entries) (.string s)
  | number {entries : List (String × Datum)} {d : Datum} {n : Number}
    (ht : entries.lookup "type" = some (.text "number"))
    (hv : entries.lookup "value" = some d) (hn : d.IsNumber n) : Denotes (.record entries) (.number n)
  | bool {entries : List (String × Datum)} {d : Datum} {b : Bool}
    (ht : entries.lookup "type" = some (.text "bool"))
    (hv : entries.lookup "value" = some d) (hb : d.IsTruth b) : Denotes (.record entries) (.bool b)
  | null {entries : List (String × Datum)}
    (ht : entries.lookup "type" = some (.text "null"))
    (hv : entries.lookup "value" = none ∨ entries.lookup "value" = some .null) :
    Denotes (.record entries) .null
  | column {entries : List (String × Datum)} {name : String} {table : Option String}
    (ht : entries.lookup "type" = some (.text "column_ref"))
    (hc : entries.lookup "column" = some (.text name))
    (hl : (entries.lookup "table" = none ∧ none = table) ∨
      entries.lookup "table" = some (.ofOption table)) :
    Denotes (.record entries) (.column name table)
  | emptyList {entries : List (String × Datum)}
    (ht : entries.lookup "type" = some (.text "expr_list"))
    (hv : entries.lookup "value" = none) : Denotes (.record entries) (.list [])
  | list {entries : List (String × Datum)} (pairs : List (Datum × Expr))
    (ht : entries.lookup "type" = some (.text "expr_list"))
    (hv : entries.lookup "value" = some (.list (pairs.map Prod.fst)))
    (hp : ∀ pair ∈ pairs, Denotes pair.1 pair.2) : Denotes (.record entries) (.list (pairs.map Prod.snd))
  | binary {entries : List (String × Datum)} {operator : String} {l r : Datum} {left right : Expr}
    (ht : entries.lookup "type" = some (.text "binary_expr"))
    (ho : entries.lookup "operator" = some (.text operator))
    (hl : entries.lookup "left" = some l) (hr : entries.lookup "right" = some r)
    (hleft : Denotes l left) (hright : Denotes r right) :
    Denotes (.record entries) (.binary (Operator.normal operator) left right)
  | unknown {entries : List (String × Datum)} {kind : String}
    (ht : entries.lookup "type" = some (.text kind)) (hk : Form.ofTag kind = .unknown) :
    Denotes (.record entries) (.unknown kind (entries.filter (·.1 != "type")))
  | node {e : Expr} (h : e.isForeign = false) : Denotes (.expr e) e

theorem Form.eq_of_ofTag {form : Form} {tag t : String} (h : ofTag tag = form) (ht : form.tag? = some t) :
    t = tag := by
  have hform : form ≠ .unknown := by
    rintro rfl
    cases ht
  have htag : form.tag? = some tag := tag_ofTag h hform
  exact Option.some.inj (ht.symm.trans htag)

namespace Datum

/-! ## Records by their tags -/

section Tagged

variable {entries : List (String × Datum)} {e : Expr}

theorem node_of_tagged {form : Form} {tag : String} (ht : entries.lookup "type" = some (text tag))
    (hf : form.tag? = some tag) : (record entries).node = Expr.assemble form (partsOf entries) := by
  rw [node_of_tag ht, Form.ofTag_tag hf]

theorem checkTag_eq_ok {form : Form} {tag : String} (ht : entries.lookup "type" = some (text tag))
    (hf : form.tag? = some tag) : Expr.checkTag form ((partsOf entries).lookup "type") = ok () := by
  simp [Expr.checkTag, ht, hf]

theorem node_string_eq_ok_iff (ht : entries.lookup "type" = some (text "string")) :
    (record entries).node = ok e ↔
      ∃ s, entries.lookup "value" = some (text s) ∧ .string s = e := by
  have hf : Form.string.tag? = some "string" := rfl
  rw [node_of_tagged ht hf]
  simp [Expr.assemble, checkTag_eq_ok ht hf]

theorem node_number_eq_ok_iff (ht : entries.lookup "type" = some (text "number")) :
    (record entries).node = ok e ↔
      ∃ n, (∃ d, entries.lookup "value" = some d ∧ d.IsNumber n) ∧ .number n = e := by
  have hf : Form.number.tag? = some "number" := rfl
  rw [node_of_tagged ht hf]
  simp [Expr.assemble, checkTag_eq_ok ht hf]

theorem node_bool_eq_ok_iff (ht : entries.lookup "type" = some (text "bool")) :
    (record entries).node = ok e ↔
      ∃ b, (∃ d, entries.lookup "value" = some d ∧ d.IsTruth b) ∧ .bool b = e := by
  have hf : Form.bool.tag? = some "bool" := rfl
  rw [node_of_tagged ht hf]
  simp [Expr.assemble, checkTag_eq_ok ht hf]

theorem node_null_eq_ok_iff (ht : entries.lookup "type" = some (text "null")) :
    (record entries).node = ok e ↔
      (entries.lookup "value" = none ∨ entries.lookup "value" = some null) ∧ .null = e := by
  have hf : Form.null.tag? = some "null" := rfl
  rw [node_of_tagged ht hf]
  simp [-List.lookup_eq_none_iff, Expr.assemble, checkTag_eq_ok ht hf]

theorem node_column_eq_ok_iff (ht : entries.lookup "type" = some (text "column_ref")) :
    (record entries).node = ok e ↔
      ∃ name table, entries.lookup "column" = some (text name) ∧
        ((entries.lookup "table" = none ∧ none = table) ∨
          entries.lookup "table" = some (ofOption table)) ∧ .column name table = e := by
  have hf : Form.column.tag? = some "column_ref" := rfl
  rw [node_of_tagged ht hf]
  simp [-List.lookup_eq_none_iff, Expr.assemble, checkTag_eq_ok ht hf]

theorem node_list_eq_ok_iff (ht : entries.lookup "type" = some (text "expr_list")) :
    (record entries).node = ok e ↔
      ∃ nodes, ((entries.lookup "value" = none ∧ [] = nodes) ∨
        ∃ d, entries.lookup "value" = some d ∧ d.nodes = ok nodes) ∧ .list nodes = e := by
  have hf : Form.list.tag? = some "expr_list" := rfl
  rw [node_of_tagged ht hf]
  simp [-List.lookup_eq_none_iff, Expr.assemble, checkTag_eq_ok ht hf]

theorem node_binary_eq_ok_iff (ht : entries.lookup "type" = some (text "binary_expr")) :
    (record entries).node = ok e ↔
      ∃ operator left right, entries.lookup "operator" = some (text operator) ∧
        (∃ l, entries.lookup "left" = some l ∧ l.node = ok left) ∧
        (∃ r, entries.lookup "right" = some r ∧ r.node = ok right) ∧
        .binary (Operator.normal operator) left right = e := by
  have hf : Form.binary.tag? = some "binary_expr" := rfl
  rw [node_of_tagged ht hf]
  simp only [Expr.assemble, also_eq_ok_iff, checkTag_eq_ok ht hf, true_and, both_eq_ok_iff,
    map_eq_ok_iff, Part.required_eq_ok_iff, part_value, part_node, asText_eq_ok_iff]
  constructor
  · rintro ⟨_, _, ⟨operator, ⟨d, ho, rfl⟩, rfl⟩, ⟨left, right, hl, hr, rfl⟩, he⟩
    exact ⟨operator, left, right, ho, hl, hr, he⟩
  · rintro ⟨operator, left, right, ho, hl, hr, he⟩
    exact ⟨_, _, ⟨operator, ⟨_, ho, rfl⟩, rfl⟩, ⟨left, right, hl, hr, rfl⟩, he⟩

theorem extra_partsOf (entries : List (String × Datum)) :
    ((partsOf entries).filter (·.1 != "type")).map (fun (key, p) => (key, p.value)) =
      entries.filter (·.1 != "type") := by
  rw [partsOf_eq_map, List.filter_map, List.map_map]
  exact List.map_id'' (fun _ => rfl) _

theorem assemble_unknown_eq_ok_iff :
    Expr.assemble .unknown (partsOf entries) = ok e ↔
      ∃ kind, entries.lookup "type" = some (text kind) ∧
        .unknown kind (entries.filter (·.1 != "type")) = e := by
  simp [Expr.assemble, extra_partsOf]

end Tagged

/-! ## Lists -/

theorem nodes_eq_ok_iff {d : Datum} {nodes : List Expr} :
    d.nodes = ok nodes ↔ ∃ items, d = .list items ∧ items.map node = nodes.map ok := by
  cases d with
  | list items => simp [Datum.nodes, nodesOf_eq_all, all_eq_ok_iff]
  | null | bool | number | text | record | expr => simp [Datum.nodes, fault]

theorem node_pairs {pairs : List (Datum × Expr)} (h : ∀ pair ∈ pairs, pair.1.node = ok pair.2) :
    (pairs.map Prod.fst).map node = (pairs.map Prod.snd).map ok := by
  rw [List.map_map, List.map_map]
  exact List.map_congr_left h

theorem node_eq_ok_of_mem_children {d child : Datum} {e : Expr} (h : d.node = ok e)
    (hc : child ∈ d.children) : ∃ f, child.node = ok f := by
  obtain ⟨entries, rfl, ⟨ht, hside⟩ | ⟨ht, items, hv, hitem⟩⟩ := cases_of_mem_children hc
  · obtain ⟨_, left, right, -, ⟨l, hl, hleft⟩, ⟨r, hr, hright⟩, -⟩ := (node_binary_eq_ok_iff ht).mp h
    rcases hside with hchild | hchild
    · obtain rfl := Option.some.inj (hl.symm.trans hchild)
      exact ⟨left, hleft⟩
    · obtain rfl := Option.some.inj (hr.symm.trans hchild)
      exact ⟨right, hright⟩
  · obtain ⟨nodes, ⟨hnone, -⟩ | ⟨value, hvalue, hnodes⟩, -⟩ := (node_list_eq_ok_iff ht).mp h
    · cases hnone.symm.trans hv
    · obtain rfl := Option.some.inj (hv.symm.trans hvalue)
      obtain ⟨_, ⟨⟩, hitems⟩ := nodes_eq_ok_iff.mp hnodes
      have hmem : child.node ∈ nodes.map ok := hitems ▸ List.mem_map_of_mem hitem
      obtain ⟨f, -, hf⟩ := List.mem_map.mp hmem
      exact ⟨f, hf.symm⟩

/-! ## What denotes is read -/

theorem Denotes.node_eq_ok {d : Datum} {e : Expr} (h : d.Denotes e) : d.node = ok e := by
  induction h with
  | string ht hv => exact (node_string_eq_ok_iff ht).mpr ⟨_, hv, rfl⟩
  | number ht hv hn => exact (node_number_eq_ok_iff ht).mpr ⟨_, ⟨_, hv, hn⟩, rfl⟩
  | bool ht hv hb => exact (node_bool_eq_ok_iff ht).mpr ⟨_, ⟨_, hv, hb⟩, rfl⟩
  | null ht hv => exact (node_null_eq_ok_iff ht).mpr ⟨hv, rfl⟩
  | column ht hc hl => exact (node_column_eq_ok_iff ht).mpr ⟨_, _, hc, hl, rfl⟩
  | emptyList ht hv => exact (node_list_eq_ok_iff ht).mpr ⟨_, .inl ⟨hv, rfl⟩, rfl⟩
  | list pairs ht hv _ ih =>
    have hnodes := nodes_eq_ok_iff.mpr ⟨_, rfl, node_pairs ih⟩
    exact (node_list_eq_ok_iff ht).mpr ⟨_, .inr ⟨_, hv, hnodes⟩, rfl⟩
  | binary ht ho hl hr _ _ ihl ihr =>
    exact (node_binary_eq_ok_iff ht).mpr ⟨_, _, _, ho, ⟨_, hl, ihl⟩, ⟨_, hr, ihr⟩, rfl⟩
  | unknown ht hk =>
    rw [node_of_tag ht, hk]
    exact assemble_unknown_eq_ok_iff.mpr ⟨_, ht, rfl⟩
  | node h => rw [Datum.node, Expr.adopt, h]; rfl

/-! ## What is read denotes -/

theorem children_induction {motive : Datum → Prop}
    (step : ∀ d, (∀ child ∈ d.children, motive child) → motive d) (d : Datum) : motive d :=
  step d fun child _ => children_induction step child
termination_by sizeOf d
decreasing_by exact sizeOf_lt_of_mem_children ‹_›

theorem tag_of_node_eq_ok {entries : List (String × Datum)} {e : Expr}
    (h : (record entries).node = ok e) : ∃ tag, entries.lookup "type" = some (text tag) := by
  by_cases ht : ∃ tag, entries.lookup "type" = some (text tag)
  · exact ht
  · have hu : ¬ (record entries).HasContainerTag := by
      intro hc
      obtain ⟨c, hstop⟩ := stopped_node_of_containerTag hc
      rw [h] at hstop
      cases hstop
    rw [node_of_no_tag (fun tag hl => ht ⟨tag, hl⟩) hu, assemble_unknown_eq_ok_iff] at h
    obtain ⟨kind, hl, -⟩ := h
    exact absurd ⟨kind, hl⟩ ht

theorem denotes_list {entries : List (String × Datum)} {items : List Datum} {nodes : List Expr}
    (ht : entries.lookup "type" = some (text "expr_list"))
    (hv : entries.lookup "value" = some (list items)) (hnodes : items.map node = nodes.map ok)
    (ih : ∀ item ∈ items, ∀ e, item.node = ok e → item.Denotes e) :
    (record entries).Denotes (.list nodes) := by
  have hlength : items.length = nodes.length := by simpa using congrArg List.length hnodes
  have hfst : (items.zip nodes).map Prod.fst = items := List.map_fst_zip (by omega)
  have hsnd : (items.zip nodes).map Prod.snd = nodes := List.map_snd_zip (by omega)
  have h : ∀ pair ∈ items.zip nodes, pair.1.Denotes pair.2 := by
    intro pair hpair
    obtain ⟨i, hi, hget⟩ := List.mem_iff_getElem.mp hpair
    rw [List.length_zip] at hi
    rw [List.getElem_zip] at hget
    have hread : items[i].node = ok nodes[i] := by
      have := List.getElem_of_eq hnodes (by simp; omega : i < (items.map node).length)
      simpa using this
    rw [← hget]
    exact ih _ (List.getElem_mem _) _ hread
  have hlist := Denotes.list (items.zip nodes) ht (by rw [hfst]; exact hv) h
  rwa [hsnd] at hlist

theorem mem_children_binary {entries : List (String × Datum)} {key : String} {d : Datum}
    (ht : entries.lookup "type" = some (text "binary_expr")) (hk : key = "left" ∨ key = "right")
    (hd : entries.lookup key = some d) : d ∈ (record entries).children := by
  rcases hk with rfl | rfl <;> simp [children, ht, hd]

theorem mem_children_list {entries : List (String × Datum)} {items : List Datum} {d : Datum}
    (ht : entries.lookup "type" = some (text "expr_list"))
    (hv : entries.lookup "value" = some (list items)) (hd : d ∈ items) :
    d ∈ (record entries).children := by
  simpa [children, ht, hv] using hd

theorem denotes_of_node_eq_ok (d : Datum) : ∀ e, d.node = ok e → d.Denotes e := by
  induction d using children_induction with
  | step d ih =>
  intro e h
  cases d with
  | record entries =>
    obtain ⟨tag, ht⟩ := tag_of_node_eq_ok h
    -- What is read depends on the form that the tag marks.
    cases hform : Form.ofTag tag with
    | string =>
      obtain rfl := Form.eq_of_ofTag (t := "string") hform rfl
      obtain ⟨s, hv, rfl⟩ := (node_string_eq_ok_iff ht).mp h
      exact .string ht hv
    | number =>
      obtain rfl := Form.eq_of_ofTag (t := "number") hform rfl
      obtain ⟨n, ⟨d, hv, hn⟩, rfl⟩ := (node_number_eq_ok_iff ht).mp h
      exact .number ht hv hn
    | bool =>
      obtain rfl := Form.eq_of_ofTag (t := "bool") hform rfl
      obtain ⟨b, ⟨d, hv, hb⟩, rfl⟩ := (node_bool_eq_ok_iff ht).mp h
      exact .bool ht hv hb
    | null =>
      obtain rfl := Form.eq_of_ofTag (t := "null") hform rfl
      obtain ⟨hv, rfl⟩ := (node_null_eq_ok_iff ht).mp h
      exact .null ht hv
    | column =>
      obtain rfl := Form.eq_of_ofTag (t := "column_ref") hform rfl
      obtain ⟨name, table, hc, hl, rfl⟩ := (node_column_eq_ok_iff ht).mp h
      exact .column ht hc hl
    | list =>
      obtain rfl := Form.eq_of_ofTag (t := "expr_list") hform rfl
      obtain ⟨nodes, ⟨hv, rfl⟩ | ⟨d, hv, hn⟩, rfl⟩ := (node_list_eq_ok_iff ht).mp h
      · exact .emptyList ht hv
      · obtain ⟨items, rfl, hnodes⟩ := nodes_eq_ok_iff.mp hn
        exact denotes_list ht hv hnodes fun item hi => ih item (mem_children_list ht hv hi)
    | binary =>
      obtain rfl := Form.eq_of_ofTag (t := "binary_expr") hform rfl
      obtain ⟨operator, left, right, ho, ⟨l, hl, hleft⟩, ⟨r, hr, hright⟩, rfl⟩ :=
        (node_binary_eq_ok_iff ht).mp h
      have hdl := ih l (mem_children_binary ht (.inl rfl) hl) left hleft
      have hdr := ih r (mem_children_binary ht (.inr rfl) hr) right hright
      exact .binary ht ho hl hr hdl hdr
    | unknown =>
      rw [node_of_tag ht, hform, assemble_unknown_eq_ok_iff] at h
      obtain ⟨kind, hk, rfl⟩ := h
      cases ht.symm.trans hk
      exact .unknown ht hform
  | expr x =>
    rw [node, Expr.adopt] at h
    split at h
    · cases h
    · rename_i hforeign
      cases h
      exact .node (by simpa using hforeign)
  | null | bool | number | text | list => cases h

theorem node_eq_ok_iff {d : Datum} {e : Expr} : d.node = ok e ↔ d.Denotes e :=
  ⟨denotes_of_node_eq_ok d e, Denotes.node_eq_ok⟩

theorem Denotes.unique {d : Datum} {e f : Expr} (he : d.Denotes e) (hf : d.Denotes f) : e = f := by
  have h : Checked.ok e = .ok f := he.node_eq_ok.symm.trans hf.node_eq_ok
  cases h
  rfl

/-- A value in node position that denotes a node. -/
def WellFormed (d : Datum) : Prop := ∃ e, d.Denotes e

theorem Denotes.wellFormed_of_mem_children {d child : Datum} {e : Expr} (h : d.Denotes e)
    (hc : child ∈ d.children) : child.WellFormed := by
  obtain ⟨f, hf⟩ := node_eq_ok_of_mem_children h.node_eq_ok hc
  exact ⟨f, node_eq_ok_iff.mp hf⟩

theorem Denotes.form {entries : List (String × Datum)} {e : Expr} (h : (record entries).Denotes e) :
    ∃ tag, entries.lookup "type" = some (text tag) ∧ e.form = Form.ofTag tag := by
  cases h with
  | unknown ht hk => exact ⟨_, ht, hk.symm⟩
  | string ht | number ht | bool ht | null ht | column ht | emptyList ht | list _ ht | binary ht =>
    exact ⟨_, ht, (Form.ofTag_tag rfl).symm⟩

/-! ## Values without nodes inside -/

/-- No node stands in the value, at any depth. -/
inductive IsRaw : Datum → Prop
  | null : IsRaw .null
  | bool (b : Bool) : IsRaw (.bool b)
  | number (n : Number) : IsRaw (.number n)
  | text (s : String) : IsRaw (.text s)
  | list {items : List Datum} (h : ∀ d ∈ items, IsRaw d) : IsRaw (.list items)
  | record {entries : List (String × Datum)} (h : ∀ entry ∈ entries, IsRaw entry.2) :
    IsRaw (.record entries)

theorem IsRaw.of_lookup {entries : List (String × Datum)} {key : String} {d : Datum}
    (h : (Datum.record entries).IsRaw) (hl : entries.lookup key = some d) : d.IsRaw := by
  obtain ⟨front, back, rfl, -⟩ := List.lookup_eq_some_iff.mp hl
  cases h with
  | record h => exact h (key, d) (by simp)

theorem IsRaw.of_mem_children {d child : Datum} (h : d.IsRaw) (hc : child ∈ d.children) :
    child.IsRaw := by
  obtain ⟨entries, rfl, ⟨-, hl | hr⟩ | ⟨-, items, hv, hitem⟩⟩ := cases_of_mem_children hc
  · exact h.of_lookup hl
  · exact h.of_lookup hr
  · cases h.of_lookup hv with
    | list hitems => exact hitems child hitem

theorem IsRaw.eq_record {d : Datum} (h : d.IsRaw) (hw : d.WellFormed) :
    ∃ entries, d = .record entries := by
  obtain ⟨e, he⟩ := hw
  cases h with
  | record => exact ⟨_, rfl⟩
  | null | bool | number | text | list => cases he

theorem Reads.eq_record {d x : Datum} (hr : d.Reads x) (h : d.IsRaw) (hw : d.WellFormed) :
    ∃ entries, x = .record entries := by
  induction hr with
  | here d => exact h.eq_record hw
  | under hc _ ih =>
    obtain ⟨e, he⟩ := hw
    exact ih (h.of_mem_children hc) (he.wellFormed_of_mem_children hc)

end Datum

/-! ## Clauses read from records -/

theorem parse_record_eq_ok_iff {entries : List (String × Datum)} {e : Expr} :
    Expr.parse (.record entries) = .ok e ↔ (Datum.record entries).Denotes e := by
  rw [← Datum.node_eq_ok_iff, Expr.parse]
  cases (Datum.record entries).node <;> simp

end WhereClause

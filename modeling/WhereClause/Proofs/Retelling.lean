import Mathlib.Data.List.Forall2
import Mathlib.Data.List.Perm.Basic
import Mathlib.Logic.Relation
import WhereClause.Proofs.BareNodes
import WhereClause.Proofs.EqualNodes
import WhereClause.Proofs.Grammar

/-! # Clauses told in another way

The entries of a record have no order, and a record of a known form can carry entries that are no fields
of it. Such a record is read as the same node, or rejected with the same faults in the same order, because
the fields are checked in the order of the form and not of the record.
-/

namespace WhereClause

/-- The names of the entries that a node of the form is made from. The unknown form keeps the others. -/
def Form.fields : Form → List String
  | string | number | bool | null | list => ["type", "value"]
  | column => ["type", "column", "table"]
  | binary => ["type", "operator", "left", "right"]
  | unknown => ["type"]

theorem Form.type_mem_fields (form : Form) : "type" ∈ form.fields := by cases form <;> decide

mutual

/-- The entries of one record are in another order, at any depth. -/
inductive Datum.Permuted : Datum → Datum → Prop
  | record {entries others : List (String × Datum)} (hn : (entries.map Prod.fst).Nodup)
    (hp : entries.Perm others) : Datum.Permuted (.record entries) (.record others)
  | item (front back : List Datum) {d x : Datum} (h : d.Permuted x) :
    Datum.Permuted (.list (front ++ d :: back)) (.list (front ++ x :: back))
  | entry (front back : List (String × Datum)) (key : String) {d x : Datum} (h : d.Permuted x) :
    Datum.Permuted (.record (front ++ (key, d) :: back)) (.record (front ++ (key, x) :: back))
  | node {e f : Expr} (h : e.Permuted f) : Datum.Permuted (.expr e) (.expr f)

/-- The same inside a node. Only nodes of an unknown form keep records. -/
inductive Expr.Permuted : Expr → Expr → Prop
  | unknown (kind : String) {extra others : List (String × Datum)}
    (h : Datum.Permuted (.record extra) (.record others)) :
    Expr.Permuted (.unknown kind extra) (.unknown kind others)
  | item (front back : List Expr) {e f : Expr} (h : e.Permuted f) :
    Expr.Permuted (.list (front ++ e :: back)) (.list (front ++ f :: back))
  | left (operator : String) {l m : Expr} (r : Expr) (h : l.Permuted m) :
    Expr.Permuted (.binary operator l r) (.binary operator m r)
  | right (operator : String) (l : Expr) {r s : Expr} (h : r.Permuted s) :
    Expr.Permuted (.binary operator l r) (.binary operator l s)

end

/-- The same node, apart from the order of entries in what nodes of an unknown form keep. -/
def Expr.Alike : Expr → Expr → Prop := Relation.ReflTransGen Expr.Permuted

/-- One change to a value in node position: a record anywhere has its entries in another order, or a
record of a known form that is itself read as a node has one entry more or less that is no field. -/
inductive Datum.Retold : Datum → Datum → Prop
  | permuted {d x : Datum} (h : d.Permuted x) : Retold d x
  | added (front back : List (String × Datum)) {form : Form} {tag key : String}
    (ht : (front ++ back).lookup "type" = some (.text tag)) (hf : form.tag? = some tag)
    (hk : key ∉ form.fields) (d : Datum) :
    Retold (.record (front ++ back)) (.record (front ++ (key, d) :: back))
  | removed (front back : List (String × Datum)) {form : Form} {tag key : String}
    (ht : (front ++ back).lookup "type" = some (.text tag)) (hf : form.tag? = some tag)
    (hk : key ∉ form.fields) (d : Datum) :
    Retold (.record (front ++ (key, d) :: back)) (.record (front ++ back))
  | operand (front back : List (String × Datum)) {key : String} {d x : Datum}
    (ht : (front ++ (key, d) :: back).lookup "type" = some (.text "binary_expr"))
    (hk : key = "left" ∨ key = "right") (h : Retold d x) :
    Retold (.record (front ++ (key, d) :: back)) (.record (front ++ (key, x) :: back))
  | item (front back : List (String × Datum)) (items others : List Datum) {d x : Datum}
    (ht : (front ++ ("value", .list (items ++ d :: others)) :: back).lookup "type" =
      some (.text "expr_list")) (h : Retold d x) :
    Retold (.record (front ++ ("value", .list (items ++ d :: others)) :: back))
      (.record (front ++ ("value", .list (items ++ x :: others)) :: back))

/-! ## Nodes that are alike -/

namespace Expr

theorem Alike.refl (e : Expr) : e.Alike e := Relation.ReflTransGen.refl

theorem Alike.trans {e f g : Expr} (h : e.Alike f) (h' : f.Alike g) : e.Alike g :=
  Relation.ReflTransGen.trans h h'

theorem Alike.binary (operator : String) {l m r s : Expr} (hl : l.Alike m) (hr : r.Alike s) :
    (binary operator l r).Alike (binary operator m s) := by
  have hleft : (Expr.binary operator l r).Alike (.binary operator m r) :=
    hl.lift (Expr.binary operator · r) fun _ _ h => .left operator r h
  have hright : (Expr.binary operator m r).Alike (.binary operator m s) :=
    hr.lift (Expr.binary operator m ·) fun _ _ h => .right operator m h
  exact hleft.trans hright

theorem alike_list_append (front : List Expr) {es fs : List Expr} (h : List.Forall₂ Alike es fs) :
    (list (front ++ es)).Alike (list (front ++ fs)) := by
  induction h generalizing front with
  | nil => exact .refl _
  | @cons e f es fs he _ ih =>
    have hfirst : (list (front ++ e :: es)).Alike (list (front ++ f :: es)) :=
      he.lift (fun x => list (front ++ x :: es)) fun _ _ h => .item front es h
    have hrest := ih (front ++ [f])
    rw [List.append_assoc, List.append_assoc] at hrest
    exact hfirst.trans hrest

theorem Permuted.bare_eq : ∀ {e f : Expr}, e.Permuted f → e.bare = f.bare
  | _, _, .unknown _ _ => rfl
  | _, _, .item front back h => by
    simp only [bare, bareAll_eq_map, List.map_append, List.map_cons, h.bare_eq]
  | _, _, .left _ _ h => by simp only [bare, h.bare_eq]
  | _, _, .right _ _ h => by simp only [bare, h.bare_eq]

theorem Permuted.kind_eq {e f : Expr} (h : e.Permuted f) : e.kind = f.kind := by
  rw [← e.kind_bare, h.bare_eq, f.kind_bare]

theorem Permuted.form_eq {e f : Expr} (h : e.Permuted f) : e.form = f.form := by
  rw [← e.form_bare, h.bare_eq, f.form_bare]

theorem Permuted.length_entries_eq {e f : Expr} (h : e.Permuted f) : e.entries.length = f.entries.length := by
  cases h with
  | unknown kind h =>
    cases h with
    | record _ hp => simpa [entries] using hp.length_eq
    | entry front back key h => simp [entries]
  | item | left | right => rfl

theorem Alike.bare_eq {e f : Expr} (h : e.Alike f) : e.bare = f.bare := by
  induction h with
  | refl => rfl
  | tail _ hstep ih => rw [ih, hstep.bare_eq]

end Expr

/-! ## Checks that agree -/

/-- Both give related values, or both tell the same faults, or both stop at a container of one kind. -/
inductive Checked.Agree {α β : Type} (related : α → β → Prop) : Checked α → Checked β → Prop
  | ok {a : α} {b : β} (h : related a b) : Agree related (.ok a) (.ok b)
  | faulty (fs : List Fault) : Agree related (.faulty fs) (.faulty fs)
  | notKey (c : Container) : Agree related (.notKey c) (.notKey c)

namespace Checked

variable {α β γ δ ε ζ : Type} {r : α → β → Prop} {s : γ → δ → Prop} {t : ε → ζ → Prop}

theorem Agree.refl {r : α → α → Prop} (hr : ∀ a, r a a) : ∀ x : Checked α, Agree r x x
  | .ok a => .ok (hr a)
  | .faulty fs => .faulty fs
  | .notKey c => .notKey c

theorem Agree.same (x : Checked α) : Agree Eq x x := .refl (fun _ => rfl) x

theorem Agree.map {x : Checked α} {y : Checked β} {f : α → γ} {g : β → δ} (h : Agree r x y)
    (hf : ∀ a b, r a b → s (f a) (g b)) : Agree s (x.map f) (y.map g) := by
  cases h with
  | ok h => exact .ok (hf _ _ h)
  | faulty fs => exact .faulty fs
  | notKey c => exact .notKey c

theorem Agree.both {x : Checked α} {y : Checked β} {v : Checked γ} {w : Checked δ} {f : α → γ → ε}
    {g : β → δ → ζ} (hx : Agree r x y) (hv : Agree s v w)
    (hf : ∀ a b c d, r a b → s c d → t (f a c) (g b d)) :
    Agree t (Checked.both f x v) (Checked.both g y w) := by
  cases hx with
  | notKey c => exact .notKey c
  | ok ha =>
    cases hv with
    | ok hc => exact .ok (hf _ _ _ _ ha hc)
    | faulty fs => exact .faulty fs
    | notKey c => exact .notKey c
  | faulty fs =>
    cases hv with
    | ok _ => exact .faulty fs
    | faulty gs => exact .faulty (fs ++ gs)
    | notKey c => exact .notKey c

theorem Agree.after {v : Checked γ} {w : Checked δ} (x : Checked Unit) (h : Agree s v w) :
    Agree s (x.also v) (x.also w) := (Agree.same x).both h fun _ _ _ _ _ h => h

end Checked

/-! ## Readings that agree -/

/-- The same datum, or two containers of one kind, or two nodes that are alike. -/
inductive Datum.SameOutline : Datum → Datum → Prop
  | same (d : Datum) : SameOutline d d
  | list (items others : List Datum) : SameOutline (.list items) (.list others)
  | record (entries others : List (String × Datum)) : SameOutline (.record entries) (.record others)
  | node {e f : Expr} (h : e.Alike f) : SameOutline (.expr e) (.expr f)

/-- Nobody who reads a field can tell the two parts apart. -/
structure Part.Alike (p q : Part) : Prop where
  outline : p.value.SameOutline q.value
  node : Checked.Agree Expr.Alike p.node q.node
  nodes : Checked.Agree (List.Forall₂ Expr.Alike) p.nodes q.nodes

/-- Two values are read alike, both as a node and in any field of one. -/
def Datum.ReadAlike (d x : Datum) : Prop := d.part.Alike x.part

namespace Datum

theorem ReadAlike.refl (d : Datum) : d.ReadAlike d where
  outline := .same d
  node := .refl Expr.Alike.refl _
  nodes := .refl (fun _ => List.forall₂_same.mpr fun e _ => .refl e) _

namespace SameOutline

variable {d x : Datum} (h : d.SameOutline x)

include h

theorem asText_eq : d.asText = x.asText := by cases h <;> rfl

theorem asOptionalText_eq : d.asOptionalText = x.asOptionalText := by cases h <;> rfl

theorem asNull_eq : d.asNull = x.asNull := by cases h <;> rfl

theorem asTag_eq (tag : String) : d.asTag tag = x.asTag tag := by cases h <;> rfl

theorem asTruth_eq : d.asTruth = x.asTruth := by cases h <;> rfl

theorem asNumber_eq : d.asNumber = x.asNumber := by cases h <;> rfl

end SameOutline

theorem SameOutline.eq_text {s : String} {x : Datum} (h : (text s).SameOutline x) : x = text s := by
  cases h
  rfl

end Datum

/-! ## Fields that agree -/

namespace Part

variable {α : Type} {p q : Option Part}

theorem required_eq (h : Option.Rel Alike p q) {read : Datum → Checked α}
    (hr : ∀ {d x : Datum}, d.SameOutline x → read d = read x) :
    required p (fun part => read part.value) = required q (fun part => read part.value) := by
  cases h with
  | none => rfl
  | some h => exact hr h.outline

theorem withDefault_eq (h : Option.Rel Alike p q) (default : α) {read : Datum → Checked α}
    (hr : ∀ {d x : Datum}, d.SameOutline x → read d = read x) :
    withDefault p default (fun part => read part.value) =
      withDefault q default (fun part => read part.value) := by
  cases h with
  | none => rfl
  | some h => exact hr h.outline

theorem required_node_agree (h : Option.Rel Alike p q) :
    Checked.Agree Expr.Alike (required p (·.node)) (required q (·.node)) := by
  cases h with
  | none => exact .faulty _
  | some h => exact h.node

theorem withDefault_nodes_agree (h : Option.Rel Alike p q) :
    Checked.Agree (List.Forall₂ Expr.Alike) (withDefault p [] (·.nodes)) (withDefault q [] (·.nodes)) := by
  cases h with
  | none => exact .ok .nil
  | some h => exact h.nodes

end Part

namespace Expr

theorem checkTag_eq (form : Form) {p q : Option Part} (h : Option.Rel Part.Alike p q) :
    checkTag form p = checkTag form q := Part.withDefault_eq h () fun h => h.asTag_eq _

theorem formOf_eq {p q : Option Part} (h : Option.Rel Part.Alike p q) : formOf p = formOf q := by
  cases h with
  | none => rfl
  | @some p q h =>
    obtain ⟨d, _, _⟩ := p
    obtain ⟨x, _, _⟩ := q
    have ho : d.SameOutline x := h.outline
    cases ho <;> rfl

end Expr

namespace Datum

variable {entries others : List (String × Datum)}

theorem lookup_partsOf_alike {key : String}
    (h : Option.Rel ReadAlike (entries.lookup key) (others.lookup key)) :
    Option.Rel Part.Alike ((partsOf entries).lookup key) ((partsOf others).lookup key) := by
  rw [lookup_partsOf, lookup_partsOf]
  generalize entries.lookup key = d, others.lookup key = x at h
  cases h with
  | none => exact .none
  | some h => exact .some h

/-- A known form reads its own fields only. The unknown form keeps what it does not read. -/
theorem assemble_agree (form : Form)
    (hk : ∀ key ∈ form.fields, Option.Rel ReadAlike (entries.lookup key) (others.lookup key))
    (hu : form = .unknown → ∀ kind, (Expr.unknown kind (entries.filter (·.1 != "type"))).Alike
      (.unknown kind (others.filter (·.1 != "type")))) :
    Checked.Agree Expr.Alike (Expr.assemble form (partsOf entries)) (Expr.assemble form (partsOf others)) := by
  have hparts (key : String) (h : key ∈ form.fields) := lookup_partsOf_alike (hk key h)
  have htag := Expr.checkTag_eq form (hparts "type" form.type_mem_fields)
  -- Forms without nodes inside are equal. The order of the faults is that of the fields in `assemble`.
  cases form with
  | string =>
    have hvalue := Part.required_eq (hparts "value" (by decide)) fun h => h.asText_eq
    simp only [Expr.assemble, htag, hvalue]
    exact .refl Expr.Alike.refl _
  | number =>
    have hvalue := Part.required_eq (hparts "value" (by decide)) fun h => h.asNumber_eq
    simp only [Expr.assemble, htag, hvalue]
    exact .refl Expr.Alike.refl _
  | bool =>
    have hvalue := Part.required_eq (hparts "value" (by decide)) fun h => h.asTruth_eq
    simp only [Expr.assemble, htag, hvalue]
    exact .refl Expr.Alike.refl _
  | null =>
    have hvalue := Part.withDefault_eq (hparts "value" (by decide)) () fun h => h.asNull_eq
    simp only [Expr.assemble, htag, hvalue]
    exact .refl Expr.Alike.refl _
  | column =>
    have hname := Part.required_eq (hparts "column" (by decide)) fun h => h.asText_eq
    have htable := Part.withDefault_eq (hparts "table" (by decide)) none fun h => h.asOptionalText_eq
    simp only [Expr.assemble, htag, hname, htable]
    exact .refl Expr.Alike.refl _
  | list =>
    have hnodes := Part.withDefault_nodes_agree (hparts "value" (by decide))
    simp only [Expr.assemble, htag]
    exact .after _ (hnodes.map fun _ _ h => Expr.alike_list_append [] h)
  | binary =>
    have hoperator := Part.required_eq (hparts "operator" (by decide)) fun h => h.asText_eq
    have hleft := Part.required_node_agree (hparts "left" (by decide))
    have hright := Part.required_node_agree (hparts "right" (by decide))
    have hoperands := hleft.both hright (f := Prod.mk) (g := Prod.mk)
      (t := fun a b => a.1.Alike b.1 ∧ a.2.Alike b.2) fun _ _ _ _ => And.intro
    simp only [Expr.assemble, htag, hoperator]
    refine .after _ ((Checked.Agree.same _).both hoperands ?_)
    rintro operator _ _ _ rfl ⟨hl, hr⟩
    exact .binary operator hl hr
  | unknown =>
    have hkind := Part.required_eq (hparts "type" (by decide)) fun h => h.asText_eq
    simp only [Expr.assemble, extra_partsOf, hkind]
    refine (Checked.Agree.same _).map ?_
    rintro kind _ rfl
    exact hu rfl kind

/-! ## Records that agree -/

theorem rel_lookup_refl (entries : List (String × Datum)) (key : String) :
    Option.Rel ReadAlike (entries.lookup key) (entries.lookup key) := by
  cases entries.lookup key with
  | none => exact .none
  | some d => exact .some (.refl d)

theorem record_alike (hn : Checked.Agree Expr.Alike (record entries).node (record others).node) :
    (record entries).ReadAlike (record others) where
  outline := .record entries others
  node := hn
  nodes := .faulty _

theorem record_alike_of_lookups
    (hk : ∀ key, Option.Rel ReadAlike (entries.lookup key) (others.lookup key))
    (hu : ∀ kind, (Expr.unknown kind (entries.filter (·.1 != "type"))).Alike
      (.unknown kind (others.filter (·.1 != "type")))) :
    (record entries).ReadAlike (record others) := by
  apply record_alike
  rw [node, node, Expr.ofParts, Expr.ofParts, Expr.formOf_eq (lookup_partsOf_alike (hk "type"))]
  cases Expr.formOf ((partsOf others).lookup "type") with
  | ok form => exact assemble_agree form (fun key _ => hk key) fun _ => hu
  | faulty fs => exact .faulty fs
  | notKey c => exact .notKey c

theorem record_alike_of_fields {form : Form} {tag : String}
    (ht : entries.lookup "type" = some (text tag)) (hf : form.tag? = some tag)
    (hk : ∀ key ∈ form.fields, Option.Rel ReadAlike (entries.lookup key) (others.lookup key)) :
    (record entries).ReadAlike (record others) := by
  have ht' : others.lookup "type" = some (text tag) := by
    have htype := hk "type" form.type_mem_fields
    rw [ht] at htype
    generalize others.lookup "type" = x at htype
    cases htype with
    | @some _ x h =>
      have ho : (text tag).SameOutline x := h.outline
      rw [ho.eq_text]
  apply record_alike
  rw [node_of_tagged ht hf, node_of_tagged ht' hf]
  refine assemble_agree form hk ?_
  rintro rfl
  cases hf

theorem nodesOf_agree {items others : List Datum} (h : List.Forall₂ ReadAlike items others) :
    Checked.Agree (List.Forall₂ Expr.Alike) (nodesOf items) (nodesOf others) := by
  induction h with
  | nil => exact .ok .nil
  | cons hd _ ih => exact hd.node.both ih fun _ _ _ _ he hes => .cons he hes

theorem list_alike (front back : List Datum) {d x : Datum} (h : d.ReadAlike x) :
    (list (front ++ d :: back)).ReadAlike (list (front ++ x :: back)) where
  outline := .list _ _
  node := .faulty _
  nodes := by
    have hsame (items : List Datum) : List.Forall₂ ReadAlike items items :=
      List.forall₂_same.mpr fun y _ => .refl y
    exact nodesOf_agree (List.rel_append (hsame front) (.cons h (hsame back)))

theorem node_alike {e f : Expr} (h : e.Permuted f) : (expr e).ReadAlike (expr f) where
  outline := .node (Relation.ReflTransGen.single h)
  node := by
    have hforeign : e.isForeign = f.isForeign := by
      rw [Expr.isForeign, Expr.isForeign, h.kind_eq, h.form_eq]
    simp only [part, node, Expr.adopt, hforeign, h.kind_eq]
    by_cases hf : f.isForeign = true
    · rw [if_pos hf, if_pos hf]
      exact .faulty _
    · rw [if_neg hf, if_neg hf]
      exact .ok (Relation.ReflTransGen.single h)
  nodes := by
    have hfaults : (e.entries.map fun _ => Fault.notNode .unknown) =
        f.entries.map fun _ => .notNode .unknown := by
      rw [List.map_const', List.map_const', h.length_entries_eq]
    simp only [part, nodes, hfaults]
    exact .faulty _

/-! ## Entries of records -/

theorem lookup_eq_some_iff_mem (hn : (entries.map Prod.fst).Nodup) (key : String) (d : Datum) :
    entries.lookup key = some d ↔ (key, d) ∈ entries := by
  constructor
  · intro h
    obtain ⟨front, back, rfl, -⟩ := List.lookup_eq_some_iff.mp h
    simp
  · intro h
    obtain ⟨front, back, rfl⟩ := List.append_of_mem h
    rw [List.map_append, List.map_cons, List.nodup_append] at hn
    refine List.lookup_eq_some_iff.mpr ⟨front, back, rfl, ?_⟩
    intro entry hentry
    have hne : entry.1 ≠ key := hn.2.2 _ (List.mem_map_of_mem hentry) _ List.mem_cons_self
    exact bne_iff_ne.mpr hne.symm

theorem lookup_eq_of_perm (hn : (entries.map Prod.fst).Nodup) (hp : entries.Perm others) (key : String) :
    entries.lookup key = others.lookup key := by
  have hn' : (others.map Prod.fst).Nodup := (hp.map Prod.fst).nodup_iff.mp hn
  apply Option.ext
  intro d
  rw [lookup_eq_some_iff_mem hn, lookup_eq_some_iff_mem hn', hp.mem_iff]

theorem lookup_of_ne (front back : List (String × Datum)) {key other : String} (h : other ≠ key)
    (d : Datum) :
    (front ++ (key, d) :: back).lookup other = (front ++ back).lookup other := by
  rw [List.lookup_append, List.lookup_append, List.lookup_cons, beq_false_of_ne h]

theorem rel_lookup_entry (front back : List (String × Datum)) (key : String) {d x : Datum}
    (h : d.ReadAlike x) (other : String) :
    Option.Rel ReadAlike ((front ++ (key, d) :: back).lookup other)
      ((front ++ (key, x) :: back).lookup other) := by
  rw [List.lookup_append, List.lookup_append, List.lookup_cons, List.lookup_cons]
  cases front.lookup other with
  | some y => exact .some (.refl y)
  | none =>
    cases other == key with
    | true => exact .some h
    | false => exact rel_lookup_refl back other

/-! ## One change -/

theorem alike_of_entry (front back : List (String × Datum)) (key : String) {d x : Datum} (h : d.Permuted x)
    (kind : String) :
    (Expr.unknown kind ((front ++ (key, d) :: back).filter (·.1 != "type"))).Alike
      (.unknown kind ((front ++ (key, x) :: back).filter (·.1 != "type"))) := by
  simp only [List.filter_append, List.filter_cons]
  cases key != "type" with
  | true => exact .single (.unknown kind (.entry _ _ key h))
  | false => exact .refl _

theorem Permuted.readAlike : ∀ {d x : Datum}, d.Permuted x → d.ReadAlike x
  | _, _, @record entries others hn hp => by
    apply record_alike_of_lookups
    · intro key
      rw [lookup_eq_of_perm hn hp key]
      exact rel_lookup_refl others key
    · intro kind
      have hkept : ((entries.filter (·.1 != "type")).map Prod.fst).Nodup :=
        hn.sublist (List.filter_sublist.map Prod.fst)
      exact .single (.unknown kind (.record hkept (hp.filter _)))
  | _, _, .item front back h => list_alike front back h.readAlike
  | _, _, .entry front back key h =>
    record_alike_of_lookups (rel_lookup_entry front back key h.readAlike) (alike_of_entry front back key h)
  | _, _, .node h => node_alike h

theorem Retold.readAlike {d x : Datum} (h : d.Retold x) : d.ReadAlike x := by
  -- The induction is on where in the clause the changed record stands.
  induction h with
  | permuted h => exact h.readAlike
  | added front back ht hf hk d =>
    apply record_alike_of_fields ht hf
    intro other hother
    rw [lookup_of_ne front back (ne_of_mem_of_not_mem hother hk) d]
    exact rel_lookup_refl _ other
  | @removed front back form _ _ ht hf hk d =>
    have hfields {other : String} (h : other ∈ form.fields) :=
      lookup_of_ne front back (ne_of_mem_of_not_mem h hk) d
    apply record_alike_of_fields ((hfields form.type_mem_fields).trans ht) hf
    intro other hother
    rw [hfields hother]
    exact rel_lookup_refl _ other
  | operand front back ht hk _ ih =>
    have hf : Form.binary.tag? = some "binary_expr" := rfl
    exact record_alike_of_fields ht hf fun other _ => rel_lookup_entry front back _ ih other
  | item front back items others ht _ ih =>
    have hf : Form.list.tag? = some "expr_list" := rfl
    have hvalue := list_alike items others ih
    exact record_alike_of_fields ht hf fun other _ => rel_lookup_entry front back "value" hvalue other

end Datum

/-! ## Whole clauses -/

theorem SameEnd.trans {α ε : Type} {r : α → α → Prop} (hr : ∀ a b c, r a b → r b c → r a c)
    {x y z : Except ε α} (h : SameEnd r x y) (h' : SameEnd r y z) : SameEnd r x z := by
  cases h with
  | ok h =>
    cases h' with
    | ok h' => exact .ok (hr _ _ _ h h')
  | error e => exact h'

theorem Datum.ReadAlike.parse_sameEnd {d x : Datum} (h : d.ReadAlike x) :
    SameEnd Expr.Alike (Expr.parse d) (Expr.parse x) := by
  have ho : d.SameOutline x := h.outline
  cases ho with
  | same d =>
    cases Expr.parse d with
    | ok e => exact .ok (.refl e)
    | error f => exact .error f
  | list items others => exact .error _
  | record entries others =>
    have hn : Checked.Agree Expr.Alike (Datum.record entries).node (Datum.record others).node := h.node
    rw [Expr.parse, Expr.parse]
    generalize (Datum.record entries).node = a, (Datum.record others).node = b at hn
    cases hn with
    | ok he => exact .ok he
    | faulty fs => exact .error _
    | notKey c => exact .error _
  | node he => exact .ok he

theorem parse_sameEnd_of_retold {w v : Datum} (h : Relation.ReflTransGen Datum.Retold w v) :
    SameEnd Expr.Alike (Expr.parse w) (Expr.parse v) := by
  induction h with
  | refl => exact (Datum.ReadAlike.refl w).parse_sameEnd
  | tail _ hstep ih => exact ih.trans (r := Expr.Alike) (fun _ _ _ => .trans) hstep.readAlike.parse_sameEnd

theorem planNode_of_alike {e f : Expr} (h : e.Alike f) (warn : Bool) (qs : List Query) :
    planNode warn qs e = planNode warn qs f := by
  rw [← planNode_bare, h.bare_eq, planNode_bare]

theorem planDatum_of_parse_sameEnd {w v : Datum} (h : SameEnd Expr.Alike (Expr.parse w) (Expr.parse v))
    (warn : Bool) (qs : List Query) : planDatum warn qs w = planDatum warn qs v := by
  unfold planDatum
  generalize Expr.parse w = a, Expr.parse v = b at h
  cases h with
  | ok he => exact planNode_of_alike he warn qs
  | error f => rfl

/-- A clause told in another way is read as the same node, apart from the order of entries in what nodes of
an unknown form keep, or stops with the same failure. Its plan is the same, with the same events. -/
theorem parse_and_plan_of_retold {w v : Datum} (h : Relation.ReflTransGen Datum.Retold w v) :
    SameEnd Expr.Alike (Expr.parse w) (Expr.parse v) ∧
      ∀ (warn : Bool) (qs : List Query), planDatum warn qs w = planDatum warn qs v := by
  have hparse := parse_sameEnd_of_retold h
  exact ⟨hparse, planDatum_of_parse_sameEnd hparse⟩

theorem parse_and_plan_of_retold_call :
    let clause (first second : String) : Datum := .record
      [("type", .text "call"), ("args", .record [(first, .null), (second, .null)])]
    let w : Datum := .record [("type", .text "expr_list"), ("value", .list [clause "a" "b"])]
    let v : Datum := .record
      [("parentheses", .bool true), ("value", .list [clause "b" "a"]), ("type", .text "expr_list")]
    Relation.ReflTransGen Datum.Retold w v ∧
      Expr.parse w = .ok (.list [.unknown "call" [("args", .record [("a", .null), ("b", .null)])]]) ∧
      Expr.parse v = .ok (.list [.unknown "call" [("args", .record [("b", .null), ("a", .null)])]]) ∧
      SameEnd Expr.Alike (Expr.parse w) (Expr.parse v) ∧
      ∀ (warn : Bool) (qs : List Query), planDatum warn qs w = planDatum warn qs v := by
  intro clause w v
  have hargs : (clause "a" "b").Permuted (clause "b" "a") :=
    .entry [("type", .text "call")] [] "args" (.record (by decide) (.swap _ _ []))
  have hexchanged : w.Retold (.record [("type", .text "expr_list"), ("value", .list [clause "b" "a"])]) :=
    .item [("type", .text "expr_list")] [] [] [] rfl (.permuted hargs)
  have hf : Form.list.tag? = some "expr_list" := rfl
  have hdecorated : Datum.Retold (.record [("type", .text "expr_list"), ("value", .list [clause "b" "a"])])
      (.record [("parentheses", .bool true), ("type", .text "expr_list"), ("value", .list [clause "b" "a"])]) :=
    .added [] _ rfl hf (by decide) _
  have hlast : Datum.Retold (.record
      [("parentheses", .bool true), ("type", .text "expr_list"), ("value", .list [clause "b" "a"])]) v :=
    .permuted (.record (by decide) (.cons _ (.swap _ _ [])))
  have h : Relation.ReflTransGen Datum.Retold w v :=
    .tail (.tail (.single hexchanged) hdecorated) hlast
  exact ⟨h, rfl, rfl, parse_and_plan_of_retold h⟩

end WhereClause

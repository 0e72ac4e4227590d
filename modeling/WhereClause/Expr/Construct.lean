import WhereClause.Expr.Field
import WhereClause.Expr.Operator
import WhereClause.Expr.Record

/-! # Nodes made from data

A record is read as a node of the form that its `type` entry marks, and of the unknown form if it
marks none. The fields are checked in a fixed order, the `type` first.
-/

namespace WhereClause

/-- An entry of a record with its readings as one node and as a list of nodes. -/
structure Part where
  value : Datum
  node : Checked Expr
  nodes : Checked (List Expr)

namespace Part

def required {α : Type} (part : Option Part) (read : Part → Checked α) : Checked α :=
  match part with
  | some p => read p
  | none => .fault .missing

def withDefault {α : Type} (part : Option Part) (default : α) (read : Part → Checked α) : Checked α :=
  match part with
  | some p => read p
  | none => .ok default

end Part

namespace Expr

/-- The tag of a form must not be contradicted. -/
def checkTag (form : Form) (part : Option Part) : Checked Unit :=
  Part.withDefault part () fun p => p.value.asTag (form.tag?.getD "")

/-- A node of the given form. Entries that are no fields of the form are ignored; the unknown form
keeps them. -/
def assemble (form : Form) (parts : List (String × Part)) : Checked Expr :=
  let part (key : String) := parts.lookup key
  let tag := checkTag form (part "type")
  match form with
  | .string => tag.also ((Part.required (part "value") (·.value.asText)).map Expr.string)
  | .number => tag.also ((Part.required (part "value") (·.value.asNumber)).map Expr.number)
  | .bool => tag.also ((Part.required (part "value") (·.value.asTruth)).map Expr.bool)
  | .null => tag.also ((Part.withDefault (part "value") () (·.value.asNull)).map fun _ => Expr.null)
  | .column =>
    tag.also (.both Expr.column (Part.required (part "column") (·.value.asText))
      (Part.withDefault (part "table") none (·.value.asOptionalText)))
  | .list => tag.also ((Part.withDefault (part "value") [] (·.nodes)).map Expr.list)
  | .binary =>
    let operator := (Part.required (part "operator") (·.value.asText)).map Operator.normal
    let operands := Checked.both Prod.mk (Part.required (part "left") (·.node))
      (Part.required (part "right") (·.node))
    tag.also (.both (fun o lr => Expr.binary o lr.1 lr.2) operator operands)
  | .unknown =>
    let extra := (parts.filter (·.1 != "type")).map fun (key, p) => (key, p.value)
    (Part.required (part "type") (·.value.asText)).map fun kind => Expr.unknown kind extra

/-- The form that a `type` entry marks. A list or a record there cannot be looked up. -/
def formOf (part : Option Part) : Checked Form :=
  match part with
  | none => .ok .unknown
  | some p =>
    match p.value with
    | .text tag => .ok (Form.ofTag tag)
    | .list _ => .notKey .list
    | .record _ => .notKey .record
    | _ => .ok .unknown

/-- A record in node position. -/
def ofParts (parts : List (String × Part)) : Checked Expr :=
  match formOf (parts.lookup "type") with
  | .ok form => assemble form parts
  | .faulty fs => .faulty fs
  | .notKey c => .notKey c

/-- A node in node position is kept, unless its `type` is the tag of another form. -/
def adopt (e : Expr) : Checked Expr := if e.isForeign then .fault (.notNode (Form.ofTag e.kind)) else .ok e

end Expr

mutual

/-- A value in node position. -/
def Datum.node : Datum → Checked Expr
  | .record entries => Expr.ofParts (partsOf entries)
  | .expr e => e.adopt
  | _ => .fault (.notNode .unknown)

/-- A value in the position of a list of nodes. A node there is taken for the list of its named
fields, and a field with its name is no node. -/
def Datum.nodes : Datum → Checked (List Expr)
  | .list items => nodesOf items
  | .expr e => .faulty (e.entries.map fun _ => .notNode .unknown)
  | _ => .fault .notSequence

def nodesOf : List Datum → Checked (List Expr)
  | [] => .ok []
  | d :: ds => .both List.cons d.node (nodesOf ds)

def partsOf : List (String × Datum) → List (String × Part)
  | [] => []
  | (key, d) :: entries => (key, ⟨d, d.node, d.nodes⟩) :: partsOf entries

end

def Datum.part (d : Datum) : Part := ⟨d, d.node, d.nodes⟩

theorem partsOf_eq_map (entries : List (String × Datum)) :
    partsOf entries = entries.map fun entry => (entry.1, entry.2.part) := by
  induction entries with
  | nil => rfl
  | cons entry entries ih => simp [partsOf, ih, Datum.part]

theorem nodesOf_eq_all (items : List Datum) : nodesOf items = Checked.all (items.map Datum.node) := by
  induction items with
  | nil => rfl
  | cons d ds ih => simp [nodesOf, Checked.all, ih]

theorem lookup_partsOf (entries : List (String × Datum)) (key : String) :
    (partsOf entries).lookup key = (entries.lookup key).map Datum.part := by
  induction entries with
  | nil => rfl
  | cons entry entries ih =>
    obtain ⟨k, d⟩ := entry
    simp only [partsOf, List.lookup_cons, ih]
    split <;> rfl

/-- A node of a given form from its entries. -/
def Expr.construct (form : Form) (entries : List (String × Datum)) : Checked Expr :=
  assemble form (partsOf entries)

end WhereClause

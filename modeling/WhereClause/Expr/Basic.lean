import WhereClause.Number.Basic

/-! # Data and expressions

A `Datum` is any value that comes from outside. An `Expr` is a node of a WHERE clause. A datum may
hold a node, and a node of an unknown form keeps its entries as data.
-/

namespace WhereClause

mutual

inductive Datum where
  | null
  | bool (value : Bool)
  | number (value : Number)
  | text (value : String)
  | list (items : List Datum)
  | record (entries : List (String × Datum))
  | expr (node : Expr)

inductive Expr where
  | string (value : String)
  | number (value : Number)
  | bool (value : Bool)
  | null
  | column (name : String) (table : Option String)
  | list (items : List Expr)
  | binary (operator : String) (left right : Expr)
  | unknown (kind : String) (extra : List (String × Datum))

end

instance : Inhabited Datum := ⟨.null⟩
instance : Inhabited Expr := ⟨.null⟩

/-! ## Forms -/

/-- The forms of a node. -/
inductive Form where
  | string
  | number
  | bool
  | null
  | column
  | list
  | binary
  | unknown
  deriving DecidableEq

namespace Form

/-- The `type` entry that marks a node of the form. -/
def tag? : Form → Option String
  | string => some "string"
  | number => some "number"
  | bool => some "bool"
  | null => some "null"
  | column => some "column_ref"
  | list => some "expr_list"
  | binary => some "binary_expr"
  | unknown => none

def title : Form → String
  | string => "StringValue"
  | number => "NumberValue"
  | bool => "BoolValue"
  | null => "NullValue"
  | column => "ColumnRef"
  | list => "ExprList"
  | binary => "BinaryExpr"
  | unknown => "UnknownNode"

def tagged : List Form := [string, number, bool, null, column, list, binary]

/-- The form that a `type` entry marks. -/
def ofTag (tag : String) : Form := (tagged.find? fun form => form.tag? == some tag).getD unknown

theorem ofTag_tag {form : Form} {tag : String} (h : form.tag? = some tag) : ofTag tag = form := by
  cases form <;> simp only [tag?, Option.some.injEq, reduceCtorEq] at h <;> subst h <;> decide

theorem tag_ofTag {form : Form} {tag : String} (h : ofTag tag = form) (hne : form ≠ unknown) :
    form.tag? = some tag := by
  unfold ofTag at h
  cases hf : tagged.find? fun form => form.tag? == some tag with
  | none => rw [hf] at h; exact absurd h.symm hne
  | some found =>
    rw [hf] at h
    simp only [Option.getD_some] at h
    subst h
    simpa using List.find?_some hf

/-- The forms of a single value. -/
def isScalar : Form → Bool
  | string | number | bool | null => true
  | column | list | binary | unknown => false

end Form

namespace Expr

def form : Expr → Form
  | string _ => .string
  | number _ => .number
  | bool _ => .bool
  | null => .null
  | column _ _ => .column
  | list _ => .list
  | binary _ _ _ => .binary
  | unknown _ _ => .unknown

/-- The `type` entry of a node. A node of an unknown form has its own. -/
def kind : Expr → String
  | unknown kind _ => kind
  | e => e.form.tag?.getD ""

/-- A node of an unknown form can carry the tag of a known one. -/
def isForeign (e : Expr) : Bool := Form.ofTag e.kind != e.form

end Expr

namespace Datum

/-- The name of the kind of value, as messages give it. -/
def kindName : Datum → String
  | null => "NoneType"
  | bool _ => "bool"
  | number (.int _) => "int"
  | number (.double _) => "float"
  | text _ => "str"
  | list _ => "list"
  | record _ => "dict"
  | expr e => e.form.title

/-- Whether a condition counts as met. -/
def isMet : Datum → Bool
  | null => false
  | bool b => b
  | number n => !n.isZero
  | text s => !s.isEmpty
  | list items => !items.isEmpty
  | record entries => !entries.isEmpty
  | expr _ => true

end Datum

end WhereClause

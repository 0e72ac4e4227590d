import WhereClause.Expr.Equal
import WhereClause.Expr.Field
import WhereClause.Failure

/-! # Filters -/

namespace WhereClause

/-- The comparisons and array tests that the store has. -/
inductive StoreOp where
  | equal
  | less
  | atMost
  | greater
  | atLeast
  | arrayContains
  | arrayContainsAny
  deriving DecidableEq

namespace StoreOp

def text : StoreOp → String
  | equal => "=="
  | less => "<"
  | atMost => "<="
  | greater => ">"
  | atLeast => ">="
  | arrayContains => "array-contains"
  | arrayContainsAny => "array-contains-any"

/-- The comparisons that bound a range. -/
def rangeTexts : List String := [less.text, atMost.text, greater.text, atLeast.text]

end StoreOp

/-- One condition on one field, in the words of the store. -/
structure Filter where
  field : String
  op : String
  value : Datum
  /-- The number of the first held query that the filter stood in, if there is one. -/
  firstIn : Option Nat := none

namespace Filter

/-- The field is checked first, and the value can be anything. -/
def check (field op : Checked String) (value : Datum) : Checked Filter :=
  .both (fun f o => ⟨f, o, value, none⟩) field op

def ofData (field op value : Datum) : Checked Filter := check field.asText op.asText value

/-- A filter from named entries. Without a value it compares with null. -/
def ofEntries (entries : List (String × Datum)) : Checked Filter :=
  let required (key : String) : Checked String :=
    match entries.lookup key with
    | some d => d.asText
    | none => .fault .missing
  check (required "field") (required "op") ((entries.lookup "value").getD .null)

def isRange (f : Filter) : Bool := StoreOp.rangeTexts.contains f.op

def text (f : Filter) : String := f.field ++ " " ++ f.op ++ " " ++ f.value.render

/-- Whether two filters at one place of two queries are one filter. A filter keeps its place when a
query is refined, so the number tells. -/
def isOne (f g : Filter) : Bool := f.firstIn.isSome && f.firstIn == g.firstIn

/-- A held filter is equal to itself, even with a value that is not. -/
def same (f g : Filter) : Bool :=
  f.isOne g || (f.field == g.field && f.op == g.op && f.value.same g.value)

/-- The filter in the held query of the given number. -/
def heldIn (number : Nat) (f : Filter) : Filter := { f with firstIn := f.firstIn <|> some number }

theorem same_heldIn (number : Nat) (f : Filter) : (f.heldIn number).same (f.heldIn number) = true := by
  cases h : f.firstIn <;> simp [same, isOne, heldIn, h]

end Filter

end WhereClause

import WhereClause.Expr.Build
import WhereClause.Plan.Condition
import WhereClause.Text.Successor

/-! # WHERE clauses as lists of queries

A clause turns a list of queries into a list of queries that together match the rows of the clause.
A conjunction refines in two steps. A disjunction starts both of its sides from the same queries.
-/

namespace WhereClause

/-- The column on the left of an operator. -/
def leftColumn (operator : String) : Expr → Traced String
  | .column name _ => pure name
  | left => .reject (.leftNotColumn operator left.kind)

/-! ## Rules for one column -/

/-- Equality with each of the values, one after the other. -/
def matchAny (queries : List Query) (field : String) : List Expr → Traced (List Query)
  | [] => pure []
  | value :: values => do
    let first ← constrain queries (.text field) (.text "=") (.expr value)
    let others ← matchAny queries field values
    return first ++ others

def membership (queries : List Query) (operator field : String) : Expr → Traced (List Query)
  | .list values => do
    let found ← matchAny queries field values
    Traced.note (.inFanOut field values.length)
    return found
  | _ => .reject (.rightNotList operator)

/-- The texts that start with `start` are a range that ends at its successor, if it has one. -/
def startRange (queries : List Query) (field start : String) : Traced (List Query) := do
  let lower ← constrain queries (.text field) (.text ">=") (.text start)
  match Text.successor? start with
  | some bound => constrain lower (.text field) (.text "<") (.text bound)
  | none => return lower

def patternMatch (queries : List Query) (field : String) : Expr → Traced (List Query)
  | .string pattern =>
    match Pattern.ofString pattern with
    | .equals text => constrain queries (.text field) (.text "=") (.text text)
    | .beginsWith start => startRange queries field start
    | shape => .reject (.unsupportedPattern pattern shape)
  | right => .reject (.likeNotText right.kind)

def closedRange (queries : List Query) (field : String) : Expr → Traced (List Query)
  | .list [low, high] => do
    let lower ← constrain queries (.text field) (.text ">=") (.expr low)
    constrain lower (.text field) (.text "<=") (.expr high)
  | _ => .reject .betweenNotPair

def containment (queries : List Query) (operator field : String) (right : Expr) :
    Traced (List Query) :=
  if (Form.ofTag right.kind).isScalar then
    constrain queries (.text field) (.text operator) (.expr right)
  else .reject (.containsNotScalar right.kind)

/-! ## Clauses -/

/-- An operator between a column and an operand. -/
def ColumnRule.plan (rule : ColumnRule) (queries : List Query) (operator : String) (left right : Expr) :
    Traced (List Query) := do
  let field ← leftColumn operator left
  match rule with
  | membership => WhereClause.membership queries operator field right
  | pattern => patternMatch queries field right
  | range => closedRange queries field right
  | containment => WhereClause.containment queries operator field right
  | comparison => constrain queries (.text field) (.text operator) (.expr right)

/-- A column by itself holds where it is true. -/
def Expr.plan : Expr → List Query → Traced (List Query)
  | binary operator left right, queries =>
    match Rule.ofOperator operator with
    | .conjunction => do
      let narrowed ← left.plan queries
      right.plan narrowed
    | .disjunction => do
      let ls ← left.plan queries
      let rs ← right.plan queries
      Traced.note (.orFanOut ls.length rs.length)
      return ls ++ rs
    | .column rule => rule.plan queries operator left right
  | column name _, queries => constrain queries (.text name) (.text "=") (.bool true)
  | e, _ => .reject (.unsupportedClause e.kind)

/-! ## Whole plans -/

/-- The store refuses a query with range filters on several fields. -/
def boundsWarning? (q : Query) : Option Event :=
  if 1 < q.boundedFields.length then some (.severalBoundedFields q.boundedFields) else none

/-- Plans a node, and warns of the queries that the store will refuse if it is asked to. -/
def planNode (warn : Bool) (queries : List Query) (e : Expr) : Traced (List Query) := do
  let result ← e.plan queries
  Traced.note (.planned e.kind result.length)
  if warn then Traced.noteAll (result.filterMap boundsWarning?)
  return result

/-- Plans a node or the record of one. -/
def planDatum (warn : Bool) (queries : List Query) (clause : Datum) : Traced (List Query) := do
  let e ← Traced.ofResult (Expr.parse clause)
  planNode warn queries e

end WhereClause

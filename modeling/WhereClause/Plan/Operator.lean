import WhereClause.Query.Filter

/-! # Operators -/

namespace WhereClause

/-- The operators that negate another one. The store has none of them. -/
def negatedOperators : List String := ["NOT", "NOT CONTAINS", "NOT IN", "NOT LIKE", "NOT BETWEEN"]

namespace StoreOp

def ofToken? : String → Option StoreOp
  | "=" | "IS" => some equal
  | "<" => some less
  | "<=" => some atMost
  | ">" => some greater
  | ">=" => some atLeast
  | "CONTAINS" => some arrayContains
  | "CONTAINS-ANY" => some arrayContainsAny
  | _ => none

/-- The store's operator for a token, which is matched as it stands. -/
def ofToken (token : String) : Except Rejection StoreOp :=
  if negatedOperators.contains token then .error (.negatedOperator token)
  else match ofToken? token with
    | some op => .ok op
    | none => .error (.unknownOperator (.text token))

def ofDatum : Datum → Except Failure StoreOp
  | .text token => (ofToken token).mapError .rejected
  | .list _ => .error (.notKey .list)
  | .record _ => .error (.notKey .record)
  | d => .error (.rejected (.unknownOperator d))

end StoreOp

/-- The two spellings of not-equal. -/
def notEqual? : Datum → Option String
  | .text token => if token = "!=" ∨ token = "<>" then some token else none
  | _ => none

/-- What an operator between a column and an operand asks for. -/
inductive ColumnRule where
  | membership
  | pattern
  | range
  | containment
  | comparison
  deriving DecidableEq

/-- What an operator of a WHERE clause asks for. -/
inductive Rule where
  | conjunction
  | disjunction
  | column (rule : ColumnRule)
  deriving DecidableEq

def Rule.ofOperator : String → Rule
  | "AND" => conjunction
  | "OR" => disjunction
  | "IN" => column .membership
  | "LIKE" => column .pattern
  | "BETWEEN" => column .range
  | "CONTAINS" => column .containment
  | _ => column .comparison

end WhereClause

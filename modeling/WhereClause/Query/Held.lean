import WhereClause.Query.Basic

/-! # Queries that are held -/

namespace WhereClause

/-- A query with the number it got when it was made. -/
structure Held where
  number : Nat
  query : Query

namespace Held

/-- A query is equal to itself, whatever it holds. -/
def same (a b : Held) : Bool := a.number == b.number || a.query.same b.query

def sameLists : List Held → List Held → Bool
  | [], [] => true
  | a :: as, b :: bs => a.same b && sameLists as bs
  | _, _ => false

end Held

end WhereClause

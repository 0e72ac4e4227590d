import WhereClause.Query.Filter

/-! # Store queries

A query takes one more filter and gives a new query. The store's own queries hold their filters as a
conjunction. A recorder stands for any other kind of query: it notes what it is given. A sealed
query takes no filter.
-/

namespace WhereClause

inductive Query where
  | filtered (collection : Option String) (filters : List Filter)
  | recorder (name : String) (notes : List (Datum × Datum × Datum))
  | sealed

namespace Query

/-- Adds one filter at the end. -/
def refine (q : Query) (field op value : Datum) : Except Failure Query :=
  match q with
  | filtered collection filters => do
    let f ← (Filter.ofData field op value).orInvalid
    return filtered collection (filters ++ [f])
  | recorder name notes => .ok (recorder name (notes ++ [(field, op, value)]))
  | sealed => .error .sealed

/-- A query over given filters, which are checked before the collection is. -/
def ofFilters (collection : Datum) (filters : List (List (String × Datum))) : Except Failure Query := do
  let checked ← filters.mapM fun entries => (Filter.ofEntries entries).orInvalid
  let name ← collection.asOptionalText.orInvalid
  return filtered name checked

/-- The query as it is held under a number. -/
def heldAs (number : Nat) : Query → Query
  | filtered collection filters => filtered collection (filters.map (Filter.heldIn number))
  | q => q

/-- The distinct fields with a range filter, in the order of their first one. -/
def boundedFields : Query → List String
  | filtered _ filters => ((filters.filter Filter.isRange).map Filter.field).eraseDups
  | recorder _ _ | sealed => []

/-- The filters as a conjunction. -/
def text : Query → String
  | filtered _ [] => "<all>"
  | filtered _ filters => " AND ".intercalate (filters.map Filter.text)
  | recorder name _ => name
  | sealed => ""

def display (q : Query) : String := "<FilterQuery: " ++ q.text ++ ">"

def sameFilters : List Filter → List Filter → Bool
  | [], [] => true
  | f :: fs, g :: gs => f.same g && sameFilters fs gs
  | _, _ => false

/-- Queries of the store are equal if their collections and filters are. Other queries have no
equal beside themselves. -/
def same : Query → Query → Bool
  | filtered c fs, filtered d gs => c == d && sameFilters fs gs
  | _, _ => false

end Query

end WhereClause

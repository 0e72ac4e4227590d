import WhereClause.Expr.Render
import WhereClause.Journal.Severity

/-! # What a planner tells of its work -/

namespace WhereClause

inductive Event where
  | planned (kind : String) (queries : Nat)
  | split (field : Datum) (operator : String)
  | orFanOut (left right : Nat)
  | inFanOut (field : String) (values : Nat)
  | severalBoundedFields (fields : List String)

namespace Event

def severity : Event → Severity
  | severalBoundedFields _ => .warning
  | _ => .debug

def text : Event → String
  | planned kind n => "Translated WHERE " ++ kind ++ " into " ++ toString n ++ " queries"
  | split field operator => "Splitting " ++ field.display ++ " " ++ operator ++ " into < and > queries"
  | orFanOut l r => "OR fan-out: " ++ toString l ++ " + " ++ toString r ++ " queries"
  | inFanOut field n => "IN on " ++ field ++ " fanned out over " ++ toString n ++ " values"
  | severalBoundedFields fields =>
    "Query has range filters on several fields (" ++ commaJoin fields ++
      "); the store accepts only one"

/-- The events that a logger of the given level shows, in order. -/
def shownAt (level : Severity) (events : List Event) : List Event :=
  events.filter fun e => e.severity.shownAt level

end Event

end WhereClause

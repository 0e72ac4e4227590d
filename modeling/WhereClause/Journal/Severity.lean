import WhereClause.Text.Upper

/-! # Severities

A severity is both the weight of a record and the level of a logger, which shows the records that
weigh at least as much.
-/

namespace WhereClause

inductive Severity where
  | debug
  | info
  | warning
  | error
  | critical
  deriving DecidableEq

namespace Severity

def weight : Severity → Nat
  | debug => 10
  | info => 20
  | warning => 30
  | error => 40
  | critical => 50

def name : Severity → String
  | debug => "DEBUG"
  | info => "INFO"
  | warning => "WARNING"
  | error => "ERROR"
  | critical => "CRITICAL"

def all : List Severity := [debug, info, warning, error, critical]

/-- The case of the name does not matter, and a name without a meaning stands for `info`. -/
def ofLevelName (levelName : String) : Severity :=
  let upper := String.ofList (Text.upper levelName.toList)
  (all.find? fun s => s.name == upper).getD info

/-- Whether a logger of the given level shows records of the severity. -/
def shownAt (severity level : Severity) : Bool := level.weight ≤ severity.weight

end Severity

end WhereClause

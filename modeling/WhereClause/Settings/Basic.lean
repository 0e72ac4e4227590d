import WhereClause.Entries
import WhereClause.Expr.Field
import WhereClause.Settings.Reference

/-! # Settings

A setting comes from the arguments, else from the environment, else from the environment file, else
it has its default. Only the value that wins is checked.
-/

namespace WhereClause

structure Settings where
  logLevel : String := "INFO"
  warnRangeFields : Bool := true
  deriving DecidableEq

/-- Where settings come from. -/
structure SettingSources where
  arguments : List (String × Datum) := []
  environment : List (String × String) := []
  environmentFile : Option String := none

namespace SettingSources

def logLevelName : String := "LOG_LEVEL"

def warnName : String := "WARN_MULTIPLE_RANGE_FIELDS"

def foldCase (name : String) : String := String.ofList (Text.lowerAscii name.toList)

/-- The value of a name, the case of which does not matter. Of several names that differ in case
the last one counts. -/
def anyCase? {α : Type} (entries : List (String × α)) (name : String) : Option α :=
  ((Entries.ofPairs entries).reverse.find? fun e => foldCase e.1 == foldCase name).map Prod.snd

/-- The value that wins. An argument must have the name as it is. -/
def winner? (sources : SettingSources) (name : String) : Option Datum :=
  let fromFile := sources.environmentFile.bind fun text =>
    (anyCase? (EnvFile.entries sources.environment text) name).join
  (Entries.ofPairs sources.arguments).lookup name
    <|> (anyCase? sources.environment name).map .text
    <|> fromFile.map .text

def check {α : Type} (sources : SettingSources) (name : String) (default : α)
    (read : Datum → Checked α) : Checked α :=
  match sources.winner? name with
  | some d => read d
  | none => .ok default

def settings (sources : SettingSources) : Checked Settings :=
  .both Settings.mk (sources.check logLevelName ({} : Settings).logLevel Datum.asText)
    (sources.check warnName ({} : Settings).warnRangeFields Datum.asTruth)

end SettingSources

end WhereClause

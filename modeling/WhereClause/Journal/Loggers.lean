import WhereClause.Entries
import WhereClause.Expr.Render
import WhereClause.Journal.Severity

/-! # Loggers

There is one logger of each name, with a level of its own. Records go to the handlers of the root
logger, which are set up once.
-/

namespace WhereClause

structure Loggers where
  levels : List (String × Severity)
  /-- The record formats of the root logger's handlers. -/
  handlers : List String
  /-- Whether a set-up has been asked for. -/
  configured : Bool

namespace Loggers

def rootName : String := "root"

/-- The name of a logger that is given none. -/
def packageName : String := "firesql.logger"

/-- The name of the logger that all planners share. -/
def plannerName : String := "firesql.where.translator"

def recordFormat : String := "%(asctime)s %(levelname)s [%(name)s] %(message)s"

/-- The level of records that are written where no handler is. -/
def lastResort : Severity := .warning

def initial : Loggers := ⟨[(rootName, .warning), (plannerName, .info)], [], false⟩

/-- A logger that was given no level lets pass what the root logger does. -/
def level (loggers : Loggers) (name : String) : Severity :=
  (loggers.levels.lookup name).getD ((loggers.levels.lookup rootName).getD lastResort)

def setLevel (loggers : Loggers) (name : String) (level : Severity) : Loggers :=
  { loggers with levels := Entries.put loggers.levels (name, level) }

/-- Only the first request has an effect, and none if the root logger has handlers by then. -/
def setUp (loggers : Loggers) (level : Severity) : Loggers :=
  if loggers.configured then loggers
  else if loggers.handlers.isEmpty then
    { (loggers.setLevel rootName level) with handlers := [recordFormat], configured := true }
  else { loggers with configured := true }

theorem setUp_setUp (loggers : Loggers) (a b : Severity) :
    (loggers.setUp a).setUp b = loggers.setUp a := by
  unfold setUp
  split
  · simp [*]
  · split <;> simp

/-- A record in the standard format. -/
def line (time : String) (severity : Severity) (name message : String) : String :=
  time ++ " " ++ severity.name ++ " [" ++ name ++ "] " ++ message ++ "\n"

/-- What is written for a record: one line for each handler. -/
def write (loggers : Loggers) (time name message : String) (severity : Severity) : String :=
  if !severity.shownAt (loggers.level name) then ""
  else if loggers.handlers.isEmpty then
    if severity.shownAt lastResort then message ++ "\n" else ""
  else String.join (loggers.handlers.map fun _ => line time severity name message)

end Loggers

/-! ## Messages -/

/-- Puts the arguments into a message, one for each `%s` and `%d`. -/
def fillChars : List Char → List Datum → List Char
  | '%' :: '%' :: cs, args => '%' :: fillChars cs args
  | '%' :: 's' :: cs, arg :: args => arg.display.toList ++ fillChars cs args
  | '%' :: 'd' :: cs, arg :: args => arg.display.toList ++ fillChars cs args
  | c :: cs, args => c :: fillChars cs args
  | [], _ => []

/-- A message without arguments is left as it is. -/
def fill (message : String) (args : List Datum) : String :=
  if args.isEmpty then message else String.ofList (fillChars message.toList args)

end WhereClause

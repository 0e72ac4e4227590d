import WhereClause.Journal.Loggers
import WhereClause.Plan.Clause
import WhereClause.Query.Held
import WhereClause.Settings.Basic

/-! # Sessions

A planner fixes its warning flag when it is made. All planners write to one logger, and making a
planner sets the level of that logger from the settings.
-/

namespace WhereClause

structure Planner where
  warn : Bool
  deriving DecidableEq

structure Session where
  settings : Settings
  loggers : Loggers
  /-- The planners in the order they were made. -/
  planners : List Planner
  /-- The number of the next query made. -/
  next : Nat

namespace Session

/-- The planner that every session starts with. -/
def standard : Planner := ⟨true⟩

def initial : Session := ⟨{}, .initial, [standard], 0⟩

/-! ## Steps -/

/-- What can happen in a session, apart from plans. -/
inductive Step where
  | setLogLevel (name : String)
  | setWarn (warn : Bool)
  /-- Without a flag of its own a planner takes the one of the settings. -/
  | makePlanner (warn : Option Bool)
  /-- Without a name the logger of the package is meant. -/
  | makeLogger (name : String)
  /-- Without a level name the one of the settings is meant. -/
  | setUpLogging (levelName : String)

def settingsLevel (s : Session) : Severity := .ofLevelName s.settings.logLevel

def loggerName (name : String) : String := if name.isEmpty then Loggers.packageName else name

/-- The session with the level of one logger taken from the settings. -/
def relevel (s : Session) (name : String) : Session :=
  { s with loggers := s.loggers.setLevel name s.settingsLevel }

def step (s : Session) : Step → Session
  | .setLogLevel name => { s with settings := { s.settings with logLevel := name } }
  | .setWarn warn => { s with settings := { s.settings with warnRangeFields := warn } }
  | .makePlanner warn =>
    let made : Planner := ⟨warn.getD s.settings.warnRangeFields⟩
    { (s.relevel Loggers.plannerName) with planners := s.planners ++ [made] }
  | .makeLogger name => s.relevel (loggerName name)
  | .setUpLogging levelName =>
    let level := if levelName.isEmpty then s.settingsLevel else .ofLevelName levelName
    { s with loggers := s.loggers.setUp level }

def run (s : Session) (steps : List Step) : Session := steps.foldl step s

/-! ## Plans -/

def plannerLevel (s : Session) : Severity := s.loggers.level Loggers.plannerName

/-- The events that the planners' logger shows. -/
def shown (s : Session) (events : List Event) : List Event := Event.shownAt s.plannerLevel events

/-- A plan by the planner made at the given place. -/
def plan (s : Session) (index : Nat) (queries : List Query) (clause : Datum) : Traced (List Query) :=
  planDatum (s.planners.getD index standard).warn queries clause

/-! ## Held queries -/

/-- Numbers queries that have just been made, and with them their new filters. -/
def hold (s : Session) : List Query → List Held × Session
  | [] => ([], s)
  | q :: qs =>
    let (rest, after) := hold { s with next := s.next + 1 } qs
    (⟨s.next, q.heldAs s.next⟩ :: rest, after)

end Session

end WhereClause

import WhereClause.Session
import WhereClause.Proofs.NormalForm

/-! # What a plan depends on

Planners are made, settings are changed and clauses are planned in any order. A plan gives the same
queries or the same failure whatever went before, and its logger shows more or less of the same events.
-/

namespace WhereClause

namespace Session

/-- What can happen in a session, plans included. -/
inductive Act where
  | configure (step : Step)
  | plan (index : Nat) (queries : List Query) (clause : Datum)
  | constrain (queries : List Query) (field operator operand : Datum)

/-- The session in which the queries of a plan are held, if it gives any. -/
def keep (s : Session) (t : Traced (List Query)) : Session :=
  match t.result with
  | .ok queries => (s.hold queries).2
  | .error _ => s

def act (s : Session) : Act → Session
  | .configure step => s.step step
  | .plan index queries clause => s.keep (s.plan index queries clause)
  | .constrain queries field operator operand =>
    s.keep (WhereClause.constrain queries field operator operand)

def live (s : Session) (acts : List Act) : Session := acts.foldl act s

def steps : List Act → List Step
  | [] => []
  | .configure step :: acts => step :: steps acts
  | _ :: acts => steps acts

def warns (s : Session) (index : Nat) : Bool := (s.planners.getD index standard).warn

/-- The events of a plan that the planners' logger shows. -/
def records (s : Session) (index : Nat) (queries : List Query) (clause : Datum) : List Event :=
  s.shown (s.plan index queries clause).events

/-! ## Sessions that are set up alike -/

/-- Two sessions that differ at most in the number of the next query. -/
structure SetUpAlike (s t : Session) : Prop where
  settings : s.settings = t.settings
  loggers : s.loggers = t.loggers
  planners : s.planners = t.planners

namespace SetUpAlike

variable {s t : Session}

theorem step (h : SetUpAlike s t) (st : Step) : SetUpAlike (s.step st) (t.step st) := by
  obtain ⟨settings, loggers, planners, next⟩ := s
  obtain ⟨_, _, _, next'⟩ := t
  obtain ⟨rfl, rfl, rfl⟩ := h
  cases st <;> exact ⟨rfl, rfl, rfl⟩

theorem hold_left (h : SetUpAlike s t) (queries : List Query) :
    SetUpAlike (s.hold queries).2 t := by
  induction queries generalizing s with
  | nil => exact h
  | cons q qs ih =>
    -- A query that is held takes a number, and numbers are no part of the set-up.
    have hnext : SetUpAlike { s with next := s.next + 1 } t := ⟨h.settings, h.loggers, h.planners⟩
    exact ih hnext

theorem keep_left (h : SetUpAlike s t) (x : Traced (List Query)) : SetUpAlike (s.keep x) t := by
  unfold keep
  split
  · exact h.hold_left _
  · exact h

theorem live_run (h : SetUpAlike s t) (acts : List Act) :
    SetUpAlike (s.live acts) (t.run (steps acts)) := by
  induction acts generalizing s t with
  | nil => exact h
  | cons a acts ih =>
    cases a with
    | configure st => exact ih (h.step st)
    | plan index queries clause => exact ih (h.keep_left _)
    | constrain queries field operator operand => exact ih (h.keep_left _)

theorem plan_eq (h : SetUpAlike s t) (index : Nat) (queries : List Query) (clause : Datum) :
    s.plan index queries clause = t.plan index queries clause := by
  rw [plan, plan, h.planners]

theorem records_eq (h : SetUpAlike s t) (index : Nat) (queries : List Query) (clause : Datum) :
    s.records index queries clause = t.records index queries clause := by
  rw [records, records, shown, shown, plannerLevel, plannerLevel, h.plan_eq, h.loggers]

end SetUpAlike

end Session

/-! ## Results and records -/

theorem planDatum_result_of_warn (warn warn' : Bool) (qs : List Query) (clause : Datum) :
    (planDatum warn qs clause).result = (planDatum warn' qs clause).result := by
  simp only [planDatum, Traced.result_bind, Traced.result_ofResult, planNode_result]

theorem Event.shownAt_debug (events : List Event) : Event.shownAt .debug events = events := by
  apply List.filter_eq_self.mpr
  intro e _
  cases e <;> rfl

namespace Session

/-- Whatever two sessions have been through, a clause ends the same in both. Planners that warn alike
have the same events noted, of which a logger shows those that weigh enough, and what was planned
before makes no difference to them. -/
theorem plans_agree (s₁ s₂ : Session) (acts₁ acts₂ : List Act) (index₁ index₂ : Nat)
    (qs : List Query) (clause : Datum) :
    let t₁ := s₁.live acts₁
    let t₂ := s₂.live acts₂
    (t₁.plan index₁ qs clause).result = (t₂.plan index₂ qs clause).result ∧
      (t₁.warns index₁ = t₂.warns index₂ → t₂.plannerLevel = .debug →
        t₁.records index₁ qs clause = (t₂.records index₂ qs clause).filter fun e =>
          t₁.plannerLevel.weight ≤ e.severity.weight) ∧
      t₁.records index₁ qs clause = (s₁.run (steps acts₁)).records index₁ qs clause := by
  intro t₁ t₂
  refine ⟨planDatum_result_of_warn _ _ qs clause, ?_, ?_⟩
  · intro hwarns hdebug
    have hplan : t₁.plan index₁ qs clause = t₂.plan index₂ qs clause := by
      change planDatum (t₁.warns index₁) qs clause = planDatum (t₂.warns index₂) qs clause
      rw [hwarns]
    have hall : t₂.records index₂ qs clause = (t₂.plan index₂ qs clause).events := by
      rw [records, shown, hdebug, Event.shownAt_debug]
    rw [hall, records, hplan]
    rfl
  · have halike : SetUpAlike s₁ s₁ := ⟨rfl, rfl, rfl⟩
    exact (halike.live_run acts₁).records_eq index₁ qs clause

/-- `city IN ("Rome", "Oslo") OR name LIKE "%o"` fails after its first side is planned. A planner made
at level `warning` shows nothing then, and the first planner shows the event of that side after another
one was made at level `debug`. -/
theorem plans_agree_on_half_planned :
    let clause : Datum := .expr (.binary "OR"
      (.binary "IN" (.column "city" none) (.list [.string "Rome", .string "Oslo"]))
      (.binary "LIKE" (.column "name" none) (.string "%o")))
    let seeds : List Query := [.filtered none []]
    let quietly : List Act := [.configure (.setLogLevel "warning"), .configure (.makePlanner (some true))]
    let loudly : List Act := [.plan 0 seeds clause, .configure (.setLogLevel "DEBUG"),
      .configure (.setWarn false), .configure (.makePlanner none)]
    let quiet := initial.live quietly
    let loud := initial.live loudly
    quiet.warns 1 = loud.warns 0 ∧ loud.plannerLevel = .debug ∧
      (quiet.plan 1 seeds clause).result = (loud.plan 0 seeds clause).result ∧
      loud.records 0 seeds clause = [.inFanOut "city" 2] ∧ quiet.records 1 seeds clause = [] := by
  intro clause seeds quietly loudly quiet loud
  have hwarns : quiet.warns 1 = loud.warns 0 := rfl
  have hdebug : loud.plannerLevel = .debug := by decide +kernel
  have hwarning : quiet.plannerLevel = .warning := by decide +kernel
  obtain ⟨hresult, hrecords, -⟩ := plans_agree initial initial quietly loudly 1 0 seeds clause
  have hloud : loud.records 0 seeds clause = [.inFanOut "city" 2] := by
    rw [records, shown, hdebug, Event.shownAt_debug]
    rfl
  refine ⟨hwarns, hdebug, hresult, hloud, ?_⟩
  rw [hrecords hwarns hdebug, hloud, hwarning]
  rfl

end Session

end WhereClause

import Mathlib.Data.List.Induction
import WhereClause.Proofs.History

/-! # What planners take from the settings

A planner takes its flag from the settings once, when it is made. The level is taken whenever a planner
or a logger of the planners' name is made, and it is the level of all planners there are.
-/

namespace WhereClause

/-! ## Level names -/

/-- The case of a level name does not matter, and any other name means `info`. -/
inductive Severity.Named (levelName : String) : Severity → Prop
  | known {severity : Severity}
      (h : String.ofList (Text.upper levelName.toList) = severity.name) : Named levelName severity
  | unknown (h : ∀ severity : Severity, String.ofList (Text.upper levelName.toList) ≠ severity.name) :
    Named levelName .info

theorem Severity.mem_all (severity : Severity) : severity ∈ all := by
  cases severity <;> decide

theorem Severity.named_ofLevelName (levelName : String) : Named levelName (ofLevelName levelName) := by
  unfold ofLevelName
  dsimp only
  cases hfound : all.find? fun s => s.name == String.ofList (Text.upper levelName.toList) with
  | some severity =>
    have hname := List.find?_some hfound
    exact .known (beq_iff_eq.mp hname).symm
  | none =>
    refine .unknown fun severity hname => ?_
    have hnot := List.find?_eq_none.mp hfound severity severity.mem_all
    exact hnot (beq_iff_eq.mpr hname.symm)

namespace Session

/-! ## One act -/

namespace Act

def logLevel? : Act → Option String
  | .configure (.setLogLevel name) => some name
  | _ => none

def warn? : Act → Option Bool
  | .configure (.setWarn warn) => some warn
  | _ => none

def makesPlanner : Act → Bool
  | .configure (.makePlanner _) => true
  | _ => false

/-- Whether the level of the planners' logger is taken from the settings. -/
def relevels : Act → Bool
  | .configure (.makePlanner _) => true
  | .configure (.makeLogger name) => name == Loggers.plannerName
  | _ => false

def planners (settings : Settings) : Act → List Planner
  | .configure (.makePlanner warn) => [⟨warn.getD settings.warnRangeFields⟩]
  | _ => []

theorem logLevel?_of_relevels {a : Act} (h : a.relevels = true) : a.logLevel? = none := by
  cases a with
  | configure st => cases st <;> first | rfl | cases h
  | plan | constrain => rfl

theorem length_planners (settings : Settings) (a : Act) :
    (a.planners settings).length = if a.makesPlanner then 1 else 0 := by
  cases a with
  | configure st => cases st <;> rfl
  | plan | constrain => rfl

end Act

/-- The level that the planners' logger was given, if it was given one. -/
def ownLevel? (s : Session) : Option Severity := s.loggers.levels.lookup Loggers.plannerName

theorem plannerLevel_of_ownLevel? {s : Session} {level : Severity} (h : s.ownLevel? = some level) :
    s.plannerLevel = level := by
  rw [ownLevel?] at h
  rw [plannerLevel, Loggers.level, h]
  rfl

theorem eq_loggerName_iff {own : String} (hempty : own ≠ "") (hpackage : own ≠ Loggers.packageName)
    (name : String) : own = loggerName name ↔ name = own := by
  unfold loggerName
  split
  · rename_i h
    rw [String.isEmpty_iff] at h
    subst h
    exact iff_of_false hpackage hempty.symm
  · exact eq_comm

/-- All that an act can change of the set-up. -/
structure Acted (s : Session) (a : Act) (t : Session) : Prop where
  logLevel : t.settings.logLevel = a.logLevel?.getD s.settings.logLevel
  warn : t.settings.warnRangeFields = a.warn?.getD s.settings.warnRangeFields
  planners : t.planners = s.planners ++ a.planners s.settings
  ownLevel? : t.ownLevel? = if a.relevels then some s.settingsLevel else s.ownLevel?

theorem ownLevel?_relevel (s : Session) (name : String) :
    (s.relevel name).ownLevel? =
      if Loggers.plannerName = name then some s.settingsLevel else s.ownLevel? :=
  Entries.lookup_put _ _ _ _

theorem lookup_setUp (loggers : Loggers) (level : Severity) :
    (loggers.setUp level).levels.lookup Loggers.plannerName = loggers.levels.lookup Loggers.plannerName := by
  unfold Loggers.setUp
  split
  · rfl
  · split
    · exact (Entries.lookup_put _ _ _ _).trans (if_neg (by decide))
    · rfl

theorem acted_of_setUpAlike {s t : Session} (h : SetUpAlike t s) {a : Act} (hlevel : a.logLevel? = none)
    (hwarn : a.warn? = none) (hplanners : a.planners s.settings = []) (hrelevels : a.relevels = false) :
    Acted s a t where
  logLevel := by rw [h.settings, hlevel]; rfl
  warn := by rw [h.settings, hwarn]; rfl
  planners := by rw [h.planners, hplanners, List.append_nil]
  ownLevel? := by rw [Session.ownLevel?, h.loggers, hrelevels]; rfl

theorem acted (s : Session) (a : Act) : Acted s a (s.act a) := by
  have halike : SetUpAlike s s := ⟨rfl, rfl, rfl⟩
  cases a with
  | plan index queries clause => exact acted_of_setUpAlike (halike.keep_left _) rfl rfl rfl rfl
  | constrain queries field operator operand =>
    exact acted_of_setUpAlike (halike.keep_left _) rfl rfl rfl rfl
  | configure st =>
    cases st with
    | setLogLevel name => exact ⟨rfl, rfl, (List.append_nil _).symm, rfl⟩
    | setWarn warn => exact ⟨rfl, rfl, (List.append_nil _).symm, rfl⟩
    | makePlanner warn => exact ⟨rfl, rfl, rfl, s.ownLevel?_relevel Loggers.plannerName⟩
    | makeLogger name =>
      refine ⟨rfl, rfl, (List.append_nil _).symm, ?_⟩
      change (s.relevel (loggerName name)).ownLevel? = _
      have hname := eq_loggerName_iff (show Loggers.plannerName ≠ "" by decide) (by decide) name
      rw [ownLevel?_relevel]
      simp only [hname, Act.relevels, beq_iff_eq]
    | setUpLogging levelName =>
      exact ⟨rfl, rfl, (List.append_nil _).symm, lookup_setUp _ _⟩

/-! ## Whole runs -/

/-- The value last put by an act, or the first one if no act puts any. -/
def lastPut {α : Type} (put : Act → Option α) (first : α) (acts : List Act) : α :=
  ((acts.filterMap put).getLast?).getD first

theorem lastPut_concat {α : Type} (put : Act → Option α) (first : α) (acts : List Act) (a : Act) :
    lastPut put first (acts ++ [a]) = (put a).getD (lastPut put first acts) := by
  unfold lastPut
  rw [List.filterMap_append, List.getLast?_append]
  cases h : put a <;> simp [h]

def settingsAfter (settings : Settings) (acts : List Act) : Settings where
  logLevel := lastPut Act.logLevel? settings.logLevel acts
  warnRangeFields := lastPut Act.warn? settings.warnRangeFields acts

def plannersMade (acts : List Act) : Nat := acts.countP Act.makesPlanner

/-- A session in which no planner has been made yet. -/
def unstarted (settings : Settings) : Session :=
  ⟨settings, ⟨[(Loggers.rootName, .warning)], [], false⟩, [], 0⟩

/-- A session under any settings starts as one that makes its standard planner. -/
def started (settings : Settings) : Session := (unstarted settings).step (.makePlanner none)

theorem started_default : started {} = initial := by
  have hlevel : Severity.ofLevelName ({} : Settings).logLevel = .info := by decide +kernel
  rw [started, step, relevel, settingsLevel, unstarted, hlevel]
  rfl

theorem live_concat (s : Session) (acts : List Act) (a : Act) :
    s.live (acts ++ [a]) = (s.live acts).act a := List.foldl_append

theorem live_append (s : Session) (before after : List Act) :
    s.live (before ++ after) = (s.live before).live after := List.foldl_append

theorem settings_act {s : Session} {settings : Settings} {acts : List Act}
    (h : s.settings = settingsAfter settings acts) (a : Act) :
    (s.act a).settings = settingsAfter settings (acts ++ [a]) := by
  obtain ⟨hlevel, hwarn, -, -⟩ := acted s a
  rw [h] at hlevel hwarn
  rw [settingsAfter, lastPut_concat, lastPut_concat]
  exact congrArg₂ Settings.mk hlevel hwarn

theorem settings_live (s : Session) (acts : List Act) :
    (s.live acts).settings = settingsAfter s.settings acts := by
  -- From the end, since the last act that puts a value decides.
  induction acts using List.reverseRecOn with
  | nil => rfl
  | append_singleton acts a ih =>
    rw [live_concat]
    exact settings_act ih a

theorem planners_prefix_live (s : Session) (acts : List Act) : s.planners <+: (s.live acts).planners := by
  induction acts using List.reverseRecOn with
  | nil => exact List.prefix_rfl
  | append_singleton acts a ih =>
    rw [live_concat, (acted _ a).planners]
    exact ih.trans (List.prefix_append _ _)

theorem length_planners_live (s : Session) (acts : List Act) :
    (s.live acts).planners.length = s.planners.length + plannersMade acts := by
  induction acts using List.reverseRecOn with
  | nil => rfl
  | append_singleton acts a ih =>
    rw [live_concat, (acted _ a).planners, List.length_append, ih, Act.length_planners, plannersMade,
      plannersMade, List.countP_append, List.countP_singleton, Nat.add_assoc]

theorem planner_live (s : Session) (before : List Act) (flag : Option Bool) (after : List Act) :
    let t := s.live (before ++ .configure (.makePlanner flag) :: after)
    t.planners[s.planners.length + plannersMade before]? =
      some ⟨flag.getD (settingsAfter s.settings before).warnRangeFields⟩ := by
  intro t
  rw [← length_planners_live, ← settings_live, show t = (s.live before).live _ from live_append ..]
  generalize s.live before = made
  obtain ⟨later, hlater⟩ := planners_prefix_live (made.act (.configure (.makePlanner flag))) after
  have hmade : (made.act (.configure (.makePlanner flag))).planners =
      made.planners ++ [⟨flag.getD made.settings.warnRangeFields⟩] := (acted made _).planners
  rw [hmade, List.append_assoc] at hlater
  rw [live, List.foldl_cons, ← live, ← hlater]
  simp

/-- The level of the planners' logger was last taken from the settings at the end of `before`, or never
again since the start. -/
structure LastRelevel (before acts : List Act) : Prop where
  latest : ∀ a ∈ before.getLast?, a.relevels = true
  kept : ∃ after, acts = before ++ after ∧ ∀ a ∈ after, a.relevels = false

theorem ownLevel?_live {s : Session} (h : s.ownLevel? = some s.settingsLevel) (acts : List Act) :
    ∃ before, LastRelevel before acts ∧
      (s.live acts).ownLevel? = some (.ofLevelName (settingsAfter s.settings before).logLevel) := by
  induction acts using List.reverseRecOn with
  | nil => exact ⟨[], ⟨by simp, [], rfl, by simp⟩, h⟩
  | append_singleton acts a ih =>
    have hlevel := (acted (s.live acts) a).ownLevel?
    rw [← live_concat] at hlevel
    cases ha : a.relevels with
    | true =>
      -- An act that sets the level puts no level name, so the settings before it and after it agree on it.
      refine ⟨acts ++ [a], ⟨by simpa using ha, [], by simp⟩, ?_⟩
      have hname := (acted (s.live acts) a).logLevel
      rw [Act.logLevel?_of_relevels ha, ← live_concat, settings_live] at hname
      rw [hlevel, ha, if_pos rfl, settingsLevel, hname]
      rfl
    | false =>
      obtain ⟨before, ⟨hlatest, after, rfl, hkept⟩, hown⟩ := ih
      rw [ha] at hlevel
      refine ⟨before, ⟨hlatest, after ++ [a], List.append_assoc _ _ _, ?_⟩, hlevel.trans hown⟩
      simpa [or_imp, forall_and, ha] using hkept

/-- Whatever happens in a session, the planners in it warn as they were told when they were made, or
as the settings said at that time. All of them show the records that weigh enough for one level, which is
the level named in the settings when a planner or a logger of the planners' name was last made. -/
theorem flags_and_level_captured (settings : Settings) (acts : List Act) :
    let s := (started settings).live acts
    s.planners.length = plannersMade acts + 1 ∧
      s.planners[0]? = some ⟨settings.warnRangeFields⟩ ∧
      (∀ before flag after, acts = before ++ .configure (.makePlanner flag) :: after →
        s.planners[plannersMade before + 1]? =
          some ⟨flag.getD (settingsAfter settings before).warnRangeFields⟩) ∧
      (∃ before, LastRelevel before acts ∧
        Severity.Named (settingsAfter settings before).logLevel s.plannerLevel) ∧
      (∀ index qs clause, s.records index qs clause =
        (planDatum (s.warns index) qs clause).events.filter fun e =>
          s.plannerLevel.weight ≤ e.severity.weight) ∧
      ∀ qs field operator operand, s.shown (constrain qs field operator operand).events =
        (constrain qs field operator operand).events.filter fun e =>
          s.plannerLevel.weight ≤ e.severity.weight := by
  intro s
  refine ⟨?_, ?_, ?_, ?_, ?_, ?_⟩
  · rw [length_planners_live, Nat.add_comm]
    rfl
  · obtain ⟨later, hlater⟩ := planners_prefix_live (started settings) acts
    rw [← hlater]
    rfl
  · rintro before flag after rfl
    rw [Nat.add_comm]
    exact planner_live (started settings) before flag after
  · have hstart : (started settings).ownLevel? = some (started settings).settingsLevel := rfl
    obtain ⟨before, hlast, hown⟩ := ownLevel?_live hstart acts
    refine ⟨before, hlast, ?_⟩
    rw [plannerLevel_of_ownLevel? hown]
    exact Severity.named_ofLevelName _
  · exact fun index qs clause => rfl
  · exact fun qs field operator operand => rfl

/-- In a session that starts at level `warning` one planner is made while the setting says not to warn, and
one with its own flag after the level was set to `debug`. Loggers of other names, a set-up of logging and
plans in between change nothing, nor does the last level name, which no planner is made under. -/
theorem flags_and_level_captured_between_changes :
    let seeds : List Query := [.filtered none []]
    let clause : Datum := .expr (.binary "<>" (.column "age" none) (.number (.int 3)))
    let acts : List Act := [.configure (.setWarn false), .configure (.makePlanner none),
      .configure (.setWarn true), .configure (.setLogLevel "debug"), .plan 1 seeds clause,
      .configure (.makePlanner (some false)), .configure (.setLogLevel "Error"),
      .configure (.makeLogger "firesql.query"), .configure (.setUpLogging "critical"),
      .plan 2 seeds clause]
    let s := (started ⟨"warning", true⟩).live acts
    s.planners.length = 3 ∧ s.planners[0]? = some ⟨true⟩ ∧ s.planners[1]? = some ⟨false⟩ ∧
      s.planners[2]? = some ⟨false⟩ ∧ s.plannerLevel = .debug ∧
      (∃ before, LastRelevel before acts ∧
        Severity.Named (settingsAfter ⟨"warning", true⟩ before).logLevel .debug) ∧
      s.records 1 seeds clause = [.split (.text "age") "<>", .planned "binary_expr" 2] := by
  intro seeds clause acts s
  obtain ⟨hlength, hfirst, hmade, hnamed, hrecords, -⟩ :=
    flags_and_level_captured ⟨"warning", true⟩ acts
  have hlevel : s.plannerLevel = .debug := by decide +kernel
  refine ⟨hlength, hfirst, hmade [.configure (.setWarn false)] none _ rfl,
    hmade (acts.take 5) (some false) _ rfl, hlevel, hlevel ▸ hnamed, ?_⟩
  rw [hrecords, hlevel]
  rfl

end Session

end WhereClause

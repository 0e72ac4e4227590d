import WhereClause.Proofs.Captured

/-! # The root logger

The first request to set up logging configures the root logger, unless it has handlers by then. No later
request does, also where other code takes the handlers away in between, and nothing else that happens in
a session touches the root logger.
-/

namespace WhereClause

/-- The level of the root logger and the record formats of its handlers. -/
structure Root where
  level : Severity
  handlers : List String
  deriving DecidableEq

namespace Loggers

def root (loggers : Loggers) : Root := ⟨loggers.level rootName, loggers.handlers⟩

def setRoot (loggers : Loggers) (root : Root) : Loggers :=
  { loggers.setLevel rootName root.level with handlers := root.handlers }

theorem level_setLevel (loggers : Loggers) (name : String) (level : Severity) :
    (loggers.setLevel name level).level name = level := by
  rw [Loggers.level, setLevel, Entries.lookup_put_self]
  rfl

theorem root_setLevel {name : String} (h : rootName ≠ name) (loggers : Loggers) (level : Severity) :
    (loggers.setLevel name level).root = loggers.root := by
  rw [root, Loggers.level, setLevel, Entries.lookup_put, if_neg h]
  rfl

theorem root_setRoot (loggers : Loggers) (root : Root) : (loggers.setRoot root).root = root :=
  congrArg (Root.mk · root.handlers) (loggers.level_setLevel rootName root.level)

theorem root_setUp (loggers : Loggers) (level : Severity) :
    (loggers.setUp level).root =
      if loggers.configured = false ∧ loggers.handlers = [] then ⟨level, [recordFormat]⟩
      else loggers.root := by
  unfold setUp
  split
  · rename_i h
    rw [if_neg (by simp [h])]
  · rename_i h
    split
    · rename_i hempty
      rw [if_pos ⟨by simpa using h, List.isEmpty_iff.mp hempty⟩]
      exact congrArg (Root.mk · [recordFormat]) (loggers.level_setLevel rootName level)
    · rename_i hsome
      rw [if_neg fun hnone => hsome (List.isEmpty_iff.mpr hnone.2)]
      rfl

theorem configured_setUp (loggers : Loggers) (level : Severity) :
    (loggers.setUp level).configured = true := by
  unfold setUp
  split
  · assumption
  · split <;> rfl

end Loggers

/-- The level name that a request stands for. Without one, or with an empty one, it is the name in the
settings. -/
def Settings.levelNameFor (settings : Settings) : Option String → String
  | none => settings.logLevel
  | some levelName => if levelName = "" then settings.logLevel else levelName

namespace Session

def root (s : Session) : Root := s.loggers.root

/-! ## Moves -/

/-- An act in a session, or a change that other code makes to the root logger. -/
inductive Move where
  | act (a : Act)
  | elsewhere (root : Root)

def Move.setUp (levelName : Option String) : Move :=
  .act (.configure (.setUpLogging (levelName.getD "")))

def move (s : Session) : Move → Session
  | .act a => s.act a
  | .elsewhere root => { s with loggers := s.loggers.setRoot root }

def moved (s : Session) (moves : List Move) : Session := moves.foldl move s

def acts : List Move → List Act
  | [] => []
  | .act a :: moves => a :: acts moves
  | .elsewhere _ :: moves => acts moves

/-- What moves make of a root logger that no act touches. -/
def changedElsewhere (root : Root) : List Move → Root
  | [] => root
  | .act _ :: moves => changedElsewhere root moves
  | .elsewhere new :: moves => changedElsewhere new moves

theorem moved_concat (s : Session) (moves : List Move) (m : Move) :
    s.moved (moves ++ [m]) = (s.moved moves).move m := List.foldl_append

theorem acts_append (moves moves' : List Move) : acts (moves ++ moves') = acts moves ++ acts moves' := by
  induction moves with
  | nil => rfl
  | cons m moves ih =>
    cases m with
    | act a => exact congrArg (a :: ·) ih
    | elsewhere root => exact ih

theorem settings_moved (s : Session) (moves : List Move) :
    (s.moved moves).settings = settingsAfter s.settings (acts moves) := by
  induction moves using List.reverseRecOn with
  | nil => rfl
  | append_singleton moves m ih =>
    rw [moved_concat, acts_append]
    cases m with
    | act a => exact settings_act ih a
    | elsewhere root => exact ih.trans (congrArg _ (List.append_nil _).symm)

/-! ## One move -/

theorem setUp_or_kept (s : Session) (a : Act) :
    (∃ levelName level, Move.act a = .setUp levelName ∧ (s.act a).loggers = s.loggers.setUp level) ∨
      (∀ levelName, Move.act a ≠ .setUp levelName) ∧
        (s.act a).loggers.configured = s.loggers.configured ∧
        (a ≠ .configure (.makeLogger Loggers.rootName) → (s.act a).root = s.root) := by
  have halike : SetUpAlike s s := ⟨rfl, rfl, rfl⟩
  cases a with
  | plan | constrain =>
    exact .inr ⟨fun _ => nofun, congrArg Loggers.configured (halike.keep_left _).loggers,
      fun _ => congrArg Loggers.root (halike.keep_left _).loggers⟩
  | configure st =>
    cases st with
    | setLogLevel | setWarn => exact .inr ⟨fun _ => nofun, rfl, fun _ => rfl⟩
    | makePlanner warn =>
      exact .inr ⟨fun _ => nofun, rfl, fun _ => s.loggers.root_setLevel (by decide) _⟩
    | makeLogger name =>
      -- Without a name the logger of the package is made, so the root logger has to be named.
      refine .inr ⟨fun _ => nofun, rfl, fun hname => s.loggers.root_setLevel (fun h => ?_) _⟩
      rw [eq_loggerName_iff (by decide) (by decide)] at h
      exact hname (h ▸ rfl)
    | setUpLogging levelName => exact .inl ⟨some levelName, _, rfl, rfl⟩

theorem configured_move_iff (s : Session) (m : Move) :
    (s.move m).loggers.configured = true ↔
      s.loggers.configured = true ∨ ∃ levelName, m = .setUp levelName := by
  cases m with
  | elsewhere root => exact (or_iff_left nofun).symm
  | act a =>
    rcases s.setUp_or_kept a with ⟨levelName, level, ha, hl⟩ | ⟨hother, hkept, -⟩
    · refine iff_of_true ?_ (.inr ⟨levelName, ha⟩)
      rw [move, hl]
      exact s.loggers.configured_setUp level
    · rw [move, hkept]
      exact (or_iff_left (not_exists.mpr hother)).symm

theorem of_root_act_ne {s : Session} {a : Act} (hname : a ≠ .configure (.makeLogger Loggers.rootName))
    (h : (s.act a).root ≠ s.root) :
    (∃ levelName, Move.act a = .setUp levelName) ∧ s.loggers.configured = false ∧ s.root.handlers = [] := by
  rcases s.setUp_or_kept a with ⟨levelName, level, ha, hl⟩ | ⟨-, -, hkept⟩
  · refine ⟨⟨levelName, ha⟩, ?_⟩
    by_contra hnot
    exact h ((congrArg Loggers.root hl).trans ((s.loggers.root_setUp level).trans (if_neg hnot)))
  · exact absurd (hkept hname) h

theorem ofLevelName_levelNameFor (s : Session) (levelName : Option String) :
    Severity.ofLevelName (s.settings.levelNameFor levelName) =
      if (levelName.getD "").isEmpty then s.settingsLevel else .ofLevelName (levelName.getD "") := by
  cases levelName with
  | none => rfl
  | some name =>
    rw [Settings.levelNameFor, apply_ite Severity.ofLevelName]
    simp only [Option.getD_some, String.isEmpty_iff]
    rfl

theorem root_first_setUp {s : Session} (hfirst : s.loggers.configured = false)
    (hbare : s.root.handlers = []) (levelName : Option String) :
    (s.move (.setUp levelName)).root =
      ⟨.ofLevelName (s.settings.levelNameFor levelName), [Loggers.recordFormat]⟩ := by
  rw [ofLevelName_levelNameFor]
  exact (s.loggers.root_setUp _).trans (if_pos ⟨hfirst, hbare⟩)

/-! ## Whole runs -/

theorem configured_moved_iff (s : Session) (moves : List Move) :
    (s.moved moves).loggers.configured = true ↔
      s.loggers.configured = true ∨ ∃ levelName, .setUp levelName ∈ moves := by
  induction moves using List.reverseRecOn with
  | nil => simp [moved]
  | append_singleton moves m ih =>
    rw [moved_concat, configured_move_iff, ih, or_assoc]
    simp only [List.mem_append, List.mem_singleton, exists_or, eq_comm]

/-- Only other code changes the root logger once a set-up was asked for, and while none is. -/
theorem root_moved {s : Session} {moves : List Move}
    (h : s.loggers.configured = true ∨ ∀ levelName, .setUp levelName ∉ moves)
    (hname : .act (.configure (.makeLogger Loggers.rootName)) ∉ moves) :
    (s.moved moves).root = changedElsewhere s.root moves := by
  -- From the front: both ways in which `h` can hold are handed on to the rest of the moves.
  induction moves generalizing s with
  | nil => rfl
  | cons m moves ih =>
    obtain ⟨hm, hmoves⟩ := not_or.mp (List.mem_cons.not.mp hname)
    have hnext : (s.move m).loggers.configured = true ∨ ∀ levelName, .setUp levelName ∉ moves :=
      h.imp (fun hdone => (s.configured_move_iff m).mpr (.inl hdone))
        fun hnone levelName hmem => hnone levelName (List.mem_cons_of_mem m hmem)
    have hrest := ih hnext hmoves
    cases m with
    | elsewhere root =>
      have hnew : (s.move (.elsewhere root)).root = root := s.loggers.root_setRoot root
      rw [hnew] at hrest
      exact hrest
    | act a =>
      have hkept : (s.act a).root = s.root := by
        by_contra hne
        have hother : a ≠ .configure (.makeLogger Loggers.rootName) := fun ha =>
          hm (congrArg Move.act ha.symm)
        obtain ⟨⟨levelName, ha⟩, hfirst, -⟩ := of_root_act_ne hother hne
        rcases h with hdone | hnone
        · exact Bool.false_ne_true (hfirst.symm.trans hdone)
        · exact hnone levelName (ha ▸ List.mem_cons_self)
      rw [move, hkept] at hrest
      exact hrest

/-- Among all acts in a session, only the first request to set up logging can change the root logger, and
only if the root logger has no handlers then. It gets the level that the request names, or the settings at
that time where the request names none. After this request the root logger is what it left, until other code
changes it, and then what other code last made of it. Without a request only other code changes it. -/
theorem root_configured_at_most_once (settings : Settings) (moves : List Move)
    (hname : .act (.configure (.makeLogger Loggers.rootName)) ∉ moves) :
    let rootAfter := fun done : List Move => ((started settings).moved done).root
    (∀ before a after, moves = before ++ .act a :: after →
      rootAfter (before ++ [.act a]) ≠ rootAfter before →
      (∃ levelName, Move.act a = .setUp levelName) ∧ (∀ levelName, .setUp levelName ∉ before) ∧
        (rootAfter before).handlers = []) ∧
    ((∀ levelName, .setUp levelName ∉ moves) → rootAfter moves = changedElsewhere ⟨.warning, []⟩ moves) ∧
    ∀ before levelName after, moves = before ++ .setUp levelName :: after →
      (∀ earlier, .setUp earlier ∉ before) →
      ((rootAfter before).handlers = [] → ∃ level,
        Severity.Named ((settingsAfter settings (acts before)).levelNameFor levelName) level ∧
          rootAfter (before ++ [.setUp levelName]) = ⟨level, [Loggers.recordFormat]⟩) ∧
      ((rootAfter before).handlers ≠ [] → rootAfter (before ++ [.setUp levelName]) = rootAfter before) ∧
      rootAfter moves = changedElsewhere (rootAfter (before ++ [.setUp levelName])) after := by
  intro rootAfter
  have hconfigured (done : List Move) : ((started settings).moved done).loggers.configured = true ↔
      ∃ levelName, .setUp levelName ∈ done := by
    rw [configured_moved_iff]
    exact or_iff_right Bool.false_ne_true
  refine ⟨?_, fun hnone => root_moved (.inr hnone) hname, ?_⟩
  · rintro before a after rfl hne
    have ha : a ≠ .configure (.makeLogger Loggers.rootName) := by
      rintro rfl
      exact hname (List.mem_append_right _ List.mem_cons_self)
    simp only [rootAfter, moved_concat] at hne
    obtain ⟨hsetUp, hfirst, hbare⟩ := of_root_act_ne ha hne
    refine ⟨hsetUp, fun levelName hmem => ?_, hbare⟩
    exact Bool.false_ne_true (hfirst.symm.trans ((hconfigured before).mpr ⟨levelName, hmem⟩))
  · rintro before levelName after rfl hnone
    have hfirst : ((started settings).moved before).loggers.configured = false := by
      rw [← Bool.not_eq_true, hconfigured]
      exact fun ⟨earlier, hmem⟩ => hnone earlier hmem
    refine ⟨fun hbare => ?_, fun hsome => ?_, ?_⟩
    · refine ⟨_, Severity.named_ofLevelName _, ?_⟩
      simp only [rootAfter, moved_concat]
      rw [root_first_setUp hfirst hbare, settings_moved]
      rfl
    · by_contra hne
      simp only [rootAfter, moved_concat] at hne
      exact hsome (of_root_act_ne (by rintro ⟨⟩) hne).2.2
    · have hdone : ((started settings).moved (before ++ [.setUp levelName])).loggers.configured = true :=
        (hconfigured _).mpr ⟨levelName, by simp⟩
      have hafter : .act (.configure (.makeLogger Loggers.rootName)) ∉ after := fun hmem =>
        hname (List.mem_append_right _ (List.mem_cons_of_mem _ hmem))
      rw [← root_moved (.inl hdone) hafter]
      simp only [rootAfter, moved, List.foldl_append, List.foldl_cons, List.foldl_nil]

/-- The level name is put before the first request, which names none itself, and changed after it. Then
other code takes the handler away, and the next request is too late. In the second run other code has a
handler when the first request comes. -/
theorem root_configured_at_most_once_around_other_code :
    let bare : List Move := [.act (.configure (.setLogLevel "error")), .act (.configure (.makeLogger "")),
      .setUp none, .act (.configure (.setLogLevel "debug")), .elsewhere ⟨.info, []⟩,
      .setUp (some "critical")]
    let handled : List Move := [.elsewhere ⟨.critical, ["%(message)s"]⟩, .setUp (some "debug"),
      .elsewhere ⟨.warning, []⟩, .act (.configure (.makePlanner none)), .setUp none]
    let rootAfter := fun done : List Move => ((started {}).moved done).root
    .act (.configure (.makeLogger Loggers.rootName)) ∉ bare ∧
      .act (.configure (.makeLogger Loggers.rootName)) ∉ handled ∧
      rootAfter (bare.take 3) = ⟨.error, [Loggers.recordFormat]⟩ ∧ Severity.Named "error" .error ∧
      rootAfter bare = ⟨.info, []⟩ ∧
      rootAfter (handled.take 2) = ⟨.critical, ["%(message)s"]⟩ ∧ rootAfter handled = ⟨.warning, []⟩ := by
  intro bare handled rootAfter
  have hbare : .act (.configure (.makeLogger Loggers.rootName)) ∉ bare := by
    simp [bare, Move.setUp, Loggers.rootName]
  have hhandled : .act (.configure (.makeLogger Loggers.rootName)) ∉ handled := by
    simp [handled, Move.setUp]
  obtain ⟨-, -, hrun⟩ := root_configured_at_most_once {} bare hbare
  obtain ⟨hset, -, hlast⟩ := hrun (bare.take 2) none (bare.drop 3) rfl (by simp [bare, Move.setUp])
  obtain ⟨level, hnamed, hlevel⟩ := hset rfl
  obtain ⟨-, -, hrun'⟩ := root_configured_at_most_once {} handled hhandled
  obtain ⟨-, hkept, hlast'⟩ := hrun' (handled.take 1) (some "debug") (handled.drop 2) rfl
    (by simp [handled, Move.setUp])
  have herror : rootAfter (bare.take 3) = ⟨.error, [Loggers.recordFormat]⟩ := by decide +kernel
  cases hlevel.symm.trans herror
  exact ⟨hbare, hhandled, herror, hnamed, hlast, hkept (List.cons_ne_nil _ _), hlast'⟩

end Session

end WhereClause

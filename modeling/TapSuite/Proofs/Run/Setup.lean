import TapSuite.Proofs.Run.Course
import TapSuite.Proofs.Run.Lines

/-!
# Runs that are not set up

A run has no result exactly if one of its stages fails, and then its error is that of the first of
them.  Before the launch of the interpreters none of them is started; and whichever stage fails, no
report is made, no file is changed, and what is printed are the lines of the stages before.

    Stage.FailsFirst s w a e stage → stage ≠ .launch →
      (command s w a language forced).1.result = .error e                       (setup_failsFirst)
    Goes s w a language forced (some (stage, e)) o →
      stage.Prints s w a language forced o.out                                       (Goes.prints)
-/

namespace TapSuite.Run

section Stages

variable {s : Surroundings} {w : Workspace} {a : Cli.RunArguments} {c : Config}
  {kind : ReporterKind} {suites : List SuiteFile} {r : Registry} {line : Command.Line}
  {stage : Stage} {e e' : SetupError}

/-! ## Stages that succeed -/

def Stage.Succeeds (s : Surroundings) (w : Workspace) (a : Cli.RunArguments) (stage : Stage) :
    Prop :=
  ∀ e, ¬ stage.Fails s w a e

theorem succeeds_load (h : Config.load w a.config a.configNamed = .ok c) :
    Stage.load.Succeeds s w a := by
  intro e hfails
  cases h.symm.trans hfails

theorem succeeds_settings (h : settings w a = .ok c) :
    ∀ stage ∈ [Stage.load, .requirements], stage.Succeeds s w a := by
  obtain ⟨d, hload, -, -⟩ := settings_eq_ok.mp h
  refine List.forall_mem_cons.mpr ⟨succeeds_load hload, List.forall_mem_singleton.mpr ?_⟩
  intro e hfails
  cases h.symm.trans (settings_eq_error.mpr (.inr hfails))

theorem succeeds_reporter (hsettings : settings w a = .ok c)
    (h : ReporterKind.named c.reporter.name = .ok kind) : Stage.reporter.Succeeds s w a := by
  rintro e ⟨c', hsettings', h'⟩
  cases hsettings.symm.trans hsettings'
  cases h.symm.trans h'

theorem succeeds_listing (hsettings : settings w a = .ok c)
    (h : w.discover c.suitesDir c.suffix = .ok suites) : Stage.listing.Succeeds s w a := by
  rintro e ⟨c', hsettings', h'⟩
  cases hsettings.symm.trans hsettings'
  cases h.symm.trans h'

/-- Before the engine of a prepared run, all stages have succeeded. -/
theorem Prepared.succeeds (h : Prepared w a c kind suites r) :
    ∀ stage ∈ [Stage.load, .requirements, .reporter, .listing, .registration],
      stage.Succeeds s w a := by
  refine List.forall_mem_append.mpr ⟨succeeds_settings h.settings, ?_⟩
  refine List.forall_mem_cons.mpr ⟨succeeds_reporter h.settings h.reporter, ?_⟩
  refine List.forall_mem_cons.mpr ⟨succeeds_listing h.settings h.discovered,
    List.forall_mem_singleton.mpr ?_⟩
  rintro e ⟨c', suites', hsettings', hdiscovered', h'⟩
  cases h.settings.symm.trans hsettings'
  cases h.discovered.symm.trans hdiscovered'
  cases h.registered.symm.trans h'

theorem succeeds_commandLine (hsettings : settings w a = .ok c)
    (h : Command.parse s.environment c.command = .ok line) : Stage.commandLine.Succeeds s w a := by
  rintro e ⟨c', problem, hsettings', h', -⟩
  cases hsettings.symm.trans hsettings'
  cases h.symm.trans h'

theorem Prepared.succeeds_launch (h : Prepared w a c kind suites r)
    (hline : Command.parse s.environment c.command = .ok line)
    (hruns : ∀ suite ∈ suites, ∃ result, Engine.runSuite s.launch line suite = .ok result) :
    Stage.launch.Succeeds s w a := by
  rintro e ⟨c', suites', line', suite, hsettings', hdiscovered', hline', hsuite, hrun⟩
  cases h.settings.symm.trans hsettings'
  cases h.discovered.symm.trans hdiscovered'
  cases hline.symm.trans hline'
  obtain ⟨result, hresult⟩ := hruns suite hsuite
  cases hrun.symm.trans hresult

/-! ## The first stage that fails -/

theorem Stage.mem_all (stage : Stage) : stage ∈ Stage.all := by
  cases stage <;> decide

theorem failsFirst_iff :
    stage.FailsFirst s w a e ↔
      stage.Fails s w a e ∧ ∀ earlier ∈ Stage.all.take stage.index, earlier.Succeeds s w a := by
  have hbefore (earlier : Stage) :
      earlier ∈ Stage.all.take stage.index ↔ earlier.index < stage.index :=
    List.mem_take_iff_idxOf_lt earlier.mem_all
  simp only [Stage.FailsFirst, Stage.Succeeds, hbefore]

/-- With a command line, what a prepared run can still fail at is the launch. -/
theorem Prepared.failsFirst_launch (h : Prepared w a c kind suites r)
    (hline : Command.parse s.environment c.command = .ok line) {suite : SuiteFile}
    (hsuite : suite ∈ suites) (he : Engine.runSuite s.launch line suite = .error e) :
    Stage.launch.FailsFirst s w a e := by
  refine failsFirst_iff.mpr ⟨⟨_, _, _, suite, h.settings, h.discovered, hline, hsuite, he⟩, ?_⟩
  refine List.forall_mem_append.mpr ⟨h.succeeds, ?_⟩
  exact List.forall_mem_singleton.mpr (succeeds_commandLine h.settings hline)

/-- Only one stage is the first that fails. -/
theorem Stage.FailsFirst.stage_eq {stage' : Stage} (h : stage.FailsFirst s w a e)
    (h' : stage'.FailsFirst s w a e') : stage = stage' := by
  rcases Nat.lt_trichotomy stage.index stage'.index with hlt | heq | hlt
  · exact absurd h.1 (h'.2 stage hlt e)
  · exact (List.idxOf_inj stage.mem_all).mp heq
  · exact absurd h'.1 (h.2 stage' hlt e')

/-- A stage before the launch fails with one error only. -/
theorem Stage.Fails.error_eq (hne : stage ≠ .launch) (h : stage.Fails s w a e)
    (h' : stage.Fails s w a e') : e = e' := by
  cases stage with
  | load =>
    cases h.symm.trans h'
    rfl
  | requirements =>
    cases (settings_eq_error.mpr (.inr h)).symm.trans (settings_eq_error.mpr (.inr h'))
    rfl
  | reporter =>
    obtain ⟨c, hsettings, h⟩ := h
    obtain ⟨c', hsettings', h'⟩ := h'
    cases hsettings.symm.trans hsettings'
    cases h.symm.trans h'
    rfl
  | listing =>
    obtain ⟨c, hsettings, h⟩ := h
    obtain ⟨c', hsettings', h'⟩ := h'
    cases hsettings.symm.trans hsettings'
    cases h.symm.trans h'
    rfl
  | registration =>
    obtain ⟨c, suites, hsettings, hdiscovered, h⟩ := h
    obtain ⟨c', suites', hsettings', hdiscovered', h'⟩ := h'
    cases hsettings.symm.trans hsettings'
    cases hdiscovered.symm.trans hdiscovered'
    cases h.symm.trans h'
    rfl
  | commandLine =>
    obtain ⟨c, problem, hsettings, h, rfl⟩ := h
    obtain ⟨c', problem', hsettings', h', rfl⟩ := h'
    cases hsettings.symm.trans hsettings'
    cases h.symm.trans h'
    rfl
  | launch => exact absurd rfl hne

end Stages

/-! ## Courses -/

section Courses

variable {s : Surroundings} {w : Workspace} {a : Cli.RunArguments} {language : String}
  {forced : Bool} {o : RunOutcome (Summary × ExitStatus)} {stage : Stage} {e : SetupError}

theorem Goes.failsFirst (h : Goes s w a language forced (some (stage, e)) o) :
    stage.FailsFirst s w a e := by
  rw [failsFirst_iff]
  cases h with
  | load h => exact ⟨h, List.forall_mem_nil _⟩
  | requirements hload h =>
    exact ⟨⟨_, hload, h⟩, List.forall_mem_singleton.mpr (succeeds_load hload)⟩
  | reporter hsettings h => exact ⟨⟨_, hsettings, h⟩, succeeds_settings hsettings⟩
  | listing hsettings hreporter h =>
    refine ⟨⟨_, hsettings, h⟩, List.forall_mem_append.mpr ⟨succeeds_settings hsettings, ?_⟩⟩
    exact List.forall_mem_singleton.mpr (succeeds_reporter hsettings hreporter)
  | registration hsettings hreporter hdiscovered h =>
    refine ⟨⟨_, _, hsettings, hdiscovered, h⟩,
      List.forall_mem_append.mpr ⟨succeeds_settings hsettings, ?_⟩⟩
    exact List.forall_mem_cons.mpr ⟨succeeds_reporter hsettings hreporter,
      List.forall_mem_singleton.mpr (succeeds_listing hsettings hdiscovered)⟩
  | commandLine hprepared h => exact ⟨⟨_, _, hprepared.settings, h, rfl⟩, hprepared.succeeds⟩
  | launch hprepared hline h =>
    obtain ⟨suite, hsuite, he⟩ := Engine.exists_error_of_error h
    exact failsFirst_iff.mp (hprepared.failsFirst_launch hline hsuite he)

theorem Goes.succeeds (h : Goes s w a language forced none o) (stage : Stage) :
    stage.Succeeds s w a := by
  cases h with
  | verdict hprepared hline h =>
  have hall : ∀ stage ∈ Stage.all, stage.Succeeds s w a := by
    refine List.forall_mem_append.mpr ⟨hprepared.succeeds, ?_⟩
    exact List.forall_mem_cons.mpr ⟨succeeds_commandLine hprepared.settings hline,
      List.forall_mem_singleton.mpr
        (hprepared.succeeds_launch hline (Engine.exists_results_of_summary h))⟩
  exact hall stage stage.mem_all

theorem Goes.result_of_some (h : Goes s w a language forced (some (stage, e)) o) :
    o.result = .error e := by
  cases h <;> rfl

theorem Goes.result_of_none (h : Goes s w a language forced none o) : ∃ v, o.result = .ok v := by
  cases h with
  | verdict hprepared hline h => exact ⟨_, rfl⟩

theorem opening_openingLines (d : Display) (c : Config) (kind : ReporterKind)
    (suites : List SuiteFile) :
    ∀ line ∈ openingLines d c kind suites, opening line ∈ openings progressKeys := by
  refine List.forall_mem_cons.mpr ⟨opening_reporterLine d kind, ?_⟩
  refine List.forall_mem_cons.mpr ⟨opening_discoveringLine d c.suitesDir, ?_⟩
  exact List.forall_mem_singleton.mpr (opening_foundLine d c.suffix suites)

end Courses

/-! ## What a run leaves behind -/

section

variable (s : Surroundings) (w : Workspace) (a : Cli.RunArguments) (language : String)
  (forced : Bool)

/-- Whether a run starts no interpreter: none is on record, and whatever a launch would lead to, the
run is the same. -/
structure StartsNothing : Prop where
  started : (command s w a language forced).1.started.getD [] = []
  indifferent : ∀ launch,
    (command { s with launch } w a language forced).1 = (command s w a language forced).1

/-- Whether a run changes no file and makes no report: the run is the same with any reporter in the
place of its own, and has nothing to say about a report that could not be written. -/
structure LeavesNothing : Prop where
  workspace : (command s w a language forced).1.workspace = w
  err : (command s w a language forced).1.err = []
  indifferent : ∀ c kind, settings w a = .ok c → ReporterKind.named c.reporter.name = .ok kind →
    ∀ reporter : Reporter,
      after [reporterLine (display s language forced c) kind]
        (pipeline (display s language forced c) c (Engine.command (engineOf s language forced c)) {}
          reporter w) = (command s w a language forced).1

/-- Whether lines are all that is printed by a run that the stage ends: the lines of the stages
before it and, once the engine runs, those about the suites in some order. -/
def Stage.Prints (out : List String) : Stage → Prop
  | .load | .requirements | .reporter => out = []
  | .listing =>
    ∃ c kind, settings w a = .ok c ∧ ReporterKind.named c.reporter.name = .ok kind ∧
      out = [reporterLine (display s language forced c) kind,
        discoveringLine (display s language forced c) c.suitesDir]
  | .registration | .commandLine =>
    ∃ c kind suites, settings w a = .ok c ∧ ReporterKind.named c.reporter.name = .ok kind ∧
      w.discover c.suitesDir c.suffix = .ok suites ∧
      out = openingLines (display s language forced c) c kind suites
  | .launch =>
    ∃ c kind suites line, settings w a = .ok c ∧ ReporterKind.named c.reporter.name = .ok kind ∧
      w.discover c.suitesDir c.suffix = .ok suites ∧
      Command.parse s.environment c.command = .ok line ∧
      ∃ lines, lines.Perm (suites.flatMap (Engine.suiteLines (engineOf s language forced c) line)) ∧
        out = openingLines (display s language forced c) c kind suites ++ lines

/-- Whether a run lets its engine run once, when all suites that were discovered are registered:
the engine's lines come after those of the setup, and what follows them comes from its result. -/
structure RunsOnce (c : Config) (kind : ReporterKind) (suites : List SuiteFile) (r : Registry) :
    Prop where
  prepared : Prepared w a c kind suites r
  registered : r.suites = suites
  of_error : let run := Engine.runRegistered (engineOf s language forced c) r
    ∀ e, run.result = .error e →
      (command s w a language forced).1 =
        after (openingLines (display s language forced c) c kind suites ++ run.lines)
          { failed w e with started := some run.started }
  of_summary : let run := Engine.runRegistered (engineOf s language forced c) r
    let d := display s language forced c
    ∀ summary, run.result = .ok summary →
      (command s w a language forced).1 =
        after (openingLines d c kind suites ++ run.lines)
          { conclude d (kind.reporter s.colours d.locale c.reporter) c.failureExitCode w
              summary with started := some run.started }

end

section Effects

variable {s : Surroundings} {w : Workspace} {a : Cli.RunArguments} {language : String}
  {forced : Bool} {o : RunOutcome (Summary × ExitStatus)} {stage : Stage} {e : SetupError}
  {c : Config} {kind : ReporterKind} {suites : List SuiteFile} {r : Registry}

/-- A course that ends before the launch does not depend on what a launch leads to. -/
theorem Goes.of_launch (h : Goes s w a language forced (some (stage, e)) o) (hne : stage ≠ .launch)
    (launch : Process.Launcher) :
    Goes { s with launch } w a language forced (some (stage, e)) o := by
  cases h with
  | load h => exact .load h
  | requirements hload h => exact .requirements hload h
  | reporter hsettings h => exact .reporter hsettings h
  | listing hsettings hreporter h => exact .listing hsettings hreporter h
  | registration hsettings hreporter hdiscovered h =>
    exact .registration hsettings hreporter hdiscovered h
  | commandLine hprepared h => exact .commandLine hprepared h
  | launch hprepared hline h => exact absurd rfl hne

theorem Goes.startsNothing (h : Goes s w a language forced (some (stage, e)) o)
    (hne : stage ≠ .launch) : StartsNothing s w a language forced where
  started := by
    rw [h.outcome]
    cases h with
    | launch hprepared hline h => exact absurd rfl hne
    | _ => rfl
  indifferent launch := (h.of_launch hne launch).outcome.trans h.outcome.symm

/-- Before the command line is read, the engine has not run. -/
theorem Goes.started_eq_none (h : Goes s w a language forced (some (stage, e)) o)
    (hlt : stage.index < Stage.commandLine.index) : o.started = none := by
  cases h with
  | commandLine hprepared h => exact absurd hlt (by decide)
  | launch hprepared hline h => exact absurd hlt (by decide)
  | _ => rfl

/-- A run with an error has come to the stage that ended it. -/
theorem exists_goes_some (h : (command s w a language forced).1.result = .error e) :
    ∃ stage, Goes s w a language forced (some (stage, e)) (command s w a language forced).1 := by
  obtain ⟨_ | ⟨stage, e'⟩, hgoes⟩ := exists_goes s w a language forced
  · obtain ⟨v, hv⟩ := hgoes.result_of_none
    cases h.symm.trans hv
  · cases h.symm.trans hgoes.result_of_some
    exact ⟨stage, hgoes⟩

theorem Goes.unchanged (h : Goes s w a language forced (some (stage, e)) o) :
    o.workspace = w ∧ o.err = [] := by
  cases h <;> exact ⟨rfl, rfl⟩

theorem leavesNothing (h : (command s w a language forced).1.result = .error e) :
    LeavesNothing s w a language forced := by
  obtain ⟨stage, hgoes⟩ := exists_goes_some h
  refine ⟨hgoes.unchanged.1, hgoes.unchanged.2, fun c kind hsettings hreporter reporter => ?_⟩
  rw [command_of_reporter hsettings hreporter] at h ⊢
  rw [pipeline_of_error h reporter]

theorem Goes.prints (h : Goes s w a language forced (some (stage, e)) o) :
    stage.Prints s w a language forced o.out := by
  cases h with
  | load h => rfl
  | requirements hload h => rfl
  | reporter hsettings h => rfl
  | listing hsettings hreporter h => exact ⟨_, _, hsettings, hreporter, rfl⟩
  | registration hsettings hreporter hdiscovered h =>
    exact ⟨_, _, _, hsettings, hreporter, hdiscovered, rfl⟩
  | commandLine hprepared h =>
    exact ⟨_, _, _, hprepared.settings, hprepared.reporter, hprepared.discovered, rfl⟩
  | launch hprepared hline h =>
    exact ⟨_, _, _, _, hprepared.settings, hprepared.reporter, hprepared.discovered, hline, _,
      Engine.lines_runSuites_perm _ _ _, List.append_nil _⟩

/-- A run that a stage ends has printed lines about its setup and its suites. -/
theorem Stage.Prints.opening {out : List String} (h : stage.Prints s w a language forced out) :
    ∀ line ∈ out, opening line ∈ openings progressKeys := by
  cases stage with
  | load | requirements | reporter =>
    cases h
    exact List.forall_mem_nil _
  | listing =>
    obtain ⟨c, kind, -, -, rfl⟩ := h
    exact List.forall_mem_cons.mpr ⟨opening_reporterLine _ _,
      List.forall_mem_singleton.mpr (opening_discoveringLine _ _)⟩
  | registration | commandLine =>
    obtain ⟨c, kind, suites, -, -, -, rfl⟩ := h
    exact opening_openingLines _ _ _ _
  | launch =>
    obtain ⟨c, kind, suites, line, -, -, -, -, lines, hperm, rfl⟩ := h
    refine List.forall_mem_append.mpr ⟨opening_openingLines _ _ _ _, fun l hl => ?_⟩
    obtain ⟨suite, -, hsuite⟩ := List.mem_flatMap.mp (hperm.subset hl)
    exact opening_suiteLines _ _ _ l hsuite

/-- A prepared run whose launch fails has printed its opening lines and those about its suites. -/
theorem Prepared.lines_of_launch (h : Prepared w a c kind suites r) {line : Command.Line}
    (hline : Command.parse s.environment c.command = .ok line) {out : List String}
    (hprints : Stage.launch.Prints s w a language forced out) :
    ∃ lines, lines.Perm (suites.flatMap (Engine.suiteLines (engineOf s language forced c) line)) ∧
      out = openingLines (display s language forced c) c kind suites ++ lines := by
  obtain ⟨c', kind', suites', line', hsettings, hreporter, hdiscovered, hline', hlines⟩ := hprints
  cases h.settings.symm.trans hsettings
  cases h.reporter.symm.trans hreporter
  cases h.discovered.symm.trans hdiscovered
  cases hline.symm.trans hline'
  exact hlines

/-- A run that no stage ends prints lines of a verdict. -/
theorem Goes.exists_isVerdictLine (h : Goes s w a language forced none o) :
    ∃ line ∈ o.out, IsVerdictLine s.colours line := by
  cases h with
  | verdict hprepared hline h =>
  obtain ⟨line, hmem, hverdict⟩ := exists_isVerdictLine _ _ _ w _
  exact ⟨line, List.mem_append_right _ hmem, hverdict⟩

theorem Prepared.runsOnce (h : Prepared w a c kind suites r) :
    RunsOnce s w a language forced c kind suites r where
  prepared := h
  registered := suites_of_registered h.discovered h.registered
  of_error := by
    intro run e hrun
    rw [h.command, execute_of_error _ _ hrun, after_after]
    rfl
  of_summary := by
    intro run d summary hrun
    rw [h.command, execute_of_summary _ _ hrun, after_after]
    rfl

/-- If no stage before the command line fails, the run is prepared. -/
theorem Goes.exists_prepared {ending : Option (Stage × SetupError)}
    (h : Goes s w a language forced ending o)
    (hstages : ∀ stage, Stage.index stage < Stage.commandLine.index → stage.Succeeds s w a) :
    ∃ c kind suites r, Prepared w a c kind suites r := by
  cases h with
  | load h => exact absurd h (hstages .load (by decide) _)
  | requirements hload h => exact absurd ⟨_, hload, h⟩ (hstages .requirements (by decide) _)
  | reporter hsettings h => exact absurd ⟨_, hsettings, h⟩ (hstages .reporter (by decide) _)
  | listing hsettings hreporter h =>
    exact absurd ⟨_, hsettings, h⟩ (hstages .listing (by decide) _)
  | registration hsettings hreporter hdiscovered h =>
    exact absurd ⟨_, _, hsettings, hdiscovered, h⟩ (hstages .registration (by decide) _)
  | commandLine hprepared h => exact ⟨_, _, _, _, hprepared⟩
  | launch hprepared hline h => exact ⟨_, _, _, _, hprepared⟩
  | verdict hprepared hline h => exact ⟨_, _, _, _, hprepared⟩

/-- A run has an error exactly if a stage fails. -/
theorem exists_error_iff :
    (∃ e, (command s w a language forced).1.result = .error e) ↔
      ∃ stage e, Stage.Fails s w a e stage := by
  constructor
  · rintro ⟨e, he⟩
    obtain ⟨stage, hgoes⟩ := exists_goes_some he
    exact ⟨stage, e, hgoes.failsFirst.1⟩
  · rintro ⟨stage, e, hfails⟩
    obtain ⟨_ | ⟨stage', e'⟩, hgoes⟩ := exists_goes s w a language forced
    · exact absurd hfails (hgoes.succeeds stage e)
    · exact ⟨e', hgoes.result_of_some⟩

/-- The first stage that fails is where the run ends. -/
theorem Stage.FailsFirst.goes (h : stage.FailsFirst s w a e) (hne : stage ≠ .launch) :
    Goes s w a language forced (some (stage, e)) (command s w a language forced).1 := by
  obtain ⟨_ | ⟨stage', e'⟩, hgoes⟩ := exists_goes s w a language forced
  · exact absurd h.1 (hgoes.succeeds stage e)
  · cases h.stage_eq hgoes.failsFirst
    cases h.1.error_eq hne hgoes.failsFirst.1
    exact hgoes

/-- Lines of a verdict are printed exactly if the run has one. -/
theorem exists_isVerdictLine_iff :
    (∃ line ∈ (command s w a language forced).1.out, IsVerdictLine s.colours line) ↔
      ∃ v, (command s w a language forced).1.result = .ok v := by
  obtain ⟨_ | ⟨stage, e⟩, hgoes⟩ := exists_goes s w a language forced
  · exact iff_of_true hgoes.exists_isVerdictLine hgoes.result_of_none
  · refine iff_of_false ?_ ?_
    · rintro ⟨line, hline, hverdict⟩
      exact not_isVerdictLine (hgoes.prints.opening line hline) hverdict
    · rintro ⟨v, hv⟩
      cases hv.symm.trans hgoes.result_of_some

end Effects

/-! ## Failures of the setup -/

/-- Failures of the setup come in order and leave nothing behind.  A run has an error exactly if a
stage fails, and then it is that of the first stage that fails; of several suites that cannot be
launched, it is that of one of them.  A stage before the launch starts no interpreter.  Whichever
stage fails, no reporter runs, no file is changed, and nothing is printed but the lines of the
stages before and those about single suites: no table, no section of failures and no verdict.  Every
other run prints lines of a verdict.  If no stage before the command line fails, the engine runs
once, with all suites that were discovered. -/
theorem setup_failsFirst (s : Surroundings) (w : Workspace) (a : Cli.RunArguments)
    (language : String) (forced : Bool) :
    let o := (command s w a language forced).1
    ((∃ e, o.result = .error e) ↔ ∃ stage e, Stage.Fails s w a e stage) ∧
    (∀ e, o.result = .error e →
      (∃ stage, Stage.FailsFirst s w a e stage ∧ stage.Prints s w a language forced o.out) ∧
        LeavesNothing s w a language forced) ∧
    (∀ stage e, Stage.FailsFirst s w a e stage → stage ≠ .launch →
      o.result = .error e ∧ StartsNothing s w a language forced ∧
        (stage.index < Stage.commandLine.index → o.started = none)) ∧
    ((∃ line ∈ o.out, IsVerdictLine s.colours line) ↔ ∃ v, o.result = .ok v) ∧
    ((∀ stage, stage.index < Stage.commandLine.index → Stage.Succeeds s w a stage) →
      ∃ c kind suites r, RunsOnce s w a language forced c kind suites r) := by
  refine ⟨exists_error_iff, fun e he => ?_, fun stage e hfirst hne => ?_,
    exists_isVerdictLine_iff, fun hstages => ?_⟩
  · obtain ⟨stage, hgoes⟩ := exists_goes_some he
    exact ⟨⟨stage, hgoes.failsFirst, hgoes.prints⟩, leavesNothing he⟩
  · have hgoes : Goes s w a language forced _ _ := hfirst.goes hne
    exact ⟨hgoes.result_of_some, hgoes.startsNothing hne, hgoes.started_eq_none⟩
  · obtain ⟨ending, hgoes⟩ := exists_goes s w a language forced
    obtain ⟨c, kind, suites, r, hprepared⟩ := hgoes.exists_prepared hstages
    exact ⟨c, kind, suites, r, hprepared.runsOnce⟩

/-- With an unknown reporter, a missing directory and a quote that is not closed, the run tells of
the reporter and prints nothing; and with a suite whose interpreter cannot be launched, it tells of
that suite and has printed that it was to run. -/
theorem setup_failsFirst_several :
    let s : Surroundings := { launch := fun _ _ => .error .notFound }
    let nowhere : Workspace := { entries := [], here := [] }
    let a : Cli.RunArguments :=
      { config := "c"
        overrides := { suitesDir := some "d", command := some "'", reporter := some "tap" } }
    let unknown : SetupError := .unknownReporter "tap" ["spec", "html", "json"]
    let w : Workspace :=
      { entries := [([[0x64]], .directory), ([[0x64], [0x62]], .file [])], here := [] }
    let b : Cli.RunArguments :=
      { config := "c"
        overrides := { suitesDir := some "d", suffix := some "b", command := some "tap" } }
    Stage.FailsFirst s nowhere a unknown .reporter ∧
      Stage.listing.Fails s nowhere a (.directoryAccess "d" .notFound) ∧
      Stage.commandLine.Fails s nowhere a (.engine (.unbalancedQuotes "'")) ∧
      (command s nowhere a "en" false).1.result = .error unknown ∧
      (command s nowhere a "en" false).1.out = [] ∧
      StartsNothing s nowhere a "en" false ∧
      Stage.FailsFirst s w b (.engine (.launch "tap" "d/b" .notFound)) .launch ∧
      ∃ e, (command s w b "en" false).1.result = .error e ∧ LeavesNothing s w b "en" false ∧
        (command s w b "en" false).1.out = ["Reporter: html", "Discovering suites in d",
          "Found 1 suite(s).", "Running suite b..."] ∧
        ¬ ∃ line ∈ (command s w b "en" false).1.out, IsVerdictLine s.colours line := by
  intro s nowhere a unknown w b
  have hsettings : settings nowhere a =
      .ok { suitesDir := "d", command := "'", reporter := { name := "tap" } } :=
    settings_of_absent rfl (by cbv) (by decide)
  have hsettings' : settings w b = .ok { suitesDir := "d", suffix := "b", command := "tap" } :=
    settings_of_absent rfl (by cbv) (by decide)
  have hunknown : ReporterKind.named "tap" = .error unknown := by decide
  have hmissing : nowhere.discover "d" ".js" = .error (.directoryAccess "d" .notFound) := by cbv
  have hquote : Command.parse [] "'" = .error (.unbalancedQuotes "'") := by cbv
  have hdiscovered : w.discover "d" "b" = .ok [⟨"d/b", "b"⟩] := by cbv
  have hline : Command.parse [] "tap" = .ok ⟨"tap", []⟩ := by rfl
  have hprepared : Prepared w b { suitesDir := "d", suffix := "b", command := "tap" } .html
      [⟨"d/b", "b"⟩] ⟨[⟨"d/b", "b"⟩], [[.name ['d'], .name ['b']]]⟩ :=
    ⟨hsettings', by decide, hdiscovered, by cbv⟩
  have hreporter : Stage.FailsFirst s nowhere a unknown .reporter :=
    failsFirst_iff.mpr ⟨⟨_, hsettings, hunknown⟩, succeeds_settings hsettings⟩
  have hlaunch : Stage.FailsFirst s w b (.engine (.launch "tap" "d/b" .notFound)) .launch :=
    hprepared.failsFirst_launch hline (List.mem_singleton_self _) rfl
  obtain ⟨-, hended, hbefore, -, -⟩ := setup_failsFirst s nowhere a "en" false
  obtain ⟨hresult, hnothing, -⟩ := hbefore _ _ hreporter (by decide)
  obtain ⟨⟨stage, hfirst, hout⟩, -⟩ := hended _ hresult
  cases hreporter.stage_eq hfirst
  obtain ⟨herror, hended', -, hverdict, -⟩ := setup_failsFirst s w b "en" false
  obtain ⟨e, he⟩ := herror.mpr ⟨_, _, hlaunch.1⟩
  obtain ⟨⟨stage', hfirst', hprints⟩, hleaves⟩ := hended' e he
  cases hlaunch.stage_eq hfirst'
  obtain ⟨lines, hperm, hout'⟩ := hprepared.lines_of_launch hline hprints
  cases List.perm_singleton.mp hperm
  refine ⟨hreporter, ⟨_, hsettings, hmissing⟩, ⟨_, _, hsettings, hquote, rfl⟩, hresult, hout,
    hnothing, hlaunch, e, he, hleaves, hout'.trans (by cbv), fun hline => ?_⟩
  obtain ⟨v, hv⟩ := hverdict.mp hline
  cases he.symm.trans hv

end TapSuite.Run

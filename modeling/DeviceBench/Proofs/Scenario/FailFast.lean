/-
Scenarios stop at the first failure and log everything. The command lines of a scenario are fixed by
its configuration before any device is asked. On every device and with every content of the expected
files, a run records a start of them: one entry for each command line that was started, in order,
with what the device answered at its turn. A run that succeeds recorded all of them, and a run that
fails recorded the failing one last.
-/
import DeviceBench.Proofs.Scenario.Programs

namespace DeviceBench.Scenario

/-! ## What a run leaves behind -/

/-- The account of a run of steps that came to a result: which command lines were started, what the
log holds of them, and which checks decided the result. -/
structure Account (c : Config) (steps : List Step) (w : World) (log : CaptureLog)
    (result : Except Failure Unit) (w' : World) (recorded : List Entry) : Prop where
  /-- The log keeps its entries and gains those recorded, numbered on. -/
  entries : w'.log.map (·.entries) = some (log.entries ++ recorded)
  numbers : recorded.map (·.seq) = List.range' log.size recorded.length
  /-- Each command line that was started has its entry, in order. -/
  started : w'.started = w.started ++ recorded.map (·.command)
  /-- The command lines are a start of those that the steps fix. -/
  commands : recorded.map (·.command) <+: commands steps
  /-- Each entry holds what the device answered, given the files and everything started before. -/
  answers : ∀ before e after, recorded = before ++ e :: after →
    e.outcome = (w.device (w.afterRuns (before.map (·.command))).files
      (w.started ++ before.map (·.command)) e.command).outcome
  /-- A success has run every step, and each passed. -/
  success : result = .ok () → recorded.map (·.command) = Scenario.commands steps ∧ Passed c w steps
  /-- A failure is that of the step run last, and each before it passed. -/
  failure : ∀ f, result = .error f → ∃ passed failed rest, steps = passed ++ failed :: rest ∧
    recorded.map (·.command) = Scenario.commands passed ++ [failed.call.command] ∧
    Passed c w passed ∧ failed.verdict c (w.afterRuns (Scenario.commands passed)) = .error f

section Accounts

variable {c : Config} {w : World} {log : CaptureLog} (waits : List (Nat × Duration))

theorem account_of_passed {steps : List Step} (hlog : w.log = some log) (hidle : w.background = [])
    (hpassed : Passed c w steps) :
    ∃ recorded, Account c steps w log (.ok ()) ((w.afterRuns (commands steps)).waiting waits) recorded := by
  obtain ⟨recorded, hentries, hcommands, hnumbers, houtcomes⟩ :=
    World.afterRuns_recorded hlog hidle (commands steps)
  refine ⟨recorded, hentries, ?_, ?_, ?_, ?_, fun _ => ⟨hcommands, hpassed⟩, ?_⟩
  · rw [hnumbers, ← hcommands, List.length_map]
  · rw [hcommands]
    exact World.afterRuns_started w _
  · rw [hcommands]
  · intro before e after h
    rw [houtcomes before e after h, World.answer_afterRuns]
  · intro f hf
    cases hf

theorem account_of_failed {passed : List Step} {failed : Step} (rest : List Step) {f : Failure}
    (hlog : w.log = some log) (hidle : w.background = []) (hpassed : Passed c w passed)
    (hfailed : failed.verdict c (w.afterRuns (commands passed)) = .error f) :
    ∃ recorded, Account c (passed ++ failed :: rest) w log (.error f)
      ((w.afterRuns (commands passed ++ [failed.call.command])).waiting waits) recorded := by
  obtain ⟨recorded, hentries, hcommands, hnumbers, houtcomes⟩ :=
    World.afterRuns_recorded hlog hidle (commands passed ++ [failed.call.command])
  refine ⟨recorded, hentries, ?_, ?_, ?_, ?_, ?_, ?_⟩
  · rw [hnumbers, ← hcommands, List.length_map]
  · rw [hcommands]
    exact World.afterRuns_started w _
  · rw [hcommands]
    exact ⟨commands rest, by simp [commands]⟩
  · intro before e after h
    rw [houtcomes before e after h, World.answer_afterRuns]
  · intro h
    cases h
  · intro g hg
    cases hg
    exact ⟨passed, failed, rest, rfl, hcommands, hpassed, hfailed⟩

end Accounts

/-! ## The scenarios -/

/-- Every scenario is its steps, and on every device and with all contents of files a run of it
records a start of their command lines: all of them if it succeeds, and up to the failing one, with
what the device answered to it, if it fails. -/
theorem plan_account (c : Config) (p : Plan) {w : World} {log : CaptureLog}
    (hlog : w.log = some log) (hidle : w.background = []) :
    runSteps c (p.steps c) = p.program c ∧
      ∃ result w' recorded, (p.program c).run.run w = (result, w') ∧
        Account c (p.steps c) w log result w' recorded := by
  refine ⟨runSteps_steps c p, ?_⟩
  rw [← runSteps_steps]
  rcases runSteps_spec c (p.steps c) w with
    ⟨hpassed, hrun⟩ | ⟨passed, failed, rest, f, hsteps, hpassed, hfailed, hrun⟩
  · obtain ⟨recorded, haccount⟩ := account_of_passed _ hlog hidle hpassed
    exact ⟨_, _, recorded, hrun, haccount⟩
  · obtain ⟨recorded, haccount⟩ := account_of_failed _ rest hlog hidle hpassed hfailed
    exact ⟨_, _, recorded, hrun, hsteps ▸ haccount⟩

/-- A world with an empty log and a device that is lost after two command lines. -/
def lostWorld : World :=
  (World.of .empty
    (fun _ started _ => if started.length < 2 then .ran [] [] (.exited 0) else .refused .notFound)
    ⟨⟨⟨2026, 1, 1, by decide, by decide, by decide⟩, 0, 0, by decide, by decide, by decide⟩,
      0⟩).withLog

/-- With a device that is lost after two command lines, the flow scenario records those and the one
that could not be started, and nothing more. -/
theorem plan_account_lost :
    lostWorld.log = some (.empty false) ∧ lostWorld.background = [] ∧
      ∃ w' recorded,
        (Plan.program (.ofDevice "dev") .flow).run.run lostWorld =
          (.error (.spawn ⟨"dm-cmd", ["dev", "startpattern", "IN_C0"]⟩ .notFound), w') ∧
        Account (.ofDevice "dev") (Plan.steps (.ofDevice "dev") .flow) lostWorld (.empty false)
          (.error (.spawn ⟨"dm-cmd", ["dev", "startpattern", "IN_C0"]⟩ .notFound)) w' recorded ∧
        recorded.map (·.command.args) =
          [["dev", "reset", "all"],
            ["dev", "add", "schedules/dynamic-branch-single-schedule.dot"],
            ["dev", "startpattern", "IN_C0"]] := by
  obtain ⟨-, result, w', recorded, hrun, haccount⟩ :=
    plan_account (.ofDevice "dev") .flow (show lostWorld.log = some (.empty false) from rfl)
      (show lostWorld.background = [] from rfl)
  have hresult : ((Plan.program (.ofDevice "dev") .flow).run.run lostWorld).1 =
      .error (.spawn ⟨"dm-cmd", ["dev", "startpattern", "IN_C0"]⟩ .notFound) := by rfl
  have hstarted : ((Plan.program (.ofDevice "dev") .flow).run.run lostWorld).2.started.map (·.args) =
      [["dev", "reset", "all"],
        ["dev", "add", "schedules/dynamic-branch-single-schedule.dot"],
        ["dev", "startpattern", "IN_C0"]] := by decide +kernel
  rw [hrun] at hresult hstarted
  cases hresult
  refine ⟨rfl, rfl, w', recorded, hrun, haccount, ?_⟩
  rw [haccount.started] at hstarted
  simpa [lostWorld, World.of, World.withLog, Function.comp_def] using hstarted

end DeviceBench.Scenario

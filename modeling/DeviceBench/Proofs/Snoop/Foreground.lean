/-
An action while a capture runs. If the file or the shell is refused, the action does not start. Otherwise it
goes to its end whatever becomes of the capture, the log gains its runs in their order and the capture
once, wherever among them the capture ended, and the failure of the capture comes before the result of the
action.
-/
import DeviceBench.Proofs.Files.Created
import DeviceBench.Proofs.World.Background
import DeviceBench.Proofs.World.Verdicts
import DeviceBench.Snoop

namespace DeviceBench

/-! ## Actions that run command lines -/

/-- An action as it is written down: it is done, or it runs a command line and goes on with what that comes
to, also when it is rejected. -/
inductive Course (α : Type) where
  | done (result : Except Failure α)
  | run (i : Invocation) (next : Except Failure Captured → Course α)

namespace Course

variable {α : Type}

/-- What is done to the world when the action runs. -/
def action : Course α → Action α
  | .done result => Action.ofExcept result
  | .run i next => do
    let result ← (Runner.run i).outcomeOf
    (next result).action

/-- One way through an action: what it runs, each with the answer to it, and what it comes to. -/
inductive Goes : Course α → List (Invocation × Answer) → Except Failure α → Prop
  | done (result : Except Failure α) : Goes (.done result) [] result
  | run {i : Invocation} {next : Except Failure Captured → Course α} {a : Answer}
      {turns : List (Invocation × Answer)} {result : Except Failure α} :
      Goes (next (i.verdict a)) turns result → Goes (.run i next) ((i, a) :: turns) result

/-- The command lines of turns. -/
def commands (turns : List (Invocation × Answer)) : List CommandLine := turns.map (·.1.command)

/-- The runs of turns, each with the outcome that the log keeps. -/
def runs (turns : List (Invocation × Answer)) : List (CommandLine × Outcome) :=
  turns.map fun turn => (turn.1.command, turn.2.outcome)

/-- At each turn the device gives the answer. -/
def Answered (w : World) (turns : List (Invocation × Answer)) : Prop :=
  ∀ before turn after, turns = before ++ turn :: after →
    turn.2 = (w.afterRuns (commands before)).answer turn.1.command

theorem Answered.cons {w : World} {i : Invocation} {turns : List (Invocation × Answer)}
    (h : Answered (w.afterRun i.command) turns) :
    Answered w ((i, w.answer i.command) :: turns) := by
  intro before turn after hturns
  cases before with
  | nil =>
    cases hturns
    rfl
  | cons first before =>
    cases hturns
    exact h before turn after rfl

theorem Answered.runs_eq {w : World} {turns : List (Invocation × Answer)} (h : Answered w turns) :
    runs turns = w.outcomes (commands turns) := by
  induction turns generalizing w with
  | nil => rfl
  | cons turn turns ih =>
    have hfirst : turn.2 = w.answer turn.1.command := h [] turn turns rfl
    have hrest : Answered (w.afterRun turn.1.command) turns := by
      intro before t after hturns
      exact h (turn :: before) t after (by rw [hturns]; rfl)
    show (turn.1.command, turn.2.outcome) :: runs turns = _
    rw [ih hrest, hfirst]
    rfl

/-- An action goes one way to its end, asks the device at each turn, and changes the world by its runs
only. -/
theorem run_action (course : Course α) (w : World) :
    ∃ turns result, course.Goes turns result ∧ Answered w turns ∧
      course.action.run.run w = (result, w.afterRuns (commands turns)) := by
  induction course generalizing w with
  | done result =>
    refine ⟨[], result, .done result, ?_, rfl⟩
    intro before turn after h
    simp at h
  | run i next ih =>
    obtain ⟨turns, result, hgoes, hanswered, hrun⟩ :=
      ih (i.verdict (w.answer i.command)) (w.afterRun i.command)
    refine ⟨(i, w.answer i.command) :: turns, result, .run hgoes, hanswered.cons, ?_⟩
    rw [action, Action.run_bind, Action.run_outcomeOf, Runner.run_eq]
    exact hrun

end Course

/-! ## Starting a capture -/

namespace Runner

/-- The world once a shell command has been started that writes to the file with a number. -/
def withShell (w : World) (i : Invocation) (number : Nat) (files : Files) (stdout : Bytes) : World :=
  { w with files := files.write number 0 stdout, started := w.started ++ [i.command] }

theorem run_startShell (i : Invocation) (path : String) (w : World) :
    (startShell i path).run.run w =
      match w.files.create path with
      | .error cause => (.error (.file path cause), w)
      | .ok (number, files) =>
        match w.device files w.started i.command with
        | .refused cause =>
          (.error (.spawn i.command cause),
            (({ w with files, started := w.started ++ [i.command] } : World).record i.command
              (.spawnFailed cause.message)).settle)
        | .ran stdout stderr ending =>
          (.ok ⟨[], Text.splitLines stderr, ending.code⟩, withShell w i number files stdout) := by
  rw [startShell, Action.run_bind, Action.run_onFiles]
  cases w.files.create path with
  | error cause => rfl
  | ok created =>
    obtain ⟨number, files⟩ := created
    dsimp only
    rw [Action.run_bind, Action.run_modifyGet]
    dsimp only [World.start]
    cases w.device files w.started i.command <;> rfl

end Runner

namespace Snoop

/-- The capture of a duration as a shell command, which has to end with code zero. -/
def shell (c : Config) (d : Duration) : Invocation := Runner.shellInvocation (command c d) [0]

/-- What comes of a capture once its shell command has been started: the action has gone one way to its
end, and the capture stands among its runs, where its end was noticed. -/
structure Captures {α : Type} (i : Invocation) (captured : Captured) (course : Course α) (w : World)
    (log : CaptureLog) (begun : World) (result : Except Failure α) (w' : World)
    (turns : List (Invocation × Answer)) (own : Except Failure α) (recorded : List Entry) : Prop where
  goes : course.Goes turns own
  answered : Course.Answered begun turns
  /-- Nothing else is started, and nothing twice. -/
  started : w'.started = w.started ++ i.command :: Course.commands turns
  entries : w'.log.map (·.entries) = some (log.entries ++ recorded)
  numbers : recorded.map (·.seq) = List.range' log.size (turns.length + 1)
  runs : recorded.map (fun e => (e.command, e.outcome)) =
    (Course.runs turns).take w.captureLag ++
      (i.command, captured.outcome) :: (Course.runs turns).drop w.captureLag
  result : result =
    if captured.code = 0 then own
    else .error (.returnCode i.command captured.code [0] captured.stdout captured.stderr)

/-- A capture is only held to its return code. -/
theorem check_shell (c : Config) (d : Duration) (captured : Captured) :
    (shell c d).check captured =
      if captured.code = 0 then .ok ()
      else .error (.returnCode (shell c d).command captured.code [0] captured.stdout
        captured.stderr) := by
  have hallowed : (shell c d).allowed = [0] := rfl
  by_cases hcode : captured.code = 0
  · have hcontains : (!(shell c d).allowed.contains captured.code) = false := by
      simp [hallowed, hcode]
    rw [if_pos hcode, Invocation.check, hcontains]
    rfl
  · have hcontains : (!(shell c d).allowed.contains captured.code) = true := by
      simp [hallowed, hcode]
    rw [if_neg hcode, Invocation.check, hcontains]
    rfl

theorem exists_captures {α : Type} (c : Config) (d : Duration) (course : Course α) {w : World}
    {log : CaptureLog} (hlog : w.log = some log) (hidle : w.background = []) (number : Nat)
    (files : Files) (stdout : Bytes) (captured : Captured) :
    ∃ result w' turns own recorded,
      (do
        let id ← modifyGet fun w => w.addBackground (shell c d).command captured
        let own ← course.action.outcomeOf
        modify fun w => w.join id
        Action.ofExcept ((shell c d).check captured)
        Action.ofExcept own : Action α).run.run
          (Runner.withShell w (shell c d) number files stdout) = (result, w') ∧
      Captures (shell c d) captured course w log
        ((Runner.withShell w (shell c d) number files stdout).leaving (shell c d).command captured)
        result w' turns own recorded := by
  let shelled := Runner.withShell w (shell c d) number files stdout
  let begun := shelled.leaving (shell c d).command captured
  -- the action goes its way, whatever the capture will come to; only then is that looked at
  obtain ⟨turns, own, hgoes, hanswered, hrun⟩ := course.run_action begun
  let w' := (begun.afterRuns (Course.commands turns)).join shelled.started.length
  let order := (Course.runs turns).take w.captureLag ++
    ((shell c d).command, captured.outcome) :: (Course.runs turns).drop w.captureLag
  have hlog' : w'.log = some (log.recordAll w.clock order) := by
    have h := shelled.join_leaving_log (shell c d).command captured hlog hidle (Course.commands turns)
    rwa [← hanswered.runs_eq] at h
  have hstarted : w'.started = w.started ++ (shell c d).command :: Course.commands turns := by
    rw [World.join_started, World.afterRuns_started, World.leaving_started]
    exact List.append_assoc ..
  obtain ⟨recorded, hentries, hruns, hnumbers⟩ := log.recordAll_entries w.clock order
  have hlength : order.length = turns.length + 1 := by
    simp [order, Course.runs]
    omega
  let result := if captured.code = 0 then own
    else .error (.returnCode (shell c d).command captured.code [0] captured.stdout captured.stderr)
  refine ⟨result, w', turns, own, recorded, ?_,
    ⟨hgoes, hanswered, hstarted, ?_, by rw [hnumbers, hlength], hruns, rfl⟩⟩
  · rw [Action.run_bind, Action.run_modifyGet, World.addBackground_eq]
    dsimp only
    rw [Action.run_bind, Action.run_outcomeOf, hrun]
    dsimp only
    rw [Action.run_bind, Action.run_modify]
    dsimp only
    rw [Action.run_bind, Action.run_ofExcept, check_shell]
    by_cases hcode : captured.code = 0
    · simp only [hcode, if_true, result, Action.run_ofExcept]
      rfl
    · simp only [hcode, if_false, result]
      rfl
  · rw [hlog', Option.map_some, hentries]

/-! ## The account -/

/-- However a device answers and wherever the end of the capture falls: without the file, which can be created
wherever a path leads to a name that is no directory's, the action does not start and nothing is recorded;
without the shell it does not start and that is recorded; and otherwise it goes to its end, the log gains its
runs and the capture, and a failure of the capture comes before the action's own result. -/
theorem withAction_account {α : Type} (c : Config) (path : String) (d : Duration) (course : Course α)
    {w : World} {log : CaptureLog} (hlog : w.log = some log) (hidle : w.background = []) :
    ((∃ created, w.files.create path = .ok created) ↔ w.files.Creatable path) ∧
    ∃ result w', (withAction c path d course.action).run.run w = (result, w') ∧
      match w.files.create path with
      | .error cause => result = .error (.file path cause) ∧ w' = w
      | .ok (number, files) =>
        match w.device files w.started (shell c d).command with
        | .refused cause => result = .error (.spawn (shell c d).command cause) ∧
            w'.started = w.started ++ [(shell c d).command] ∧
            w'.log.map (·.entries) = some (log.entries ++
              [log.nextEntry w.clock (shell c d).command (.spawnFailed cause.message)])
        | .ran stdout stderr ending =>
          let captured : Captured := ⟨[], Text.splitLines stderr, ending.code⟩
          let begun := (Runner.withShell w (shell c d) number files stdout).leaving (shell c d).command
            captured
          ∃ turns own recorded,
            Captures (shell c d) captured course w log begun result w' turns own recorded := by
  refine ⟨Files.exists_create_iff, ?_⟩
  rw [withAction, Runner.withShellToFile]
  dsimp only
  rw [show Runner.shellInvocation (command c d) [0] = shell c d from rfl, Action.run_bind,
    Runner.run_startShell]
  cases w.files.create path with
  | error cause => exact ⟨_, _, rfl, rfl, rfl⟩
  | ok created =>
    obtain ⟨number, files⟩ := created
    dsimp only
    cases w.device files w.started (shell c d).command with
    | refused cause =>
      refine ⟨_, _, rfl, rfl, ?_, ?_⟩
      · rw [World.settle_started, World.record_started]
      · rw [World.settle_of_idle (by rw [World.record_background]; exact hidle), World.record_log]
        show (w.log.map _).map _ = _
        rw [hlog]
        rfl
    | ran stdout stderr ending =>
      obtain ⟨result, w', turns, own, recorded, hrun, hcaptures⟩ := exists_captures c d course hlog hidle
        number files stdout ⟨[], Text.splitLines stderr, ending.code⟩
      exact ⟨result, w', hrun, turns, own, recorded, hcaptures⟩

/-- A world with a directory for captures, an empty log, and a device on which every shell command fails. -/
def shellFailsWorld : World :=
  (World.of (Files.empty.withDirectory "/tmp")
    (fun _ _ command => .ran [] [] (.exited (if command.program = "sh" then 1 else 0))) .yearsEnd).withLog

/-- An action that runs one program and ends well whatever comes of it. -/
def oneRun : Course Nat := .run (.of "true" []) fun _ => .done (.ok 42)

/-- A capture that fails is reported in the place of the action's own result, after the action has been
run and both have been recorded. -/
theorem withAction_account_failing :
    shellFailsWorld.log = some (.empty false) ∧ shellFailsWorld.background = [] ∧
      ∃ w' recorded,
        (withAction (.ofDevice "dev") "/tmp/snoop.csv" (.ofMillis 1000) oneRun.action).run.run
            shellFailsWorld =
          (.error (.returnCode (shell (.ofDevice "dev") (.ofMillis 1000)).command 1 [0] [] []), w') ∧
        w'.log.map (·.entries) = some recorded ∧ recorded.map (·.seq) = [0, 1] ∧
        recorded.map (·.command.program) = ["true", "sh"] := by
  refine ⟨rfl, rfl, ?_⟩
  obtain ⟨-, result, w', hrun, haccount⟩ := withAction_account (.ofDevice "dev") "/tmp/snoop.csv"
    (.ofMillis 1000) oneRun (show shellFailsWorld.log = some (.empty false) from rfl)
    (show shellFailsWorld.background = [] from rfl)
  have hcreate : shellFailsWorld.files.create "/tmp/snoop.csv" =
      .ok (0, shellFailsWorld.files.withFile "/tmp/snoop.csv" []) := rfl
  rw [hcreate] at haccount
  obtain ⟨turns, own, recorded, hcaptures⟩ := haccount
  have hresult := hcaptures.result
  have hentries := hcaptures.entries
  have hnumbers := hcaptures.numbers
  have hruns := hcaptures.runs
  cases hcaptures.goes with
  | run hgoes =>
    cases hgoes
    refine ⟨w', recorded, ?_, hentries, hnumbers, ?_⟩
    · rw [hrun, hresult]
      rfl
    · have hprograms := congrArg (List.map (·.1.program)) hruns
      rw [List.map_map] at hprograms
      exact hprograms

end Snoop

end DeviceBench

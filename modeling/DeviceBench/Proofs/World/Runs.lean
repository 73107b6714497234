/-
Runs on the world. A run of a command line asks the device once, records the answer and only then
judges it, so the world after a run does not depend on what the run was expected to come to. With a
log and without captures in the background, a list of runs leaves exactly one entry each, in order,
numbered on from those before, and each entry holds what the device answered.
-/
import DeviceBench.Runner
import Mathlib.Data.List.Infix
import Mathlib.Tactic.Common

namespace DeviceBench

/-- A clock in the last second of a year, for the worlds of examples. -/
def ClockReading.yearsEnd : ClockReading :=
  ⟨⟨⟨2025, 12, 31, by decide, by decide, by decide⟩, 86399, 5, by decide, by decide, by decide⟩,
    7⟩

/-! ## Actions -/

namespace Action

/-- An action goes on after another only where that one came to a value. -/
theorem run_bind {α β : Type} (a : Action α) (f : α → Action β) (w : World) :
    (a >>= f).run.run w =
      match a.run.run w with
      | (.ok x, w') => (f x).run.run w'
      | (.error e, w') => (.error e, w') := by
  change (match a w with | (r, w') => ExceptT.bindCont f r w') =
    match a w with
    | (.ok x, w') => (f x).run.run w'
    | (.error e, w') => (.error e, w')
  obtain ⟨r, w'⟩ := a w
  cases r <;> rfl

@[simp] theorem run_pure {α : Type} (a : α) (w : World) :
    (pure a : Action α).run.run w = (.ok a, w) := rfl

@[simp] theorem run_modify (f : World → World) (w : World) :
    (modify f : Action Unit).run.run w = (.ok (), f w) := rfl

@[simp] theorem run_modifyGet {α : Type} (f : World → α × World) (w : World) :
    (modifyGet f : Action α).run.run w = (.ok (f w).1, (f w).2) := rfl

@[simp] theorem run_throw {α : Type} (e : Failure) (w : World) :
    (throw e : Action α).run.run w = (.error e, w) := rfl

@[simp] theorem run_ofExcept {α : Type} (r : Except Failure α) (w : World) :
    (ofExcept r).run.run w = (r, w) := rfl

@[simp] theorem run_outcomeOf {α : Type} (a : Action α) (w : World) :
    a.outcomeOf.run.run w = (.ok (a.run.run w).1, (a.run.run w).2) := rfl

@[simp] theorem run_files (w : World) : files.run.run w = (.ok w.files, w) := rfl

theorem run_onFiles {α : Type} (path : String) (change : Files → Except OsError (α × Files))
    (w : World) :
    (onFiles path change).run.run w =
      match change w.files with
      | .error cause => (.error (.file path cause), w)
      | .ok (a, files) => (.ok a, { w with files }) := by
  rw [onFiles, run_bind, run_files]
  dsimp only
  cases change w.files <;> rfl

end Action

/-! ## Recording -/

namespace World

@[simp] theorem writeJournal_device (w : World) (bytes : Bytes) :
    (w.writeJournal bytes).device = w.device := by unfold writeJournal; split <;> rfl

@[simp] theorem writeJournal_started (w : World) (bytes : Bytes) :
    (w.writeJournal bytes).started = w.started := by unfold writeJournal; split <;> rfl

@[simp] theorem writeJournal_clock (w : World) (bytes : Bytes) :
    (w.writeJournal bytes).clock = w.clock := by unfold writeJournal; split <;> rfl

@[simp] theorem writeJournal_background (w : World) (bytes : Bytes) :
    (w.writeJournal bytes).background = w.background := by unfold writeJournal; split <;> rfl

section Record

variable (w : World) (command : CommandLine) (outcome : Outcome)

@[simp] theorem record_device : (w.record command outcome).device = w.device := by
  unfold record; split <;> simp

@[simp] theorem record_started : (w.record command outcome).started = w.started := by
  unfold record; split <;> simp

@[simp] theorem record_clock : (w.record command outcome).clock = w.clock := by
  unfold record; split <;> simp

@[simp] theorem record_background : (w.record command outcome).background = w.background := by
  unfold record; split <;> simp

@[simp] theorem record_log :
    (w.record command outcome).log = w.log.map fun log => (log.record w.clock command outcome).2 := by
  unfold record; split <;> simp [*]

end Record

/-- Recording what ran in the background leaves the device, the clock and what was started as they
are. -/
theorem settleFrom_frame (w : World) (bs : List BackgroundCapture) :
    (w.settleFrom bs).device = w.device ∧ (w.settleFrom bs).started = w.started ∧
      (w.settleFrom bs).clock = w.clock := by
  induction bs generalizing w with
  | nil => exact ⟨rfl, rfl, rfl⟩
  | cons b bs ih =>
    rw [settleFrom]
    split
    · simpa using ih (w.record b.command b.captured.outcome)
    · exact ih w

@[simp] theorem settle_device (w : World) : w.settle.device = w.device := (settleFrom_frame w _).1

@[simp] theorem settle_started (w : World) : w.settle.started = w.started :=
  (settleFrom_frame w _).2.1

@[simp] theorem settle_clock (w : World) : w.settle.clock = w.clock := (settleFrom_frame w _).2.2

theorem settle_of_idle {w : World} (h : w.background = []) : w.settle = w := by
  cases w
  cases h
  rfl

end World

/-! ## One run -/

/-- What a finished process left behind, from its output. -/
def Captured.ofOutput (stdout stderr : Bytes) (ending : Ending) : Captured :=
  ⟨Text.splitLines stdout, Text.splitLines stderr, ending.code⟩

/-- The outcome that the log keeps of an answer. -/
def Answer.outcome : Answer → Outcome
  | .refused cause => .spawnFailed cause.message
  | .ran stdout stderr ending => (Captured.ofOutput stdout stderr ending).outcome

/-- What a run comes to when the device gives an answer. -/
def Invocation.verdict (i : Invocation) : Answer → Except Failure Captured
  | .refused cause => .error (.spawn i.command cause)
  | .ran stdout stderr ending => do
    i.check (.ofOutput stdout stderr ending)
    return .ofOutput stdout stderr ending

namespace World

/-- What the device answers to a command line. -/
def answer (w : World) (command : CommandLine) : Answer := w.device w.files w.started command

/-- The world after a run, whatever was expected of it. -/
def afterRun (w : World) (command : CommandLine) : World :=
  ((w.start command).2.record command (w.answer command).outcome).settle

/-- The world after runs in order. -/
def afterRuns (w : World) (commands : List CommandLine) : World := commands.foldl afterRun w

@[simp] theorem afterRuns_nil (w : World) : w.afterRuns [] = w := rfl

@[simp] theorem afterRuns_cons (w : World) (command : CommandLine) (commands : List CommandLine) :
    w.afterRuns (command :: commands) = (w.afterRun command).afterRuns commands := rfl

end World

/-- A run changes the world in one way only; what is expected of it decides the result alone. -/
theorem Runner.run_eq (i : Invocation) (w : World) :
    (Runner.run i).run.run w = (i.verdict (w.answer i.command), w.afterRun i.command) := by
  unfold Runner.run Invocation.verdict World.afterRun
  rw [Action.run_bind, Action.run_modifyGet]
  have hstart : (w.start i.command).1 = w.answer i.command := rfl
  simp only [hstart]
  cases w.answer i.command with
  | refused cause =>
    simp only [Runner.refuse, Action.run_bind, Action.run_modify, Action.run_throw]
    rfl
  | ran stdout stderr ending =>
    simp only [Action.run_bind, Action.run_modify, Action.run_ofExcept, Answer.outcome,
      Captured.ofOutput]
    cases i.check _ <;> rfl

/-! ## Runs in order -/

namespace World

theorem afterRun_device (w : World) (command : CommandLine) :
    (w.afterRun command).device = w.device := by
  rw [afterRun, settle_device, record_device, start]

theorem afterRun_started (w : World) (command : CommandLine) :
    (w.afterRun command).started = w.started ++ [command] := by
  rw [afterRun, settle_started, record_started, start]

theorem afterRun_clock (w : World) (command : CommandLine) :
    (w.afterRun command).clock = w.clock := by
  rw [afterRun, settle_clock, record_clock, start]

theorem afterRuns_device (w : World) (commands : List CommandLine) :
    (w.afterRuns commands).device = w.device := by
  induction commands generalizing w with
  | nil => rfl
  | cons c cs ih => rw [afterRuns_cons, ih, afterRun_device]

theorem afterRuns_started (w : World) (commands : List CommandLine) :
    (w.afterRuns commands).started = w.started ++ commands := by
  induction commands generalizing w with
  | nil => simp
  | cons c cs ih =>
    rw [afterRuns_cons, ih, afterRun_started, List.append_assoc]
    rfl

/-- What the device answers after runs: it sees the files as they are then, and everything started. -/
theorem answer_afterRuns (w : World) (commands : List CommandLine) (command : CommandLine) :
    (w.afterRuns commands).answer command =
      w.device (w.afterRuns commands).files (w.started ++ commands) command := by
  rw [answer, afterRuns_device, afterRuns_started]

section Idle

variable {w : World} (hidle : w.background = []) (command : CommandLine)

include hidle

theorem afterRun_eq :
    w.afterRun command = (w.start command).2.record command (w.answer command).outcome :=
  settle_of_idle (by simpa [start] using hidle)

theorem afterRun_background : (w.afterRun command).background = [] := by
  rw [afterRun_eq hidle, record_background]
  exact hidle

theorem afterRun_log :
    (w.afterRun command).log =
      w.log.map fun log => (log.record w.clock command (w.answer command).outcome).2 := by
  rw [afterRun_eq hidle, record_log, start]

end Idle

/-! ## Waits -/

/-- The world after more waits. -/
def waiting (w : World) (waits : List (Nat × Duration)) : World := { w with waits := w.waits ++ waits }

theorem waiting_nil (w : World) : w.waiting [] = w := by
  rw [waiting, List.append_nil]

theorem waiting_waiting (w : World) (waits more : List (Nat × Duration)) :
    (w.waiting waits).waiting more = w.waiting (waits ++ more) := by
  simp [waiting]

section Waiting

variable (w : World) (waits : List (Nat × Duration))

theorem answer_waiting (command : CommandLine) : (w.waiting waits).answer command = w.answer command := rfl

theorem record_waiting (command : CommandLine) (outcome : Outcome) :
    (w.waiting waits).record command outcome = (w.record command outcome).waiting waits := by
  unfold record
  cases hlog : w.log with
  | none => simp [waiting, hlog]
  | some log => cases hjournal : w.journal <;> simp [waiting, hlog, writeJournal, hjournal]

theorem settleFrom_waiting (bs : List BackgroundCapture) :
    (w.waiting waits).settleFrom bs = (w.settleFrom bs).waiting waits := by
  induction bs generalizing w with
  | nil => rfl
  | cons b bs ih =>
    rw [settleFrom, settleFrom]
    split
    · rw [record_waiting, ih]
    · rw [ih]
      rfl

/-- A run neither looks at the waits nor changes them. -/
theorem afterRun_waiting (command : CommandLine) :
    (w.waiting waits).afterRun command = (w.afterRun command).waiting waits := by
  have hstart : ((w.waiting waits).start command).2 = (w.start command).2.waiting waits := rfl
  rw [afterRun, answer_waiting, hstart, record_waiting]
  exact settleFrom_waiting _ waits _

theorem afterRuns_waiting (commands : List CommandLine) :
    (w.waiting waits).afterRuns commands = (w.afterRuns commands).waiting waits := by
  induction commands generalizing w with
  | nil => rfl
  | cons c cs ih => rw [afterRuns_cons, afterRun_waiting, ih, afterRuns_cons]

end Waiting

/-! ## The log after runs -/

/-- Runs leave one entry each behind those of the log, with their command lines in order and numbered
on, and each holds what the device answered at its turn. -/
theorem afterRuns_recorded {w : World} {log : CaptureLog} (hlog : w.log = some log)
    (hidle : w.background = []) (commands : List CommandLine) :
    ∃ recorded : List Entry,
      (w.afterRuns commands).log.map (·.entries) = some (log.entries ++ recorded) ∧
      recorded.map (·.command) = commands ∧
      recorded.map (·.seq) = List.range' log.size commands.length ∧
      ∀ before e after, recorded = before ++ e :: after →
        e.outcome = ((w.afterRuns (before.map (·.command))).answer e.command).outcome := by
  induction commands generalizing w log with
  | nil => exact ⟨[], by simp [hlog], rfl, rfl, by simp⟩
  | cons c cs ih =>
    have hlog' : (w.afterRun c).log = some (log.record w.clock c (w.answer c).outcome).2 := by
      rw [afterRun_log hidle, hlog, Option.map_some]
    obtain ⟨recorded, hentries, hcommands, hnumbers, houtcomes⟩ :=
      ih hlog' (afterRun_background hidle c)
    refine ⟨log.nextEntry w.clock c (w.answer c).outcome :: recorded, ?_, ?_, ?_, ?_⟩
    · rw [afterRuns_cons, hentries, CaptureLog.record, List.append_assoc]
      rfl
    · rw [List.map_cons, hcommands]
      rfl
    · rw [List.map_cons, hnumbers, List.length_cons, List.range'_succ]
      simp [CaptureLog.nextEntry, CaptureLog.size, CaptureLog.record]
    · intro before e after h
      cases before with
      | nil =>
        cases h
        rfl
      | cons first before =>
        cases h
        exact houtcomes before e after rfl

end World

end DeviceBench

/-
One run, one entry. Whatever a process answers and whatever is expected of it, a run records one entry
that holds the answer, and only then judges it. Captures in the background whose end is noticed after the
run have entries of their own behind that.
-/
import DeviceBench.Proofs.World.Background
import DeviceBench.Proofs.World.Verdicts

namespace DeviceBench

/-! ## Judging a finished run -/

/-- What a run with a finished process comes to: the capture itself where it meets the expectations, else
the first of three failures, each in exactly one case. -/
structure Invocation.Judges (i : Invocation) (c : Captured) (result : Except Failure Captured) :
    Prop where
  accepted : result = .ok c ↔ c.code ∈ i.allowed ∧ (∀ n ∈ i.stderrLines, n = c.stderr.length) ∧
    ∀ n ∈ i.stdoutLines, n = c.stdout.length
  badCode : result = .error (.returnCode i.command c.code i.allowed c.stdout c.stderr) ↔
    c.code ∉ i.allowed
  badStderr : ∀ n, result = .error (.outputShape i.command .stderr n c.stderr.length c.stdout
      c.stderr) ↔
    c.code ∈ i.allowed ∧ i.stderrLines = some n ∧ n ≠ c.stderr.length
  badStdout : ∀ n, result = .error (.outputShape i.command .stdout n c.stdout.length c.stdout
      c.stderr) ↔
    c.code ∈ i.allowed ∧ (∀ m ∈ i.stderrLines, m = c.stderr.length) ∧
      i.stdoutLines = some n ∧ n ≠ c.stdout.length

namespace Invocation

theorem judges (i : Invocation) (c : Captured) : i.Judges c (do i.check c; return c) := by
  have hcases := i.check_cases c
  simp only [Option.mem_def] at hcases
  rcases hcases with ⟨hcode, hcheck⟩ | ⟨hcode, n, hn, hne, hcheck⟩ |
    ⟨hcode, herr, n, hn, hne, hcheck⟩ | ⟨hcode, herr, hout, hcheck⟩
  all_goals
    rw [hcheck]
    constructor <;> simp only [bind, Except.bind, pure, Except.pure, Option.mem_def] <;> grind

/-- What the log keeps of an answer, and what a run that got it comes to. -/
inductive Accounts (i : Invocation) : Answer → Outcome → Except Failure Captured → Prop where
  | refused (cause : OsError) :
    i.Accounts (.refused cause) (.spawnFailed cause.message) (.error (.spawn i.command cause))
  | exited (stdout stderr : Bytes) (code : Int32) {result : Except Failure Captured}
    (h : i.Judges ⟨Text.splitLines stdout, Text.splitLines stderr, code⟩ result) :
    i.Accounts (.ran stdout stderr (.exited code))
      (.completed code (Text.splitLines stdout) (Text.splitLines stderr)) result
  | killed (stdout stderr : Bytes) (signal : Int32) {result : Except Failure Captured}
    (h : i.Judges ⟨Text.splitLines stdout, Text.splitLines stderr, -signal⟩ result) :
    i.Accounts (.ran stdout stderr (.killed signal))
      (.completed (-signal) (Text.splitLines stdout) (Text.splitLines stderr)) result

theorem accounts (i : Invocation) (a : Answer) : i.Accounts a a.outcome (i.verdict a) := by
  cases a with
  | refused cause => exact .refused cause
  | ran stdout stderr ending =>
    cases ending with
    | exited code => exact .exited stdout stderr code (i.judges _)
    | killed signal => exact .killed stdout stderr signal (i.judges _)

end Invocation

/-! ## What a run records -/

namespace World

/-- Captures in the background whose end is noticed with the next run. -/
def dueOf (bs : List BackgroundCapture) : List (CommandLine × Outcome) :=
  (bs.filter (·.due == 0)).map fun b => (b.command, b.captured.outcome)

theorem settleFrom_log (w : World) (bs : List BackgroundCapture) :
    (w.settleFrom bs).log = w.log.map fun log => log.recordAll w.clock (dueOf bs) := by
  induction bs generalizing w with
  | nil => simp [settleFrom, dueOf, CaptureLog.recordAll]
  | cons b bs ih =>
    rw [settleFrom]
    by_cases hdue : b.due = 0
    · have hcons : dueOf (b :: bs) = (b.command, b.captured.outcome) :: dueOf bs := by
        simp [dueOf, hdue]
      rw [if_pos hdue, ih, record_log, record_clock, Option.map_map, hcons]
      rfl
    · have hrest : dueOf (b :: bs) = dueOf bs := by simp [dueOf, hdue]
      rw [if_neg hdue, hrest]
      exact ih w

/-- A run is recorded before the captures whose end is noticed with it. -/
theorem afterRun_log_due (w : World) (command : CommandLine) :
    (w.afterRun command).log = w.log.map fun log =>
      log.recordAll w.clock ((command, (w.answer command).outcome) :: dueOf w.background) := by
  rw [afterRun, settle, settleFrom_log, record_log, record_clock, record_background, Option.map_map]
  rfl

end World

namespace Runner

/-- A run with a log adds one entry with its command line and with what came of the process, right behind
the entries that were there, whether the run is then accepted or not. More come behind that only of
captures in the background that are due. -/
theorem run_account (i : Invocation) {w : World} {log : CaptureLog} (hlog : w.log = some log) :
    ∃ entry others log', ((run i).run.run w).2.log = some log' ∧
      log'.entries = log.entries ++ entry :: others ∧
      others.map (fun e => (e.command, e.outcome)) = World.dueOf w.background ∧
      (w.background = [] → others = []) ∧
      entry.seq = log.size ∧ entry.command = i.command ∧
      i.Accounts (w.answer i.command) entry.outcome ((run i).run.run w).1 := by
  rw [run_eq]
  let runs := (i.command, (w.answer i.command).outcome) :: World.dueOf w.background
  obtain ⟨recorded, hentries, hruns, hnumbers⟩ := log.recordAll_entries w.clock runs
  cases recorded with
  | nil => exact absurd hruns.symm (List.cons_ne_nil _ _)
  | cons entry others =>
    obtain ⟨hfirst, hothers⟩ := List.cons.inj hruns
    obtain ⟨hcommand, houtcome⟩ := Prod.mk.inj hfirst
    refine ⟨entry, others, log.recordAll w.clock runs, ?_, hentries, hothers, ?_,
      (List.cons.inj hnumbers).1, hcommand, ?_⟩
    · rw [World.afterRun_log_due, hlog]
      rfl
    · intro hidle
      rw [hidle] at hothers
      exact List.map_eq_nil_iff.1 hothers
    · rw [houtcome]
      exact i.accounts _

/-- A world with one run in its log, in which a shell is killed after one line of output and two of errors. -/
def killingWorld : World :=
  let device : Device := fun _ _ _ => .ran (Text.encode "a\n") (Text.encode "b\r\nc") (.killed 9)
  let lost := (CaptureLog.empty false).record .yearsEnd ⟨"sh", []⟩ (.spawnFailed "lost")
  { World.of .empty device .yearsEnd with log := some lost.2 }

/-- The signal of a killed process is allowed, and both counts are wrong: the one of standard error is
reported, and the entry holds all that came of the process. -/
theorem run_account_killed :
    let i : Invocation := ⟨⟨"sh", ["-c", "a"]⟩, [0, -9], some 2, some 1⟩
    ∃ log entry, ((run i).run.run killingWorld).2.log = some log ∧
      log.entries.drop 1 = [entry] ∧ entry.seq = 1 ∧ entry.command = i.command ∧
      entry.outcome = .completed (-9) ["a"] ["b", "c"] ∧
      ((run i).run.run killingWorld).1 =
        .error (.outputShape i.command .stderr 1 2 ["a"] ["b", "c"]) := by
  intro i
  obtain ⟨entry, others, log, hlog, hentries, -, hidle, hseq, hcommand, haccounts⟩ :=
    run_account i (w := killingWorld) rfl
  have hanswer : killingWorld.answer i.command =
      .ran (Text.encode "a\n") (Text.encode "b\r\nc") (.killed 9) := rfl
  have hstdout : Text.splitLines (Text.encode "a\n") = ["a"] := by decide +kernel
  have hstderr : Text.splitLines (Text.encode "b\r\nc") = ["b", "c"] := by decide +kernel
  rw [hanswer] at haccounts
  refine ⟨log, entry, hlog, by rw [hentries, hidle rfl]; rfl, hseq, hcommand, ?_⟩
  generalize entry.outcome = outcome, ((run i).run.run killingWorld).1 = result at haccounts
  cases haccounts with
  | killed _ _ _ hjudges =>
    rw [hstdout, hstderr] at hjudges ⊢
    exact ⟨rfl, (hjudges.badStderr 1).2 ⟨by decide, rfl, by decide⟩⟩

end Runner

end DeviceBench

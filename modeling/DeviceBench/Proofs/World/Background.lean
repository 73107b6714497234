/-
A capture in the background. Its end is noticed at some point between the runs of others, or when it is
waited for. Whenever that is, the log gains the runs of the others in their order and, once, the capture
among them.
-/
import DeviceBench.Proofs.World.Runs

namespace DeviceBench

/-! ## Recording in order -/

namespace CaptureLog

/-- The log once runs are recorded in order. -/
def recordAll (log : CaptureLog) (clock : ClockReading) (runs : List (CommandLine × Outcome)) :
    CaptureLog :=
  runs.foldl (fun log run => (log.record clock run.1 run.2).2) log

theorem recordAll_cons (log : CaptureLog) (clock : ClockReading) (run : CommandLine × Outcome)
    (runs : List (CommandLine × Outcome)) :
    log.recordAll clock (run :: runs) = (log.record clock run.1 run.2).2.recordAll clock runs := rfl

/-- Each run gets one entry, in order and numbered on. -/
theorem recordAll_entries (log : CaptureLog) (clock : ClockReading)
    (runs : List (CommandLine × Outcome)) :
    ∃ recorded, (log.recordAll clock runs).entries = log.entries ++ recorded ∧
      recorded.map (fun e => (e.command, e.outcome)) = runs ∧
      recorded.map (·.seq) = List.range' log.size runs.length := by
  induction runs generalizing log with
  | nil => exact ⟨[], by simp [recordAll], rfl, rfl⟩
  | cons run runs ih =>
    obtain ⟨recorded, hentries, hruns, hnumbers⟩ := ih (log.record clock run.1 run.2).2
    refine ⟨log.nextEntry clock run.1 run.2 :: recorded, ?_, ?_, ?_⟩
    · rw [recordAll_cons, hentries, record, List.append_assoc]
      rfl
    · rw [List.map_cons, hruns]
      rfl
    · rw [List.map_cons, hnumbers, List.length_cons, List.range'_succ]
      simp [nextEntry, size, record]

end CaptureLog

namespace World

/-- What running command lines in order records: each with what the device answers at its turn. -/
def outcomes (w : World) : List CommandLine → List (CommandLine × Outcome)
  | [] => []
  | c :: cs => (c, (w.answer c).outcome) :: (w.afterRun c).outcomes cs

theorem join_of_idle {w : World} (h : w.background = []) (id : Nat) : w.join id = w := by
  rw [join, h]
  rfl

theorem join_started (w : World) (id : Nat) : (w.join id).started = w.started := by
  unfold join
  split
  · rfl
  · rw [record_started]

/-- Waiting for the only capture in the background records it. -/
theorem join_log {w : World} {b : BackgroundCapture} (h : w.background = [b]) :
    (w.join b.id).log =
      w.log.map fun log => (log.record w.clock b.command b.captured.outcome).2 := by
  have hfound : [b].find? (·.id == b.id) = some b := by simp
  rw [join, h, hfound]
  dsimp only
  rw [record_log]

section Idle

variable {w : World} {log : CaptureLog} (hlog : w.log = some log) (hidle : w.background = [])

include hlog hidle

theorem afterRuns_of_idle (commands : List CommandLine) :
    (w.afterRuns commands).log = some (log.recordAll w.clock (w.outcomes commands)) ∧
      (w.afterRuns commands).background = [] := by
  induction commands generalizing w log with
  | nil => exact ⟨hlog, hidle⟩
  | cons c cs ih =>
    have hlog' : (w.afterRun c).log = some (log.record w.clock c (w.answer c).outcome).2 := by
      rw [afterRun_log hidle, hlog, Option.map_some]
    have hrest := ih hlog' (afterRun_background hidle c)
    rwa [afterRun_clock] at hrest

end Idle

/-! ## One capture in the background -/

section Capture

variable {w : World} {log : CaptureLog} {b : BackgroundCapture}

theorem settle_of_due (hback : w.background = [b]) (hdue : b.due = 0) :
    w.settle = { w.record b.command b.captured.outcome with background := [] } := by
  rw [settle, hback, settleFrom, if_pos hdue]
  rfl

theorem settle_of_not_due (hback : w.background = [b]) (hdue : b.due ≠ 0) :
    w.settle = { w with background := [{ b with due := b.due - 1 }] } := by
  rw [settle, hback, settleFrom, if_neg hdue]
  rfl

/-- The run after which the end of a capture is noticed is recorded before the capture. -/
theorem afterRun_of_due (hlog : w.log = some log) (hback : w.background = [b]) (hdue : b.due = 0)
    (c : CommandLine) :
    (w.afterRun c).log = some ((log.record w.clock c (w.answer c).outcome).2.record w.clock b.command
        b.captured.outcome).2 ∧
      (w.afterRun c).background = [] := by
  have hback' : ((w.start c).2.record c (w.answer c).outcome).background = [b] := by
    rw [record_background]
    exact hback
  rw [afterRun, settle_of_due hback' hdue]
  refine ⟨?_, rfl⟩
  show (World.record _ _ _).log = _
  rw [record_log, record_log, record_clock]
  show (w.log.map _).map _ = _
  rw [hlog]
  rfl

/-- Any run before that one is recorded alone and brings the end of the capture nearer. -/
theorem afterRun_of_not_due (hlog : w.log = some log) (hback : w.background = [b]) (hdue : b.due ≠ 0)
    (c : CommandLine) :
    (w.afterRun c).log = some (log.record w.clock c (w.answer c).outcome).2 ∧
      (w.afterRun c).background = [{ b with due := b.due - 1 }] := by
  have hback' : ((w.start c).2.record c (w.answer c).outcome).background = [b] := by
    rw [record_background]
    exact hback
  rw [afterRun, settle_of_not_due hback' hdue]
  refine ⟨?_, rfl⟩
  show (World.record _ _ _).log = _
  rw [record_log]
  show w.log.map _ = _
  rw [hlog]
  rfl

/-- Runs while a capture is in the background, and then the wait for it, record the runs in order with
the capture among them. -/
theorem join_afterRuns_log (hlog : w.log = some log) (hback : w.background = [b])
    (commands : List CommandLine) :
    ((w.afterRuns commands).join b.id).log = some (log.recordAll w.clock
      ((w.outcomes commands).take (b.due + 1) ++
        (b.command, b.captured.outcome) :: (w.outcomes commands).drop (b.due + 1))) := by
  induction commands generalizing w log b with
  | nil =>
    rw [afterRuns_nil, join_log hback, hlog]
    rfl
  | cons c cs ih =>
    rw [afterRuns_cons]
    by_cases hdue : b.due = 0
    · -- the capture comes right after this run, and the others are recorded alone
      obtain ⟨hlog', hidle⟩ := afterRun_of_due hlog hback hdue c
      obtain ⟨hrest, hidle'⟩ := afterRuns_of_idle hlog' hidle cs
      rw [join_of_idle hidle', hrest, afterRun_clock, hdue]
      rfl
    · obtain ⟨hlog', hback'⟩ := afterRun_of_not_due hlog hback hdue c
      have hrest := ih hlog' hback'
      rw [afterRun_clock] at hrest
      obtain ⟨due, hsucc⟩ := Nat.exists_eq_succ_of_ne_zero hdue
      rw [hrest, hsucc]
      rfl

end Capture

/-! ## Leaving a capture in the background -/

section Leaving

variable (w : World) (command : CommandLine) (captured : Captured)

/-- The world once a capture is left in the background. -/
def leaving : World := (w.addBackground command captured).2

theorem addBackground_eq :
    w.addBackground command captured = (w.started.length, w.leaving command captured) := by
  unfold leaving addBackground
  split <;> rfl

theorem leaving_of_lag_zero (h : w.captureLag = 0) :
    w.leaving command captured = w.record command captured.outcome := by
  rw [leaving, addBackground, h]

theorem leaving_of_lag_succ {lag : Nat} (h : w.captureLag = lag + 1) :
    w.leaving command captured =
      { w with background := w.background ++ [⟨w.started.length, command, captured, lag⟩] } := by
  rw [leaving, addBackground, h]

theorem leaving_started : (w.leaving command captured).started = w.started := by
  cases h : w.captureLag with
  | zero => rw [leaving_of_lag_zero w command captured h, record_started]
  | succ lag => rw [leaving_of_lag_succ w command captured h]

theorem leaving_clock : (w.leaving command captured).clock = w.clock := by
  cases h : w.captureLag with
  | zero => rw [leaving_of_lag_zero w command captured h, record_clock]
  | succ lag => rw [leaving_of_lag_succ w command captured h]

/-- Whenever its end is noticed, a capture that was left in the background is recorded once, among the
runs up to the wait for it. -/
theorem join_leaving_log {log : CaptureLog} (hlog : w.log = some log) (hidle : w.background = [])
    (commands : List CommandLine) :
    (((w.leaving command captured).afterRuns commands).join w.started.length).log =
      some (log.recordAll w.clock
        (((w.leaving command captured).outcomes commands).take w.captureLag ++
          (command, captured.outcome) ::
            ((w.leaving command captured).outcomes commands).drop w.captureLag)) := by
  cases hlag : w.captureLag with
  | zero =>
    -- the capture has ended before the first run
    have hleaving := leaving_of_lag_zero w command captured hlag
    have hlog' : (w.leaving command captured).log =
        some (log.record w.clock command captured.outcome).2 := by
      rw [hleaving, record_log, hlog, Option.map_some]
    have hidle' : (w.leaving command captured).background = [] := by
      rw [hleaving, record_background, hidle]
    obtain ⟨hruns, hend⟩ := afterRuns_of_idle hlog' hidle' commands
    rw [join_of_idle hend, hruns, leaving_clock]
    rfl
  | succ lag =>
    have hleaving := leaving_of_lag_succ w command captured hlag
    have hlog' : (w.leaving command captured).log = some log := by
      rw [hleaving]
      exact hlog
    have hback : (w.leaving command captured).background =
        [⟨w.started.length, command, captured, lag⟩] := by
      rw [hleaving, hidle]
      rfl
    rw [join_afterRuns_log hlog' hback commands, leaving_clock]

end Leaving

end World

end DeviceBench

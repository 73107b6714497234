/-
Steps of a scenario. A step records its run whatever it comes to, and waits only if it passes. A run of
steps ends after the last one or with the first that does not pass, in the world after the runs up to there
and the waits between them.
-/
import DeviceBench.Proofs.World.Runs
import DeviceBench.Scenario.Step

namespace DeviceBench.Scenario

/-! ## One step -/

/-- What a step comes to in a world: the check of its run, then the judgement of its output with the
files as the run leaves them. -/
def Step.verdict (c : Config) (s : Step) (w : World) : Except Failure Unit := do
  let captured ← s.call.verdict (w.answer s.call.command)
  judge c (w.afterRun s.call.command).files captured.stdout s.judgement

/-- What a step waits at its end, once so many command lines have been started. -/
def Step.waits (s : Step) (started : Nat) : List (Nat × Duration) :=
  if s.pause.isZero then [] else [(started, s.pause)]

/-- The world after a step that passes. -/
def Step.after (s : Step) (w : World) : World :=
  (w.afterRun s.call.command).waiting (s.waits (w.afterRun s.call.command).started.length)

theorem Step.run_pause (s : Step) (w : World) :
    (Bench.pause s.pause).run.run w = (.ok (), w.waiting (s.waits w.started.length)) := by
  unfold Step.waits Bench.pause
  cases s.pause.isZero with
  | true => exact congrArg _ w.waiting_nil.symm
  | false => rfl

/-- A step records its run whatever it comes to, and waits if it passes. -/
theorem Step.run_eq (c : Config) (s : Step) (w : World) :
    (s.run c).run.run w =
      match s.verdict c w with
      | .ok () => (.ok (), s.after w)
      | .error f => (.error f, w.afterRun s.call.command) := by
  unfold Step.run Step.verdict Runner.stdout
  rw [Action.run_bind, Action.run_bind, Runner.run_eq]
  cases s.call.verdict (w.answer s.call.command) with
  | error f => rfl
  | ok captured =>
    simp only [Action.run_pure, Action.run_bind, Action.run_files, Action.run_ofExcept, Step.run_pause]
    change _ = match judge c (w.afterRun s.call.command).files captured.stdout s.judgement with
      | .ok () => _
      | .error f => _
    cases judge c (w.afterRun s.call.command).files captured.stdout s.judgement <;> rfl

theorem Step.verdict_eq_ok_iff {c : Config} {s : Step} {w : World} :
    s.verdict c w = .ok () ↔
      ∃ captured, s.call.verdict (w.answer s.call.command) = .ok captured ∧
        judge c (w.afterRun s.call.command).files captured.stdout s.judgement = .ok () :=
  bind_eq_ok_iff

/-- What a step comes to does not depend on the waits before it. -/
theorem Step.verdict_waiting (c : Config) (s : Step) (w : World) (waits : List (Nat × Duration)) :
    s.verdict c (w.waiting waits) = s.verdict c w := by
  rw [Step.verdict, Step.verdict, World.answer_waiting, World.afterRun_waiting]
  rfl

/-! ## Steps in order -/

theorem runSteps_cons (c : Config) (s : Step) (steps : List Step) (w : World) :
    (runSteps c (s :: steps)).run.run w =
      match s.verdict c w with
      | .ok () => (runSteps c steps).run.run (s.after w)
      | .error f => (.error f, w.afterRun s.call.command) := by
  have hcons : runSteps c (s :: steps) = (s.run c >>= fun _ => runSteps c steps) := rfl
  rw [hcons, Action.run_bind, Step.run_eq]
  cases s.verdict c w <;> rfl

/-- Every step passes at its turn. -/
def Passed (c : Config) (w : World) (steps : List Step) : Prop :=
  ∀ before s after, steps = before ++ s :: after →
    s.verdict c (w.afterRuns (commands before)) = .ok ()

theorem passed_nil (c : Config) (w : World) : Passed c w [] := by
  intro before s after h
  simp at h

theorem Passed.cons {c : Config} {w : World} {s : Step} {steps : List Step}
    (hs : s.verdict c w = .ok ()) (h : Passed c (w.afterRun s.call.command) steps) :
    Passed c w (s :: steps) := by
  intro before t after ht
  cases before with
  | nil =>
    cases ht
    exact hs
  | cons first before =>
    cases ht
    exact h before t after rfl

theorem passed_cons_iff {c : Config} {w : World} {s : Step} {steps : List Step} :
    Passed c w (s :: steps) ↔
      s.verdict c w = .ok () ∧ Passed c (w.afterRun s.call.command) steps := by
  refine ⟨fun h => ⟨h [] s steps rfl, fun before t after ht => ?_⟩, fun ⟨hs, h⟩ => .cons hs h⟩
  exact h (s :: before) t after (by rw [ht]; rfl)

theorem passed_after_iff {c : Config} {w : World} {s : Step} {steps : List Step} :
    Passed c (s.after w) steps ↔ Passed c (w.afterRun s.call.command) steps := by
  unfold Passed Step.after
  simp only [World.afterRuns_waiting, Step.verdict_waiting]

/-- What steps wait, each at its end, when so many command lines have been started before them. -/
def waits : Nat → List Step → List (Nat × Duration)
  | _, [] => []
  | started, s :: steps => s.waits (started + 1) ++ waits (started + 1) steps

theorem afterRuns_after (w : World) (s : Step) (steps : List Step) (commands : List CommandLine) :
    ((s.after w).afterRuns commands).waiting (waits (s.after w).started.length steps) =
      (w.afterRuns (s.call.command :: commands)).waiting (waits w.started.length (s :: steps)) := by
  have hstarted : (w.afterRun s.call.command).started.length = w.started.length + 1 := by
    rw [World.afterRun_started, List.length_append, List.length_singleton]
  have hafter : (s.after w).started.length = w.started.length + 1 := hstarted
  rw [hafter, Step.after, hstarted, World.afterRuns_waiting, World.waiting_waiting]
  rfl

/-- A run of steps ends after the last one, or with the first that does not pass. -/
theorem runSteps_spec (c : Config) (steps : List Step) (w : World) :
    (Passed c w steps ∧ (runSteps c steps).run.run w =
      (.ok (), (w.afterRuns (commands steps)).waiting (waits w.started.length steps))) ∨
    ∃ passed failed rest f, steps = passed ++ failed :: rest ∧ Passed c w passed ∧
      failed.verdict c (w.afterRuns (commands passed)) = .error f ∧
      (runSteps c steps).run.run w =
        (.error f, (w.afterRuns (commands passed ++ [failed.call.command])).waiting
          (waits w.started.length passed)) := by
  induction steps generalizing w with
  | nil => exact .inl ⟨passed_nil c w, congrArg _ w.waiting_nil.symm⟩
  | cons s steps ih =>
    rw [runSteps_cons]
    cases hs : s.verdict c w with
    | error f =>
      exact .inr ⟨[], s, steps, f, rfl, passed_nil c w, hs, congrArg _ (World.waiting_nil _).symm⟩
    | ok u =>
      -- the rest starts in the world after this step, where everything but the waits is as after its run
      rcases ih (s.after w) with
        ⟨hpassed, hrun⟩ | ⟨passed, failed, rest, f, rfl, hpassed, hfailed, hrun⟩
      · refine .inl ⟨.cons hs (passed_after_iff.1 hpassed), ?_⟩
        rw [hrun, afterRuns_after]
        rfl
      · rw [Step.after, World.afterRuns_waiting, Step.verdict_waiting] at hfailed
        refine .inr ⟨s :: passed, failed, rest, f, rfl, .cons hs (passed_after_iff.1 hpassed), hfailed, ?_⟩
        rw [hrun, afterRuns_after]
        rfl

/-- A run of steps succeeds exactly if every step passes at its turn. -/
theorem runSteps_eq_ok_iff {c : Config} {w : World} {steps : List Step} :
    ((runSteps c steps).run.run w).1 = .ok () ↔ Passed c w steps := by
  rcases runSteps_spec c steps w with
    ⟨hpassed, hrun⟩ | ⟨passed, failed, rest, f, hsteps, -, hfailed, hrun⟩
  · rw [hrun]
    exact ⟨fun _ => hpassed, fun _ => rfl⟩
  · rw [hrun]
    constructor
    · intro h
      cases h
    · intro h
      have hok := h passed failed rest hsteps
      rw [hfailed] at hok
      cases hok

end DeviceBench.Scenario

/-
Scenarios as programs. Running the steps of a scenario is the program that resets the device, goes
through processors and threads in nested loops, adds schedules and starts patterns with the loader,
and checks each output before it goes on.
-/
import DeviceBench.Bench
import DeviceBench.Loader
import DeviceBench.Proofs.Scenario.Steps
import DeviceBench.Scenario.Abort
import DeviceBench.Scenario.Flow

namespace DeviceBench.Scenario

/-! ## Programs -/

/-- Every processor's line about its running threads. -/
def running (c : Config) (cpus : Nat) : Action (List String) :=
  Runner.stdout ((c.command ["-c", allProcessors, "running"]).expectLines cpus 0)

/-- Each line in turn has to be the expected one. -/
def requireLines (output : List String) (count : Nat) (line : Nat → String) : Action Unit :=
  (List.range count).forM fun index => Action.ofExcept (expectLine output index (line index))

/-- After a reset no thread of so many processors runs. -/
def resetProgram (c : Config) (cpus : Nat) : Action Unit := do
  Bench.reset c
  let output ← running c cpus
  requireLines output cpus fun cpu => runningLine cpu "0x0"

/-- Every pattern is started, some threads are aborted, and the masks of the others are checked. -/
def abortProgram (c : Config) (layout : Layout) : Action Unit := do
  resetProgram c processors
  (List.range processors).forM fun cpu => discard <| Loader.load c (scheduleOf cpu) .nothing
  (List.range layout.threads).forM fun thread =>
    (List.range processors).forM fun cpu =>
      discard <| Runner.run <| c.command
        ["startpattern", threadPattern (UInt32.ofNat cpu) (UInt32.ofNat thread), "-t",
          toString thread]
  let before ← running c processors
  requireLines before processors fun cpu => runningLine cpu layout.allRunning
  let lines := abortedLines layout
  let report ← Runner.stdout
    ((c.command ["-c", abortedProcessors, "-t", abortedThreads, "abort"]).expectLines lines.length 0)
  requireLines report lines.length fun index => lines[index]?.getD ""
  let after ← running c processors
  requireLines after processors fun cpu => runningLine cpu (maskAfterAbort layout cpu)

/-- Each thread of each processor is aborted alone. -/
def abortSingleProgram (c : Config) (layout : Layout) (addressing : Addressing) : Action Unit := do
  Bench.reset c
  (List.range processors).forM fun cpu =>
    (List.range layout.threads).forM fun thread =>
      discard <| Runner.run <|
        (c.command ["-c", toString cpu, "-t", addressing.address (UInt32.ofNat thread),
          "abort"]).expectLines 1 0

/-- The visited blocks have to be those of an expected file. -/
def requireVisited (c : Config) (expected : String) : Action Unit := do
  let visited ← Runner.stdout (c.scheduler ["rawvisited"])
  Bench.compareOutput c visited expected .exact

/-- The queue has to be that of an expected file, but for its valid times. -/
def requireQueue (c : Config) (expected : String) : Action Unit := do
  let queue ← Runner.stdout (c.command ["rawqueue", branchBlock])
  Bench.compareOutput c queue expected (.of none (some validTimeField) [])

/-- The flow command is given between checks of the visited blocks and of the queue, and the device gets some
time to follow it. -/
def flowProgram (c : Config) (options : List String) (delay : Duration) : Action Unit := do
  Bench.reset c
  discard <| Loader.load c flowSchedule (.named entryPattern)
  requireVisited c "dynamic-branch-single-expected-0-0.txt"
  discard <| Runner.run (c.command (["flowpattern", entryPattern, targetPattern] ++ options))
  Bench.pause delay
  requireQueue c "dynamic-branch-single-expected-1-1.txt"
  discard <| Runner.run (c.startCall entryPattern)
  requireVisited c "dynamic-branch-single-expected-1-3.txt"
  requireQueue c "dynamic-branch-single-expected-1-4.txt"

/-- The scenarios with what they can be asked for. -/
inductive Plan where
  | reset (cpus : Nat)
  | abort (layout : Layout)
  | abortSingle (layout : Layout) (addressing : Addressing)
  | flow
  deriving DecidableEq, Repr

/-- The steps of a scenario. -/
def Plan.steps (c : Config) : Plan → List Step
  | .reset cpus => resetSteps c cpus
  | .abort layout => abortSteps c layout
  | .abortSingle layout addressing => abortSingleSteps c layout addressing
  | .flow => allFlowSteps c

/-- The program of a scenario. -/
def Plan.program (c : Config) : Plan → Action Unit
  | .reset cpus => resetProgram c cpus
  | .abort layout => abortProgram c layout
  | .abortSingle layout addressing => abortSingleProgram c layout addressing
  | .flow => FlowVariant.all.forM fun v => flowProgram c v.options v.delay

/-! ## Single steps -/

section Steps

variable (c : Config)

/-- Two actions are the same if they come to the same from every world. -/
theorem action_ext {α : Type} {a b : Action α} (h : ∀ w, a.run.run w = b.run.run w) : a = b :=
  funext h

theorem discard_eq {α : Type} (a : Action α) :
    (discard a : Action Unit) = (a >>= fun _ => pure ()) := by
  rw [bind_pure_comp]
  unfold Functor.discard
  rw [LawfulFunctor.map_const]
  rfl

/-- A step with any output is its run and then its wait. -/
theorem run_anything (i : Invocation) (pause : Duration) :
    (⟨i, .anything, pause⟩ : Step).run c =
      (do discard (Runner.run i); Bench.pause pause : Action Unit) := by
  apply action_ext
  intro w
  rw [Step.run_eq, discard_eq, bind_assoc, Action.run_bind, Runner.run_eq, Step.verdict]
  cases i.verdict (w.answer i.command) with
  | error f => rfl
  | ok captured =>
    rw [pure_bind]
    exact (Step.run_pause ⟨i, .anything, pause⟩ (w.afterRun i.command)).symm

theorem pause_zero : Bench.pause .zero = pure () := rfl

theorem run_call (i : Invocation) : (call i).run c = discard (Runner.run i) := by
  rw [call, run_anything, pause_zero, bind_pure_unit]

theorem forM_expectLine (output : List String) (line : Nat → String) :
    ∀ (count index : Nat),
      ((List.range' index count).forM fun i => Action.ofExcept (expectLine output i (line i))) =
        Action.ofExcept (expectLines output line count index)
  | 0, _ => rfl
  | count + 1, index => by
    have htail := forM_expectLine output line count (index + 1)
    rw [List.range'_succ]
    change (Action.ofExcept _ >>= fun _ => List.forM _ _) = _
    rw [htail, expectLines]
    cases expectLine output index (line index) <;> rfl

theorem run_lines (i : Invocation) (count : Nat) (line : Nat → String) :
    (⟨i, .lines count line, .zero⟩ : Step).run c =
      (Runner.stdout i >>= fun output => requireLines output count line) := by
  simp only [requireLines, List.range_eq_range', forM_expectLine, Step.run, pause_zero, bind_pure_unit]
  rfl

theorem run_golden (i : Invocation) (name : String) (options : CompareOptions) :
    (⟨i, .golden name options, .zero⟩ : Step).run c =
      (Runner.stdout i >>= fun output => Bench.compareOutput c output name options) := by
  simp only [Step.run, pause_zero, bind_pure_unit]
  rfl

/-! ## Lists of steps -/

theorem runSteps_nil : runSteps c [] = pure () := rfl

theorem runSteps_cons_eq (s : Step) (steps : List Step) :
    runSteps c (s :: steps) = (s.run c >>= fun _ => runSteps c steps) := rfl

theorem runSteps_append (a b : List Step) :
    runSteps c (a ++ b) = (runSteps c a >>= fun _ => runSteps c b) := by
  induction a with
  | nil => rw [List.nil_append, runSteps_nil, pure_bind]
  | cons s a ih => rw [List.cons_append, runSteps_cons_eq, runSteps_cons_eq, ih, bind_assoc]

theorem runSteps_flatMap {α : Type} (f : α → List Step) (xs : List α) :
    runSteps c (xs.flatMap f) = xs.forM fun x => runSteps c (f x) := by
  induction xs with
  | nil => rfl
  | cons x xs ih =>
    rw [List.flatMap_cons, runSteps_append, ih]
    rfl

theorem runSteps_map {α : Type} (f : α → Step) (xs : List α) :
    runSteps c (xs.map f) = xs.forM fun x => (f x).run c := by
  induction xs with
  | nil => rfl
  | cons x xs ih =>
    rw [List.map_cons, runSteps_cons_eq, ih]
    rfl

/-! ## The loader -/

theorem load_nothing (file : String) :
    discard (Loader.load c file .nothing) = (discard (Runner.run (c.addCall file)) : Action Unit) := by
  simp only [discard_eq, Loader.load, Loader.names, bind_assoc, pure_bind]
  rfl

theorem load_named (file pattern : String) :
    discard (Loader.load c file (.named pattern)) =
      (do discard (Runner.run (c.addCall file)); discard (Runner.run (c.startCall pattern)) :
        Action Unit) := by
  have hone (f : String → Action Unit) : [pattern].forM f = (f pattern >>= fun _ => pure ()) := rfl
  simp only [discard_eq, Loader.load, Loader.names, hone, bind_assoc, pure_bind]

/-! ## Scenarios -/

theorem runSteps_resetSteps (cpus : Nat) :
    runSteps c (resetSteps c cpus) = resetProgram c cpus := by
  rw [resetSteps, runSteps_cons_eq, runSteps_cons_eq, runSteps_nil, run_call, runningStep, run_lines,
    bind_pure_unit]
  rfl

theorem runSteps_abortSteps (layout : Layout) :
    runSteps c (abortSteps c layout) = abortProgram c layout := by
  simp only [abortSteps, runSteps_append, runSteps_resetSteps, runSteps_map, startSteps,
    runSteps_flatMap, runSteps_cons_eq, runSteps_nil, runningStep, abortStep, run_lines, run_call,
    bind_assoc, bind_pure_unit, abortProgram, running, load_nothing]

theorem runSteps_abortSingleSteps (layout : Layout) (addressing : Addressing) :
    runSteps c (abortSingleSteps c layout addressing) = abortSingleProgram c layout addressing := by
  rw [abortSingleSteps, runSteps_cons_eq, runSteps_flatMap]
  simp only [runSteps_map, abortSingleStep, run_call]
  rfl

theorem runSteps_flowSteps (options : List String) (delay : Duration) :
    runSteps c (flowSteps c options delay) = flowProgram c options delay := by
  simp only [flowSteps, runSteps_cons_eq, runSteps_nil, run_call, visitedStep, flowStep, queueStep,
    run_anything, run_golden, bind_assoc, bind_pure_unit, flowProgram, load_named, requireVisited,
    requireQueue, Bench.reset]

/-- Running the steps of a scenario is its program. -/
theorem runSteps_steps (p : Plan) : runSteps c (p.steps c) = p.program c := by
  cases p with
  | reset cpus => exact runSteps_resetSteps c cpus
  | abort layout => exact runSteps_abortSteps c layout
  | abortSingle layout addressing => exact runSteps_abortSingleSteps c layout addressing
  | flow =>
    rw [Plan.steps, allFlowSteps, runSteps_flatMap]
    simp only [runSteps_flowSteps]
    rfl

end Steps

end DeviceBench.Scenario

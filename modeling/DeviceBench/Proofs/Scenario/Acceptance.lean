/-
Which devices the scenarios about running and aborted threads accept. A scenario passes exactly on
the devices that answer each of its calls correctly at its turn: every program starts and ends with
code zero, and where the output is looked at, nothing is on standard error and the lines are the
expected ones, no more and no less. The expected lines are given by masks of threads as numbers.
-/
import DeviceBench.Proofs.Scenario.Programs
import DeviceBench.Proofs.Text.Lines
import DeviceBench.Proofs.World.Verdicts
import Mathlib.Data.List.Forall2

namespace DeviceBench

/-- An answer to a call is a correct one: the program starts and ends with code zero, and where its
output is looked at, it writes these lines and nothing on standard error. -/
def Answer.Meets (a : Answer) (lines : Option (List String)) : Prop :=
  ∃ stdout stderr ending, a = .ran stdout stderr ending ∧ ending.code = 0 ∧
    ∀ wanted ∈ lines, stderr = [] ∧ Text.splitLines stdout = wanted

namespace Scenario

/-! ## Expected lines -/

theorem expectLine_eq_ok_iff {output : List String} {index : Nat} {expected : String} :
    expectLine output index expected = .ok () ↔ output[index]?.getD "" = expected := by
  unfold expectLine
  by_cases h : output[index]?.getD "" = expected <;> simp [h]

theorem expectLines_eq_ok_iff {output : List String} {line : Nat → String} {count index : Nat} :
    expectLines output line count index = .ok () ↔
      ∀ k < count, output[index + k]?.getD "" = line (index + k) := by
  induction count generalizing index with
  | zero => simp [expectLines]
  | succ count ih =>
    rw [expectLines, check_bind_eq_ok_iff, expectLine_eq_ok_iff, ih]
    constructor
    · rintro ⟨hfirst, hrest⟩ k hk
      cases k with
      | zero => exact hfirst
      | succ k =>
        have := hrest k (by omega)
        rwa [Nat.add_assoc, Nat.add_comm 1 k] at this
    · intro h
      refine ⟨h 0 (by omega), fun k hk => ?_⟩
      have := h (k + 1) (by omega)
      rwa [← Nat.add_assoc, Nat.add_right_comm] at this

/-- Of as many lines as have to be there, each is the expected one if they are the expected lines: no
missing line passes for an empty one. -/
theorem expectLines_all_iff {output : List String} {line : Nat → String} {count : Nat} :
    (count = output.length ∧ expectLines output line count 0 = .ok ()) ↔
      output = (List.range count).map line := by
  rw [expectLines_eq_ok_iff]
  constructor
  · rintro ⟨rfl, h⟩
    refine List.ext_getElem (by simp) fun k hk _ => ?_
    have := h k hk
    rw [Nat.zero_add, List.getElem?_eq_getElem hk, Option.getD_some] at this
    simpa using this
  · rintro rfl
    refine ⟨by simp, fun k hk => ?_⟩
    simp [hk]

/-! ## Steps and what they demand -/

/-- A call that a scenario makes and the lines that a correct device writes to it, where these are
looked at. -/
structure Exchange where
  command : CommandLine
  lines : Option (List String)
  deriving DecidableEq, Repr

/-- The device answers each call correctly at its turn, after the calls before it. -/
def Correct (w : World) (exchanges : List Exchange) : Prop :=
  ∀ before e after, exchanges = before ++ e :: after →
    ((w.afterRuns (before.map (·.command))).answer e.command).Meets e.lines

/-- A step makes the call, and passes exactly on the correct answers to it. -/
def Step.Demands (c : Config) (s : Step) (e : Exchange) : Prop :=
  s.call.command = e.command ∧ ∀ w : World, s.verdict c w = .ok () ↔ (w.answer e.command).Meets e.lines

section Demands

variable {c : Config}

/-- A step passes where the program runs, its run meets the expectations and its output passes. -/
theorem verdict_eq_ok_iff_ran {s : Step} {w : World} :
    s.verdict c w = .ok () ↔
      ∃ stdout stderr ending, w.answer s.call.command = .ran stdout stderr ending ∧
        s.call.check (.ofOutput stdout stderr ending) = .ok () ∧
        judge c (w.afterRun s.call.command).files (Text.splitLines stdout) s.judgement = .ok () := by
  rw [Step.verdict_eq_ok_iff]
  constructor
  · rintro ⟨captured, hverdict, hjudge⟩
    obtain ⟨stdout, stderr, ending, hanswer, rfl, hcheck⟩ := Invocation.verdict_eq_ok_iff.1 hverdict
    exact ⟨stdout, stderr, ending, hanswer, hcheck, hjudge⟩
  · rintro ⟨stdout, stderr, ending, hanswer, hcheck, hjudge⟩
    have hverdict := Invocation.verdict_eq_ok_iff.2 ⟨stdout, stderr, ending, hanswer, rfl, hcheck⟩
    exact ⟨_, hverdict, hjudge⟩

variable (program : String) (args : List String)

theorem demands_call :
    (call (.of program args)).Demands c ⟨⟨program, args⟩, none⟩ := by
  refine ⟨rfl, fun w => ?_⟩
  rw [verdict_eq_ok_iff_ran]
  constructor
  · rintro ⟨stdout, stderr, ending, hanswer, hcheck, -⟩
    obtain ⟨hcode, -, -⟩ := Invocation.check_eq_ok_iff.1 hcheck
    exact ⟨stdout, stderr, ending, hanswer, List.mem_singleton.1 hcode, by simp⟩
  · rintro ⟨stdout, stderr, ending, hanswer, hcode, -⟩
    refine ⟨stdout, stderr, ending, hanswer, Invocation.check_eq_ok_iff.2 ?_, rfl⟩
    exact ⟨List.mem_singleton.2 hcode, by simp [call, Invocation.of], by simp [call, Invocation.of]⟩

/-- Counting the lines and comparing each demands exactly those lines. -/
theorem demands_lines (count : Nat) (line : Nat → String) :
    (⟨(Invocation.of program args).expectLines count 0, .lines count line, .zero⟩ : Step).Demands c
      ⟨⟨program, args⟩, some ((List.range count).map line)⟩ := by
  have hcheck (stdout stderr : Bytes) (ending : Ending) :
      ((Invocation.of program args).expectLines count 0).check (.ofOutput stdout stderr ending) =
          .ok () ↔
        ending.code = 0 ∧ stderr = [] ∧ count = (Text.splitLines stdout).length := by
    rw [Invocation.check_eq_ok_iff]
    simp [Invocation.of, Invocation.expectLines, Captured.ofOutput, Text.splitLines_eq_nil_iff,
      eq_comm (a := 0)]
  refine ⟨rfl, fun w => ?_⟩
  rw [verdict_eq_ok_iff_ran]
  constructor
  · rintro ⟨stdout, stderr, ending, hanswer, hmet, hlines⟩
    obtain ⟨hcode, hstderr, hcount⟩ := (hcheck stdout stderr ending).1 hmet
    refine ⟨stdout, stderr, ending, hanswer, hcode, ?_⟩
    intro wanted hwanted
    cases hwanted
    exact ⟨hstderr, expectLines_all_iff.1 ⟨hcount, hlines⟩⟩
  · rintro ⟨stdout, stderr, ending, hanswer, hcode, hwanted⟩
    obtain ⟨hstderr, hstdout⟩ := hwanted _ rfl
    obtain ⟨hcount, hlines⟩ := expectLines_all_iff.2 hstdout
    have hmet := (hcheck stdout stderr ending).2 ⟨hcode, hstderr, hcount⟩
    exact ⟨stdout, stderr, ending, hanswer, hmet, hlines⟩

end Demands

/-! ## Steps in order -/

section Order

variable {c : Config} {w : World}

theorem correct_cons_iff {e : Exchange} {exchanges : List Exchange} :
    Correct w (e :: exchanges) ↔
      (w.answer e.command).Meets e.lines ∧ Correct (w.afterRun e.command) exchanges := by
  constructor
  · intro h
    refine ⟨h [] e exchanges rfl, fun before t after ht => ?_⟩
    exact h (e :: before) t after (by rw [ht]; rfl)
  · rintro ⟨he, h⟩ before t after ht
    cases before with
    | nil =>
      cases ht
      exact he
    | cons first before =>
      cases ht
      exact h before t after rfl

theorem passed_iff_correct {steps : List Step} {exchanges : List Exchange}
    (h : List.Forall₂ (Step.Demands c) steps exchanges) : Passed c w steps ↔ Correct w exchanges := by
  induction h generalizing w with
  | nil => exact ⟨fun _ before e after he => by simp at he, fun _ => passed_nil c w⟩
  | cons hs _ ih => rw [passed_cons_iff, correct_cons_iff, hs.2 w, hs.1, ih]

end Order

/-! ## The device's side of the scenarios -/

/-- A mask of threads as the device shows it. -/
def shownMask {threads : Nat} (mask : BitVec threads) : String := "0x" ++ Text.hexText mask.toNat

/-- The threads that run on a processor after the abort: all threads, but on the processors of the
mask 3 none of those of the mask aa. -/
def threadsLeft (layout : Layout) (cpu : Nat) : BitVec layout.threads :=
  if Nat.testBit 0x3 cpu then BitVec.allOnes _ &&& ~~~ BitVec.ofNat _ 0xaa else BitVec.allOnes _

/-- The question for the running threads of so many processors and the lines that answer it. -/
def runningExchange (c : Config) (cpus : Nat) {threads : Nat} (mask : Nat → BitVec threads) :
    Exchange :=
  ⟨(c.command ["-c", "0xf", "running"]).command,
    some ((List.range cpus).map fun cpu => runningLine cpu (shownMask (mask cpu)))⟩

/-- The report of the abort: the threads of the mask aa on each processor of the mask 3, both
ascending. -/
def abortReport (layout : Layout) : List String :=
  ((List.range processors).filter (Nat.testBit 0x3)).flatMap fun cpu =>
    ((List.range layout.threads).filter (Nat.testBit 0xaa)).map fun thread => abortedLine cpu thread

/-- A reset, and the question for running threads, of which there are none. -/
def resetExchanges (c : Config) (cpus : Nat) : List Exchange :=
  [⟨c.resetCall.command, none⟩, runningExchange c cpus fun _ => (0 : BitVec 64)]

/-- A call that starts the pattern of a thread. -/
def startExchange (c : Config) (thread cpu : Nat) : Exchange :=
  ⟨(c.command
    ["startpattern", threadPattern (UInt32.ofNat cpu) (UInt32.ofNat thread), "-t",
      toString thread]).command, none⟩

/-- The scenario about aborted threads as a correct device sees it. -/
def abortExchanges (c : Config) (layout : Layout) : List Exchange :=
  resetExchanges c processors ++
    (List.range processors).map (fun cpu => ⟨(c.addCall (scheduleOf cpu)).command, none⟩) ++
    ((List.range layout.threads).flatMap fun thread =>
      (List.range processors).map fun cpu => startExchange c thread cpu) ++
    [ runningExchange c processors fun _ => BitVec.allOnes layout.threads,
      ⟨(c.command ["-c", "0x3", "-t", "0xaa", "abort"]).command, some (abortReport layout)⟩,
      runningExchange c processors (threadsLeft layout) ]

section Scenarios

variable (c : Config)

theorem demands_running (cpus : Nat) {threads : Nat} {mask : Nat → String}
    {shown : Nat → BitVec threads}
    (h : ∀ cpu < cpus, mask cpu = shownMask (shown cpu)) :
    (runningStep c cpus mask).Demands c (runningExchange c cpus shown) := by
  have hlines : (List.range cpus).map (fun cpu => runningLine cpu (mask cpu)) =
      (List.range cpus).map fun cpu => runningLine cpu (shownMask (shown cpu)) := by
    refine List.map_congr_left fun cpu hcpu => ?_
    rw [h cpu (List.mem_range.1 hcpu)]
  rw [runningExchange, ← hlines]
  exact demands_lines _ _ cpus _

theorem demands_resetSteps (cpus : Nat) :
    List.Forall₂ (Step.Demands c) (resetSteps c cpus) (resetExchanges c cpus) := by
  refine .cons (demands_call _ _) (.cons (demands_running c cpus fun _ _ => ?_) .nil)
  decide

theorem abortedLines_eq (layout : Layout) : abortedLines layout = abortReport layout := by
  cases layout <;> decide +kernel

theorem demands_abortStep (layout : Layout) :
    (abortStep c layout).Demands c
      ⟨(c.command ["-c", "0x3", "-t", "0xaa", "abort"]).command, some (abortReport layout)⟩ := by
  have hlines : (List.range (abortedLines layout).length).map
      (fun index => (abortedLines layout)[index]?.getD "") = abortReport layout := by
    rw [← abortedLines_eq]
    exact (expectLines_all_iff.1 ⟨rfl, expectLines_eq_ok_iff.2 fun k _ => rfl⟩).symm
  rw [← hlines]
  exact demands_lines _ _ _ _

theorem demands_abortSteps (layout : Layout) :
    List.Forall₂ (Step.Demands c) (abortSteps c layout) (abortExchanges c layout) := by
  have hall : layout.allRunning = shownMask (BitVec.allOnes layout.threads) := by
    cases layout <;> decide +kernel
  have hleft : ∀ cpu < processors, maskAfterAbort layout cpu = shownMask (threadsLeft layout cpu) := by
    cases layout <;> decide +kernel
  refine List.rel_append (List.rel_append (List.rel_append (demands_resetSteps c _) ?_) ?_) ?_
  · rw [List.forall₂_map_left_iff, List.forall₂_map_right_iff, List.forall₂_same]
    exact fun cpu _ => demands_call _ _
  · refine List.rel_flatMap (List.forall₂_same.2 fun _ _ => rfl) ?_
    rintro thread _ rfl
    rw [List.forall₂_map_left_iff, List.forall₂_map_right_iff, List.forall₂_same]
    exact fun cpu _ => demands_call _ _
  · exact .cons (demands_running c _ fun _ _ => hall)
      (.cons (demands_abortStep c layout) (.cons (demands_running c _ hleft) .nil))

end Scenarios

/-- The scenario about aborted threads passes exactly on the devices that answer all its calls
correctly, and so does the scenario about a reset, for any number of processors. -/
theorem abort_accepts_iff (c : Config) (w : World) :
    (∀ layout, ((abortProgram c layout).run.run w).1 = .ok () ↔
      Correct w (abortExchanges c layout)) ∧
    ∀ cpus, ((resetProgram c cpus).run.run w).1 = .ok () ↔ Correct w (resetExchanges c cpus) := by
  refine ⟨fun layout => ?_, fun cpus => ?_⟩
  · rw [← runSteps_abortSteps, runSteps_eq_ok_iff]
    exact passed_iff_correct (demands_abortSteps c layout)
  · rw [← runSteps_resetSteps, runSteps_eq_ok_iff]
    exact passed_iff_correct (demands_resetSteps c cpus)

/-- The question after a reset is answered for the one processor that there is. -/
example :
    ((resetProgram (.ofDevice "dev") 1).run.run
      (.of .empty (fun _ _ _ => .ran (Text.encode "CPU 0 Running Threads: 0x0\n") [] (.exited 0))
        ⟨⟨⟨2026, 1, 1, by decide, by decide, by decide⟩, 0, 0, by decide, by decide, by decide⟩,
          0⟩)).1 = .ok () := by decide +kernel

end Scenario

end DeviceBench

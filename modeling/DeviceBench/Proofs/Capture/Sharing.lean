/-
A log that is shared by its clones. A clone has no storage of its own, and every call holds the lock of the
entries, so what clones do at the same time is some sequence of calls, each through one of them. After every
such sequence the entries are what was recorded since the last clear, numbered from zero, and the journal
holds a line for each run that was ever recorded.
-/
import DeviceBench.Proofs.Capture.Journal
import DeviceBench.Proofs.Text.Pieces

namespace DeviceBench.Sharing

/-! ## Calls -/

/-- What a caller hands to the log: a run with its outcome, and what the clock shows then. -/
structure Run where
  clock : ClockReading
  command : CommandLine
  outcome : Outcome
  deriving DecidableEq, Repr

/-- What can be asked of a log through one of its clones. -/
inductive Call where
  | record (run : Run)
  | clear
  | clone
  deriving DecidableEq, Repr

/-- What a call gives back: the number of the entry, nothing, or the new clone. -/
inductive Reply where
  | number (n : Nat)
  | cleared
  | clone (index : Nat)
  deriving DecidableEq, Repr

/-- A call through one of the clones, and what it gave back. -/
structure Event where
  clone : Nat
  call : Call
  reply : Reply
  deriving DecidableEq, Repr

/-- A log with so many clones; what they share is the log of the world and its journal. -/
structure Shared where
  world : World
  clones : Nat

/-- The world once a run is recorded at its time. -/
def recorded (w : World) (run : Run) : World :=
  { w with clock := run.clock }.record run.command run.outcome

/-- The world once the log is cleared; its journal keeps its lines. -/
def cleared (w : World) : World := { w with log := w.log.map CaptureLog.clear }

/-- One call, made through a clone that exists. -/
inductive Step : Shared → Event → Shared → Prop
  | record {s : Shared} {clone : Nat} {log : CaptureLog} (run : Run) :
      clone < s.clones → s.world.log = some log →
      Step s ⟨clone, .record run, .number (log.record run.clock run.command run.outcome).1⟩
        { s with world := recorded s.world run }
  | clear {s : Shared} {clone : Nat} :
      clone < s.clones → Step s ⟨clone, .clear, .cleared⟩ { s with world := cleared s.world }
  | clone {s : Shared} {clone : Nat} :
      clone < s.clones → Step s ⟨clone, .clone, .clone s.clones⟩ { s with clones := s.clones + 1 }

/-- What calls one after the other lead to. -/
inductive Reaches (start : Shared) : List Event → Shared → Prop
  | start : Reaches start [] start
  | step {events : List Event} {s s' : Shared} {e : Event} :
      Reaches start events s → Step s e s' → Reaches start (events ++ [e]) s'

/-- A log has just been made, in memory or with a journal at a path. -/
inductive Opened : World → Option String → Prop
  | inMemory (w : World) : Opened w.withLog none
  | journaled {w w' : World} {path : String} :
      w.withJournaledLog path = .ok w' → Opened w' (some path)

/-! ## What the log has to hold -/

/-- The run that a call records, if it records one. -/
def Call.run? : Call → Option Run
  | .record run => some run
  | _ => none

/-- The call clears the log. -/
def Call.clears : Call → Bool
  | .clear => true
  | _ => false

/-- The entry of a run under a number. -/
def entry (number : Nat) (run : Run) : Entry :=
  ⟨number, run.clock.time, run.clock.elapsed, run.command, run.outcome⟩

/-- The entries of runs, numbered from zero. -/
def numbered (runs : List Run) : List Entry := runs.mapIdx entry

/-- The entries recorded between clears: a list for each clear, of what was recorded before it and after the
clear before it, and one of what has been recorded since. -/
def periods (calls : List Call) : List (List Entry) :=
  (calls.splitOnP Call.clears).map fun period => numbered (period.filterMap Call.run?)

/-- The run that an entry is about. -/
def runOf (e : Entry) : Run := ⟨⟨e.time, e.elapsed⟩, e.command, e.outcome⟩

/-- The account of a log after calls: its entries are those of the last period, the reply to each
record is the number of entries before it, and the lines of the journal are those of all periods. -/
structure Account (start : Shared) (path : Option String) (events : List Event) (s : Shared)
    (earlier : List (List Entry)) (log : CaptureLog) : Prop where
  held : s.world.log = some log
  split : periods (events.map (·.call)) = earlier ++ [log.entries]
  /-- The entries are numbered by their places. -/
  dense : ∀ i (h : i < log.entries.length), log.entries[i].seq = i
  /-- Nothing that was recorded is lost, doubled or out of order. -/
  complete : (earlier.flatten ++ log.entries).map runOf = (events.map (·.call)).filterMap Call.run?
  replies : ∀ before e after run, events = before ++ e :: after → e.call = .record run →
    ∃ s' log', Reaches start before s' ∧ s'.world.log = some log' ∧
      e.reply = .number log'.entries.length
  /-- The journal holds the lines of the earlier periods and then those of the entries. -/
  journal : ∀ p, path = some p → ∃ text, s.world.files.readText p = .ok text ∧
    Text.keptLines text = (earlier.flatten ++ log.entries).map CaptureLog.journalLine

/-! ## Periods -/

section Periods

variable {calls : List Call} {earlier : List (List Entry)} {current : List Entry}

theorem periods_clear (calls : List Call) : periods (calls ++ [.clear]) = periods calls ++ [[]] := by
  rw [periods, List.splitOnP_append_cons calls [] (show Call.clear.clears = true from rfl),
    List.splitOnP_nil, List.map_append]
  rfl

theorem exists_period {call : Call} (hcall : call.clears = false) (calls : List Call) :
    ∃ (before : List (List Entry)) (runs : List Run), periods calls = before ++ [numbered runs] ∧
      periods (calls ++ [call]) = before ++ [numbered (runs ++ [call].filterMap Call.run?)] := by
  obtain ⟨before, last, hsplit, hsplit'⟩ := splitOnP_concat hcall calls
  refine ⟨before.map fun period => numbered (period.filterMap Call.run?),
    last.filterMap Call.run?, ?_, ?_⟩
  · rw [periods, hsplit, List.map_append]
    rfl
  · rw [periods, hsplit', List.map_append, List.map_singleton, List.filterMap_append]

theorem periods_clone (calls : List Call) : periods (calls ++ [.clone]) = periods calls := by
  obtain ⟨before, runs, hperiods, hperiods'⟩ :=
    exists_period (show Call.clone.clears = false from rfl) calls
  rw [hperiods, hperiods', show [Call.clone].filterMap Call.run? = [] from rfl, List.append_nil]

/-- A recorded run gets the number of entries before it in its period. -/
theorem periods_record (h : periods calls = earlier ++ [current]) (run : Run) :
    periods (calls ++ [.record run]) = earlier ++ [current ++ [entry current.length run]] := by
  obtain ⟨before, runs, hperiods, hperiods'⟩ :=
    exists_period (show (Call.record run).clears = false from rfl) calls
  rw [hperiods] at h
  obtain ⟨rfl, hcurrent⟩ := List.append_inj' h rfl
  obtain rfl : numbered runs = current := by simpa using hcurrent
  rw [hperiods']
  simp [numbered, Call.run?, List.mapIdx_append]

end Periods

theorem seq_of_mem_periods {calls : List Call} {period : List Entry} (h : period ∈ periods calls) (i : Nat)
    (hi : i < period.length) : period[i].seq = i := by
  obtain ⟨part, -, rfl⟩ := List.mem_map.1 h
  simp [numbered, entry]

theorem runs_of_periods (calls : List Call) :
    (periods calls).flatten.map runOf = calls.filterMap Call.run? := by
  induction calls using List.reverseRecOn with
  | nil => rfl
  | append_singleton calls call ih =>
    cases call with
    | clear =>
      rw [periods_clear, List.flatten_append, List.filterMap_append, ← ih]
      simp [Call.run?]
    | clone =>
      rw [periods_clone, List.filterMap_append, ← ih]
      simp [Call.run?]
    | record run =>
      obtain ⟨before, runs, hperiods, -⟩ :=
        exists_period (show (Call.record run).clears = false from rfl) calls
      rw [periods_record hperiods, List.filterMap_append, ← ih, hperiods]
      simp [Call.run?, runOf, entry]

/-! ## One call -/

/-- The state of a log after calls: what it holds, and the journal with the lines of all periods. -/
structure Holds (path : Option String) (calls : List Call) (s : Shared)
    (earlier : List (List Entry)) (log : CaptureLog) : Prop where
  held : s.world.log = some log
  split : periods calls = earlier ++ [log.entries]
  journal : ∀ p, path = some p →
    ∃ number, s.world.Journals p (earlier.flatten ++ log.entries) number

theorem holds_opened {w : World} {path : Option String} (h : Opened w path) :
    ∃ log, Holds path [] ⟨w, 1⟩ [] log := by
  cases h with
  | inMemory w => exact ⟨.empty false, rfl, rfl, nofun⟩
  | journaled hopen =>
    obtain ⟨hlog, hjournals⟩ := World.journals_of_created hopen
    refine ⟨.empty true, hlog, rfl, ?_⟩
    rintro p ⟨⟩
    exact hjournals

/-- Every call, through whichever clone, leaves the log as it has to be. -/
theorem Step.holds {path : Option String} {calls : List Call} {s s' : Shared} {e : Event}
    {earlier : List (List Entry)} {log : CaptureLog} (hstep : Step s e s')
    (h : Holds path calls s earlier log) :
    ∃ earlier' log', Holds path (calls ++ [e.call]) s' earlier' log' := by
  cases hstep with
  | record run hclone hlog =>
    cases h.held.symm.trans hlog
    -- one more entry in the last period, and one more line in the journal
    refine ⟨earlier, (log.record run.clock run.command run.outcome).2, ?_, ?_, ?_⟩
    · rw [recorded, World.record_log, h.held]
      rfl
    · exact periods_record h.split run
    · intro p hp
      obtain ⟨number, hjournal⟩ := h.journal p hp
      have hclocked : { s.world with clock := run.clock }.Journals p
          (earlier.flatten ++ log.entries) number :=
        ⟨hjournal.journal, hjournal.found, hjournal.content⟩
      have hrecorded := hclocked.record h.held run.command run.outcome
      rw [List.append_assoc] at hrecorded
      exact ⟨number, hrecorded⟩
  | clear hclone =>
    -- a period ends; the journal stays, so its lines are now all of earlier periods
    refine ⟨earlier ++ [log.entries], log.clear, ?_, ?_, ?_⟩
    · rw [cleared, h.held]
      rfl
    · rw [periods_clear, h.split]
      rfl
    · intro p hp
      obtain ⟨number, hjournal⟩ := h.journal p hp
      have hentries : (earlier ++ [log.entries]).flatten ++ log.clear.entries =
          earlier.flatten ++ log.entries := by
        simp [CaptureLog.clear]
      rw [hentries]
      exact ⟨number, hjournal.journal, hjournal.found, hjournal.content⟩
  | clone hclone =>
    refine ⟨earlier, log, h.held, ?_, h.journal⟩
    rw [periods_clone]
    exact h.split

theorem Step.reply {s s' : Shared} {e : Event} {run : Run} (hstep : Step s e s')
    (hcall : e.call = .record run) :
    ∃ log, s.world.log = some log ∧ e.reply = .number log.entries.length := by
  cases hstep with
  | record run' hclone hlog => exact ⟨_, hlog, rfl⟩
  | clear hclone => cases hcall
  | clone hclone => cases hcall

/-! ## All calls -/

theorem Reaches.holds {path : Option String} {w : World} {events : List Event} {s : Shared}
    (hopened : Opened w path) (h : Reaches ⟨w, 1⟩ events s) :
    ∃ earlier log, Holds path (events.map (·.call)) s earlier log := by
  induction h with
  | start =>
    obtain ⟨log, hholds⟩ := holds_opened hopened
    exact ⟨[], log, hholds⟩
  | step _ hstep ih =>
    obtain ⟨earlier, log, hholds⟩ := ih
    rw [List.map_append]
    exact hstep.holds hholds

/-- Each of the calls was made in the state that those before it led to. -/
theorem Reaches.before {start s : Shared} {events : List Event} (h : Reaches start events s)
    {before after : List Event} {e : Event} (hevents : events = before ++ e :: after) :
    ∃ s₁ s₂, Reaches start before s₁ ∧ Step s₁ e s₂ := by
  induction h generalizing after with
  | start => simp at hevents
  | step hreaches hstep ih =>
    -- the last call is the one that is looked for, or comes after it
    rcases List.eq_nil_or_concat after with rfl | ⟨after, last, rfl⟩
    · obtain ⟨rfl, hlast⟩ := List.append_inj' hevents rfl
      cases hlast
      exact ⟨_, _, hreaches, hstep⟩
    · rw [List.concat_eq_append, ← List.cons_append, ← List.append_assoc] at hevents
      exact ih (List.append_inj' hevents rfl).1

/-- However clones of a log record, clear and clone, the log can always be accounted for. -/
theorem exists_account {w : World} {path : Option String} {events : List Event} {s : Shared}
    (hopened : Opened w path) (h : Reaches ⟨w, 1⟩ events s) :
    ∃ earlier log, Account ⟨w, 1⟩ path events s earlier log := by
  obtain ⟨earlier, log, hholds⟩ := h.holds hopened
  have hlast : log.entries ∈ periods (events.map (·.call)) := by
    rw [hholds.split]
    simp
  refine ⟨earlier, log, hholds.held, hholds.split, seq_of_mem_periods hlast, ?_, ?_, ?_⟩
  · rw [← runs_of_periods, hholds.split]
    simp
  · intro before e after run hevents hcall
    obtain ⟨s₁, s₂, hbefore, hstep⟩ := h.before hevents
    obtain ⟨log', hlog', hreply⟩ := hstep.reply hcall
    exact ⟨s₁, log', hbefore, hlog', hreply⟩
  · intro p hp
    obtain ⟨number, hjournal⟩ := hholds.journal p hp
    exact ⟨_, hjournal.read, CaptureLog.keptLines_journalText _⟩

/-! ## Two clones and a clear -/

/-- A run that the device was not there for. -/
def lostRun (program : String) : Run :=
  ⟨.yearsEnd, ⟨program, []⟩, .spawnFailed "lost"⟩

/-- A log and its clone record a run each, and after a clear one more is recorded. -/
def clearedEvents : List Event :=
  [⟨0, .clone, .clone 1⟩, ⟨0, .record (lostRun "a"), .number 0⟩,
    ⟨1, .record (lostRun "b"), .number 1⟩, ⟨0, .clear, .cleared⟩,
    ⟨1, .record (lostRun "c"), .number 0⟩]

/-- A world with a log that is kept in a journal. -/
def journaledWorld : World :=
  { World.of (Files.empty.withFile "log.jsonl" []) (fun _ _ _ => .ran [] [] (.exited 0)) .yearsEnd with
    log := some (.empty true)
    journal := some ⟨0, 0⟩ }

theorem opened_journaledWorld : Opened journaledWorld (some "log.jsonl") :=
  .journaled (w := .of .empty (fun _ _ _ => .ran [] [] (.exited 0)) .yearsEnd) rfl

/-- The account of a log that two clones shared and one of them cleared: the journal holds three lines, and
the entries are those of the last one. -/
theorem exists_account_cleared :
    Opened journaledWorld (some "log.jsonl") ∧
      ∃ s, Reaches ⟨journaledWorld, 1⟩ clearedEvents s ∧
        ∃ earlier log, Account ⟨journaledWorld, 1⟩ (some "log.jsonl") clearedEvents s earlier log ∧
          log.entries = [entry 0 (lostRun "c")] ∧
          earlier = [[entry 0 (lostRun "a"), entry 1 (lostRun "b")]] := by
  have hreaches : ∃ s, Reaches ⟨journaledWorld, 1⟩ clearedEvents s := by
    let w₁ := recorded journaledWorld (lostRun "a")
    let w₂ := recorded w₁ (lostRun "b")
    have hcloned : Step ⟨journaledWorld, 1⟩ ⟨0, .clone, .clone 1⟩ ⟨journaledWorld, 2⟩ :=
      .clone (by decide)
    have hfirst : Step ⟨journaledWorld, 2⟩ ⟨0, .record (lostRun "a"), .number 0⟩ ⟨w₁, 2⟩ :=
      .record (s := ⟨journaledWorld, 2⟩) (lostRun "a") (by decide) rfl
    have hsecond : Step ⟨w₁, 2⟩ ⟨1, .record (lostRun "b"), .number 1⟩ ⟨w₂, 2⟩ :=
      .record (s := ⟨w₁, 2⟩) (lostRun "b") (by decide) rfl
    have hcleared : Step ⟨w₂, 2⟩ ⟨0, .clear, .cleared⟩ ⟨cleared w₂, 2⟩ :=
      .clear (s := ⟨w₂, 2⟩) (by decide)
    have hthird : Step ⟨cleared w₂, 2⟩ ⟨1, .record (lostRun "c"), .number 0⟩ _ :=
      .record (s := ⟨cleared w₂, 2⟩) (lostRun "c") (by decide) rfl
    exact ⟨_, .step (.step (.step (.step (.step .start hcloned) hfirst) hsecond) hcleared) hthird⟩
  obtain ⟨s, hreaches⟩ := hreaches
  obtain ⟨earlier, log, haccount⟩ := exists_account opened_journaledWorld hreaches
  have hsplit : [[entry 0 (lostRun "a"), entry 1 (lostRun "b")]] ++ [[entry 0 (lostRun "c")]] =
      earlier ++ [log.entries] := haccount.split
  obtain ⟨hearlier, hentries⟩ := List.append_inj' hsplit rfl
  exact ⟨opened_journaledWorld, s, hreaches, earlier, log, haccount, by simpa using hentries.symm,
    hearlier.symm⟩

end DeviceBench.Sharing

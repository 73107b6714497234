/-
What a transcript tells. Every entry is one line of it, also where arguments hold line breaks, and the
line tells the number of the entry, how the run ended and the command line. The last is the hard part:
arguments are shown as they are or quoted, so that a reader has to see which. The first character shows it,
as long as no argument that is shown as it is begins with a quote; a quoted argument then ends by itself,
and any other at the next blank.
-/
import DeviceBench.Capture.Log
import DeviceBench.Proofs.Text.Digits
import DeviceBench.Proofs.Text.Lines
import DeviceBench.Proofs.Text.Quoted
import DeviceBench.Proofs.World.Runs

namespace DeviceBench

open Text

/-! ## Telling lists apart -/

theorem append_inj_of_mark {mark : Char} {u v x y : List Char} (hu : mark ∉ u) (hv : mark ∉ v)
    (h : u ++ mark :: x = v ++ mark :: y) : u = v ∧ x = y := by
  have hsplit := splitFirst?_append hu x
  rw [h, splitFirst?_append hv] at hsplit
  cases hsplit
  exact ⟨rfl, rfl⟩

/-- Words without blanks end at the blanks after them. -/
theorem append_inj_of_blank {u v x y : List Char} {b d : Char} (hu : ∀ c ∈ u, isBlank c = false)
    (hv : ∀ c ∈ v, isBlank c = false) (hb : isBlank b = true) (hd : isBlank d = true)
    (h : u ++ b :: x = v ++ d :: y) : u = v ∧ b :: x = d :: y := by
  induction u generalizing v with
  | nil =>
    cases v with
    | nil => exact ⟨rfl, h⟩
    | cons c v =>
      obtain ⟨rfl, -⟩ := List.cons.inj h
      rw [hv b List.mem_cons_self] at hb
      cases hb
  | cons c u ih =>
    obtain ⟨hc, hu⟩ := List.forall_mem_cons.1 hu
    cases v with
    | nil =>
      obtain ⟨rfl, -⟩ := List.cons.inj h
      rw [hc] at hd
      cases hd
    | cons c' v =>
      obtain ⟨rfl, hrest⟩ := List.cons.inj h
      obtain ⟨rfl, hxy⟩ := ih hu (List.forall_mem_cons.1 hv).2 hrest
      exact ⟨rfl, hxy⟩

/-- Lists of which one image is the same, item by item, have any other image that it tells. -/
theorem map_eq_map_of_inj {α β γ : Type} {f : α → β} {g : α → γ} {as bs : List α}
    (hinj : ∀ a ∈ as, ∀ b ∈ bs, f a = f b → g a = g b) (h : as.map f = bs.map f) :
    as.map g = bs.map g := by
  induction as generalizing bs with
  | nil =>
    cases bs with
    | nil => rfl
    | cons b bs => cases h
  | cons a as ih =>
    cases bs with
    | nil => cases h
    | cons b bs =>
      obtain ⟨hfirst, hrest⟩ := List.cons.inj h
      have hmore := ih (fun a ha b hb => hinj a (List.mem_cons_of_mem _ ha) b (List.mem_cons_of_mem _ hb))
        hrest
      rw [List.map_cons, List.map_cons, hmore,
        hinj a List.mem_cons_self b List.mem_cons_self hfirst]

/-! ## Command lines -/

namespace CommandLine

/-- An argument that can be told from its text: it is shown quoted, since it is empty or holds a blank, or does
not begin with a quote. -/
def LegibleArg (arg : String) : Prop :=
  arg = "" ∨ (∃ c ∈ arg.toList, isBlank c = true) ∨ arg.toList.head? ≠ some '"'

instance (arg : String) : Decidable (LegibleArg arg) :=
  decidable_of_iff (arg = "" ∨ arg.toList.any isBlank ∨ arg.toList.head? ≠ some '"')
    (by simp [LegibleArg])

/-- A command line that can be told from its text. -/
structure Legible (c : CommandLine) : Prop where
  program : ∀ ch ∈ c.program.toList, isBlank ch = false
  args : ∀ arg ∈ c.args, LegibleArg arg

instance (c : CommandLine) : Decidable c.Legible :=
  decidable_of_iff (c.program.toList.any isBlank = false ∧ ∀ arg ∈ c.args, LegibleArg arg)
    ⟨fun ⟨hprogram, hargs⟩ => ⟨by simpa using hprogram, hargs⟩,
      fun h => ⟨by simpa using h.program, h.args⟩⟩

/-- An argument is shown quoted, or else it is not empty, holds no blank and is shown as it is. -/
theorem shownArg_cases (arg : String) :
    shownArg arg = (quote arg).toList ∨
      shownArg arg = arg.toList ∧ arg ≠ "" ∧ ∀ c ∈ arg.toList, isBlank c = false := by
  unfold shownArg
  split
  · exact .inl rfl
  · rename_i hraw
    right
    simpa using hraw

/-- What is shown as it is does not begin like what is quoted. -/
theorem quote_append_ne {arg other : String} (h : LegibleArg arg) (hne : arg ≠ "")
    (hblank : ∀ c ∈ arg.toList, isBlank c = false) (x y : List Char) :
    (quote other).toList ++ x ≠ arg.toList ++ y := by
  intro heq
  rcases h with hempty | ⟨c, hc, hb⟩ | hquote
  · exact hne hempty
  · rw [hblank c hc] at hb
    cases hb
  · cases harg : arg.toList with
    | nil => exact hne (String.toList_injective harg)
    | cons c cs =>
      rw [toList_quote, harg] at heq
      obtain ⟨rfl, -⟩ := List.cons.inj heq
      exact hquote (by rw [harg]; rfl)

theorem shownArg_append_inj {arg other : String} (harg : LegibleArg arg) (hother : LegibleArg other)
    {b d : Char} (hb : isBlank b = true) (hd : isBlank d = true) {x y : List Char}
    (h : shownArg arg ++ b :: x = shownArg other ++ d :: y) : arg = other ∧ b :: x = d :: y := by
  rcases shownArg_cases arg with hshown | ⟨hshown, hne, hblank⟩ <;>
    rcases shownArg_cases other with hshown' | ⟨hshown', hne', hblank'⟩ <;>
    rw [hshown, hshown'] at h
  · exact selfDelimiting_quote h
  · exact absurd h (quote_append_ne hother hne' hblank' _ _)
  · exact absurd h.symm (quote_append_ne harg hne hblank _ _)
  · obtain ⟨htext, hrest⟩ := append_inj_of_blank hblank hblank' hb hd h
    exact ⟨String.toList_injective htext, hrest⟩

/-- The arguments as a command line shows them. -/
def shownArgs (args : List String) : List Char := args.flatMap fun arg => ' ' :: shownArg arg

/-- After the arguments comes a blank, whether there is another one or the line ends. -/
theorem exists_blank_shownArgs (args : List String) (x : List Char) :
    ∃ b rest, shownArgs args ++ '\n' :: x = b :: rest ∧ isBlank b = true := by
  cases args with
  | nil => exact ⟨'\n', x, rfl, rfl⟩
  | cons arg args => exact ⟨' ', _, rfl, rfl⟩

theorem shownArgs_append_inj {args others : List String} (hargs : ∀ arg ∈ args, LegibleArg arg)
    (hothers : ∀ arg ∈ others, LegibleArg arg) {x y : List Char}
    (h : shownArgs args ++ '\n' :: x = shownArgs others ++ '\n' :: y) : args = others ∧ x = y := by
  induction args generalizing others with
  | nil =>
    cases others with
    | nil => exact ⟨rfl, (List.cons.inj h).2⟩
    | cons other others => exact absurd (List.cons.inj h).1 (by decide)
  | cons arg args ih =>
    cases others with
    | nil => exact absurd (List.cons.inj h).1 (by decide)
    | cons other others =>
      obtain ⟨harg, hargs'⟩ := List.forall_mem_cons.1 hargs
      obtain ⟨hother, hothers'⟩ := List.forall_mem_cons.1 hothers
      obtain ⟨b, rest, hrest, hb⟩ := exists_blank_shownArgs args x
      obtain ⟨d, rest', hrest', hd⟩ := exists_blank_shownArgs others y
      have hfirst : shownArg arg ++ b :: rest = shownArg other ++ d :: rest' := by
        rw [← hrest, ← hrest']
        simpa [shownArgs] using h
      obtain ⟨rfl, hmore⟩ := shownArg_append_inj harg hother hb hd hfirst
      rw [← hrest, ← hrest'] at hmore
      obtain ⟨rfl, hxy⟩ := ih hargs' hothers' hmore
      exact ⟨rfl, hxy⟩

theorem toList_display (c : CommandLine) :
    c.display.toList = c.program.toList ++ shownArgs c.args := by
  rw [display, String.toList_ofList]
  rfl

/-- Command lines are told apart by their texts. -/
theorem display_inj {c d : CommandLine} (hc : c.Legible) (hd : d.Legible)
    (h : c.display = d.display) : c = d := by
  obtain ⟨b, rest, hrest, hb⟩ := exists_blank_shownArgs c.args []
  obtain ⟨b', rest', hrest', hb'⟩ := exists_blank_shownArgs d.args []
  have hlines : c.program.toList ++ b :: rest = d.program.toList ++ b' :: rest' := by
    rw [← hrest, ← hrest', ← List.append_assoc, ← List.append_assoc, ← toList_display,
      ← toList_display, h]
  obtain ⟨hprogram, hmore⟩ := append_inj_of_blank hc.program hd.program hb hb' hlines
  rw [← hrest, ← hrest'] at hmore
  obtain ⟨hargs, -⟩ := shownArgs_append_inj hc.args hd.args hmore
  obtain ⟨program, args⟩ := c
  obtain ⟨program', args'⟩ := d
  cases String.toList_injective hprogram
  cases hargs
  rfl

-- an argument that begins with a quote can look like one that is quoted
example : (⟨"sh", [""]⟩ : CommandLine).display = (⟨"sh", ["\"\""]⟩ : CommandLine).display := by rfl

/-- The only blanks that a command line shows are spaces. -/
theorem eq_space_of_mem_display {c : CommandLine} (hc : c.Legible) {b : Char}
    (h : b ∈ c.display.toList) (hb : isBlank b = true) : b = ' ' := by
  rw [toList_display, List.mem_append, shownArgs, List.mem_flatMap] at h
  rcases h with h | ⟨arg, -, h⟩
  · rw [hc.program b h] at hb
    cases hb
  · rcases List.mem_cons.1 h with rfl | h
    · rfl
    · rcases shownArg_cases arg with hshown | ⟨hshown, -, hblank⟩
      · rw [hshown] at h
        exact eq_space_of_mem_quote h hb
      · rw [hshown] at h
        rw [hblank b h] at hb
        cases hb

end CommandLine

/-! ## Outcomes -/

namespace CaptureLog

theorem shownOutcome_eq (o : Outcome) :
    shownOutcome o = (o.code?.map fun code => toString code.toInt).getD "spawn failed" := by
  unfold shownOutcome
  cases o.code? <;> rfl

theorem bracket_not_mem_shownOutcome (o : Outcome) : ']' ∉ (shownOutcome o).toList := by
  rw [shownOutcome_eq]
  cases o.code? with
  | none => decide
  | some code =>
    intro h
    rcases mem_toString_int h with h | h <;> exact absurd h (by decide)

theorem eq_space_of_mem_shownOutcome {o : Outcome} {b : Char} (h : b ∈ (shownOutcome o).toList)
    (hb : isBlank b = true) : b = ' ' := by
  rw [shownOutcome_eq] at h
  cases hcode : o.code? with
  | none =>
    have hwords : ("spawn failed".toList.all fun c => !isBlank c || c == ' ') = true := rfl
    rw [hcode] at h
    simpa [hb] using List.all_eq_true.1 hwords b h
  | some code =>
    rw [hcode] at h
    rcases mem_toString_int h with rfl | hdigit
    · cases hb
    · rw [not_blank_of_digit hdigit] at hb
      cases hb

/-- How a run ended is told from how it is shown. -/
theorem code?_of_shownOutcome {o p : Outcome} (h : shownOutcome o = shownOutcome p) :
    o.code? = p.code? := by
  have hwords (n : Int) : toString n ≠ "spawn failed" := by
    intro hn
    have hfirst : 's' ∈ (toString n).toList := by
      rw [hn]
      exact List.mem_cons_self
    rcases mem_toString_int hfirst with h | h <;> exact absurd h (by decide)
  rw [shownOutcome_eq, shownOutcome_eq] at h
  cases hcode : o.code? <;> cases hcode' : p.code? <;> rw [hcode, hcode'] at h
  case none.some => exact absurd h.symm (hwords _)
  case some.none => exact absurd h (hwords _)
  case some.some => rw [Int32.toInt_inj.1 (toString_int_injective h)]

end CaptureLog

/-! ## Lines of a transcript -/

namespace Entry

/-- What a transcript tells of an entry. -/
def told (e : Entry) : Nat × Option Int32 × CommandLine := (e.seq, e.outcome.code?, e.command)

/-- The line of an entry, without its line feed. -/
def line (e : Entry) : String := s!"#{e.seq} " ++ CaptureLog.shownRun e

theorem toList_line (e : Entry) :
    e.line.toList = '#' :: ((toString e.seq).toList ++ ' ' :: '[' ::
      ((CaptureLog.shownOutcome e.outcome).toList ++ ']' :: ' ' :: e.command.display.toList)) := by
  have hmark : (toString "#").toList = ['#'] := rfl
  have hspace : (toString " ").toList = [' '] := rfl
  simp [line, CaptureLog.shownRun, hmark, hspace]

theorem told_of_line {e f : Entry} (he : e.command.Legible) (hf : f.command.Legible)
    (h : e.line = f.line) : e.told = f.told := by
  have hspace (n : Nat) : ' ' ∉ (toString n).toList :=
    fun hmem => absurd (digits_toString n ' ' hmem) (by decide)
  have hlines := congrArg String.toList h
  rw [toList_line, toList_line] at hlines
  obtain ⟨hseq, hrest⟩ := append_inj_of_mark (hspace _) (hspace _) (List.cons.inj hlines).2
  obtain ⟨houtcome, hcommand⟩ := append_inj_of_mark (CaptureLog.bracket_not_mem_shownOutcome _)
    (CaptureLog.bracket_not_mem_shownOutcome _) (List.cons.inj hrest).2
  have hdisplay := String.toList_injective (List.cons.inj hcommand).2
  rw [told, told, toString_nat_injective (String.toList_injective hseq),
    CaptureLog.code?_of_shownOutcome (String.toList_injective houtcome),
    CommandLine.display_inj he hf hdisplay]

theorem line_of_told {e f : Entry} (h : e.told = f.told) : e.line = f.line := by
  simp only [told, Prod.mk.injEq] at h
  obtain ⟨hseq, hcode, hcommand⟩ := h
  rw [line, line, CaptureLog.shownRun, CaptureLog.shownRun, CaptureLog.shownOutcome_eq,
    CaptureLog.shownOutcome_eq, hseq, hcode, hcommand]

/-- The only blanks in the line of an entry are spaces. -/
theorem eq_space_of_mem_line {e : Entry} (he : e.command.Legible) {b : Char}
    (h : b ∈ e.line.toList) (hb : isBlank b = true) : b = ' ' := by
  rw [toList_line] at h
  simp only [List.mem_cons, List.mem_append] at h
  rcases h with rfl | h | rfl | rfl | h | rfl | rfl | h
  · cases hb
  · rw [not_blank_of_digit (digits_toString _ b h)] at hb
    cases hb
  · rfl
  · cases hb
  · exact CaptureLog.eq_space_of_mem_shownOutcome h hb
  · cases hb
  · rfl
  · exact CommandLine.eq_space_of_mem_display he h hb

end Entry

/-! ## Whole transcripts -/

namespace CaptureLog

/-- A log of which every command line can be told from its text. -/
def Legible (log : CaptureLog) : Prop := ∀ e ∈ log.entries, e.command.Legible

instance (log : CaptureLog) : Decidable log.Legible :=
  inferInstanceAs (Decidable (∀ e ∈ log.entries, e.command.Legible))

theorem toList_transcript (log : CaptureLog) :
    log.transcript.toList = (log.entries.map (·.line.toList)).flatMap (· ++ ['\n']) := by
  rw [transcript, String.toList_join, List.flatMap_map, List.flatMap_map]
  simp [Entry.line]

/-- Every entry is a line of its own. -/
theorem bareLines_transcript {log : CaptureLog} (h : log.Legible) :
    bareLines log.transcript = log.entries.map Entry.line := by
  have hlines : ∀ l ∈ log.entries.map (·.line.toList), '\n' ∉ l := by
    intro l hl hfeed
    obtain ⟨e, he, rfl⟩ := List.mem_map.1 hl
    exact absurd (Entry.eq_space_of_mem_line (h e he) hfeed rfl) (by decide)
  rw [bareLines, toList_transcript, keptLinesAfter_lines hlines, List.map_map, List.map_map]
  refine List.map_congr_left fun e _ => ?_
  simp [dropLineFeed_append]

/-- Logs have the same transcript exactly if it tells the same of their entries, one by one. -/
theorem transcript_eq_iff {log other : CaptureLog} (h : log.Legible) (hother : other.Legible) :
    log.transcript = other.transcript ↔
      log.entries.map Entry.told = other.entries.map Entry.told := by
  constructor
  · intro heq
    have hlines : log.entries.map Entry.line = other.entries.map Entry.line := by
      rw [← bareLines_transcript h, heq, bareLines_transcript hother]
    exact map_eq_map_of_inj (fun e he f hf => Entry.told_of_line (h e he) (hother f hf)) hlines
  · intro heq
    have hlines : log.entries.map Entry.line = other.entries.map Entry.line :=
      map_eq_map_of_inj (fun e _ f _ => Entry.line_of_told) heq
    apply String.toList_injective
    have hlists := congrArg (List.map String.toList) hlines
    rw [List.map_map, List.map_map] at hlists
    rw [toList_transcript, toList_transcript]
    exact congrArg (List.flatMap (· ++ ['\n'])) hlists

/-- Of command lines whose programs hold no blank, and whose arguments are quoted or do not begin with a quote, a
transcript tells everything: two logs have the same transcript exactly if their entries have the same
numbers, outcomes and command lines in order; there is one line for each entry, without any other line break in
it; and a command line is told from its text. -/
theorem transcript_account :
    (∀ log other : CaptureLog, log.Legible → other.Legible →
      (log.transcript = other.transcript ↔
        log.entries.map Entry.told = other.entries.map Entry.told)) ∧
    (∀ log : CaptureLog, log.Legible → bareLines log.transcript = log.entries.map Entry.line ∧
      ∀ line ∈ bareLines log.transcript, ∀ c ∈ line.toList, isBlank c = true → c = ' ') ∧
    ∀ c d : CommandLine, c.Legible → d.Legible → c.display = d.display → c = d := by
  refine ⟨fun _ _ => transcript_eq_iff, ?_, fun _ _ => CommandLine.display_inj⟩
  intro log h
  refine ⟨bareLines_transcript h, ?_⟩
  intro line hline c hc hblank
  rw [bareLines_transcript h] at hline
  obtain ⟨e, he, rfl⟩ := List.mem_map.1 hline
  exact Entry.eq_space_of_mem_line (h e he) hc hblank

/-- A log of a shell that was killed and one that could not be started. The command text of the first holds a
line break and quotes. -/
def shellLog (args : List String) : CaptureLog :=
  let time := ClockReading.yearsEnd.time
  ⟨[⟨0, time, 0, ⟨"sh", ["-c", "echo \"a\nb\"", ""]⟩, .completed (-9) [] []⟩,
    ⟨1, time, 5, ⟨"sh", args⟩, .spawnFailed "lost"⟩], none⟩

/-- One argument with a space and two arguments without one have transcripts of their own, of two lines each. -/
theorem transcript_account_quoted :
    (shellLog ["a b"]).Legible ∧ (shellLog ["a", "b"]).Legible ∧
      (shellLog ["a b"]).transcript ≠ (shellLog ["a", "b"]).transcript ∧
      bareLines (shellLog ["a b"]).transcript =
        ["#0 [-9] sh -c \"echo \\\"a\\nb\\\"\" \"\"", "#1 [spawn failed] sh \"a b\""] := by
  have hspaced : (shellLog ["a b"]).Legible := by decide +kernel
  have hapart : (shellLog ["a", "b"]).Legible := by decide +kernel
  obtain ⟨hsame, hlines, -⟩ := transcript_account
  refine ⟨hspaced, hapart, ?_, ?_⟩
  · rw [Ne, hsame _ _ hspaced hapart]
    decide
  · rw [(hlines _ hspaced).1]
    decide +kernel

end CaptureLog

end DeviceBench

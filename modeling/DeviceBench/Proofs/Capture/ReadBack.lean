/-
Entries are read back. The text of an entry is one line of JSON that says everything of the entry, so the
lines of a journal give back what was recorded, entry by entry.
-/
import DeviceBench.Proofs.Capture.Sharing
import DeviceBench.Proofs.Json.ReadBack
import DeviceBench.Proofs.Time.Stamps

namespace DeviceBench

/-! ## Members -/

namespace Json

theorem filter_fields {named : List (String × Json)} (h : (named.map (·.1)).Nodup)
    {name : String} {v : Json} (hmem : (name, v) ∈ named) :
    (named.map fun (name, value) => (some name, value)).filter (·.1 == some name) = [(some name, v)] := by
  induction named with
  | nil => cases hmem
  | cons f named ih =>
    obtain ⟨hfirst, hothers⟩ := List.nodup_cons.1 h
    rcases List.mem_cons.1 hmem with rfl | hmem
    · have hnone : (named.map fun (name, value) => (some name, value)).filter (·.1 == some name) = [] := by
        rw [List.filter_eq_nil_iff]
        intro f hf hname
        obtain ⟨g, hg, rfl⟩ := List.mem_map.1 hf
        have hsame : g.1 = name := by simpa using hname
        exact hfirst (List.mem_map.2 ⟨g, hg, hsame⟩)
      rw [List.map_cons, List.filter_cons_of_pos (by simp), hnone]
    · have hne : f.1 ≠ name := by
        rintro rfl
        exact hfirst (List.mem_map.2 ⟨_, hmem, rfl⟩)
      rw [List.map_cons, List.filter_cons_of_neg (by simpa using hne), ih hothers hmem]

theorem mapM_map_eq_some {α β γ : Type} {f : α → Option β} {g : γ → α} {g' : γ → β} {xs : List γ}
    (h : ∀ x ∈ xs, f (g x) = some (g' x)) : (xs.map g).mapM f = some (xs.map g') := by
  induction xs with
  | nil => rfl
  | cons x xs ih =>
    obtain ⟨hx, hxs⟩ := List.forall_mem_cons.1 h
    rw [List.map_cons, List.mapM_cons, hx, ih hxs]
    rfl

/-- A record has the values of its names. -/
theorem members?_fields {named : List (String × Json)} (h : (named.map (·.1)).Nodup) :
    (fields named).members? (named.map (·.1)) = some (named.map (·.2)) := by
  have hnames : ¬(named.map fun (name, value) => ((some name, value) : Option String × Json)).any
      (·.1.isNone) := by
    simp
  rw [fields, members?, if_neg hnames]
  refine mapM_map_eq_some fun (name, v) hmem => ?_
  rw [filter_fields h hmem]

theorem texts?_texts (items : List String) : (texts items).texts? = some items := by
  have hitems : (items.map text).mapM text? = some (items.map id) := mapM_map_eq_some fun _ _ => rfl
  rwa [List.map_id] at hitems

theorem word?_integer {n : Nat} (h : n ≤ Text.maxWord) : (integer n).word? = some n :=
  if_pos ⟨Int.natCast_nonneg n, Int.ofNat_le.2 h⟩

theorem code?_integer (code : Int32) : (integer code.toInt).code? = some code := by
  have hlow : -2147483648 ≤ code.toInt := code.le_toInt
  have hhigh : code.toInt ≤ 2147483647 := code.toInt_le
  rw [code?, if_pos ⟨hlow, hhigh⟩, Int32.ofInt_toInt]

theorem isPlain_texts (items : List String) : (texts items).isPlain = true := by
  rw [texts, isPlain]
  induction items with
  | nil => rfl
  | cons s items ih => exact ih

theorem depth_texts (items : List String) : (texts items).depth = 1 := by
  have hitems : depthOfItems (items.map .text) = 0 := by
    induction items with
    | nil => rfl
    | cons s items ih => rw [List.map_cons, depthOfItems, ih]; rfl
  rw [texts, depth, hitems]

end Json

/-! ## Parts of an entry -/

theorem CommandLine.ofJson?_toJson (c : CommandLine) : ofJson? c.toJson = some c := by
  have hmembers : c.toJson.members? ["program", "args"] = some [.text c.program, Json.texts c.args] :=
    Json.members?_fields (show ["program", "args"].Nodup by decide)
  rw [ofJson?, hmembers]
  simp [Json.text?, Json.texts?_texts]

namespace Outcome

theorem ofMembers?_completed (code : Int32) (stdout stderr : List String) :
    ofMembers? "completed" (Json.fields [("code", .integer code.toInt), ("stdout", Json.texts stdout),
      ("stderr", Json.texts stderr)]) = some (.completed code stdout stderr) := by
  have hmembers : (Json.fields [("code", .integer code.toInt), ("stdout", Json.texts stdout),
      ("stderr", Json.texts stderr)]).members? ["code", "stdout", "stderr"] =
      some [.integer code.toInt, Json.texts stdout, Json.texts stderr] :=
    Json.members?_fields (show ["code", "stdout", "stderr"].Nodup by decide)
  rw [ofMembers?, if_pos rfl, hmembers]
  simp [Json.code?_integer, Json.texts?_texts]

theorem ofMembers?_spawnFailed (message : String) :
    ofMembers? "spawn_failed" (Json.fields [("message", .text message)]) =
      some (.spawnFailed message) := by
  have hmembers : (Json.fields [("message", .text message)]).members? ["message"] =
      some [.text message] := Json.members?_fields (show ["message"].Nodup by decide)
  rw [ofMembers?, if_neg (by decide), if_pos rfl, hmembers]
  rfl

theorem ofJson?_toJson (o : Outcome) : ofJson? o.toJson = some o := by
  cases o with
  | completed code stdout stderr =>
    have hplain : (toJson (.completed code stdout stderr)).isPlain = true := by
      simp [toJson, Json.fields, Json.isPlain, Json.fieldsArePlain, Json.isPlain_texts]
    have hdepth : (toJson (.completed code stdout stderr)).depth = 2 := by
      simp [toJson, Json.fields, Json.depth, Json.depthOfFields, Json.depth_texts]
    unfold ofJson?
    rw [hplain, hdepth]
    exact ofMembers?_completed code stdout stderr
  | spawnFailed message => exact ofMembers?_spawnFailed message

end Outcome

/-! ## Entries -/

theorem CommandLine.exact_toJson (c : CommandLine) : c.toJson.Exact :=
  Json.exact_fields ⟨.text _, Json.exact_texts _⟩

theorem Outcome.exact_toJson (o : Outcome) : o.toJson.Exact := by
  cases o with
  | completed code stdout stderr =>
    have hlow : -9223372036854775808 ≤ code.toInt := Int.le_trans (by decide) code.le_toInt
    have hhigh : code.toInt ≤ Text.maxWord := Int.le_trans code.toInt_le (by decide)
    exact Json.exact_fields
      ⟨.text _, .integer hlow hhigh, Json.exact_texts _, Json.exact_texts _⟩
  | spawnFailed message => exact Json.exact_fields ⟨.text _, .text _⟩

namespace Entry

/-- The numbers of an entry fit 64 bits. -/
structure Sized (e : Entry) : Prop where
  seq : e.seq ≤ Text.maxWord
  elapsed : e.elapsed ≤ Text.maxWord

theorem exact_toJson {e : Entry} (h : e.Sized) : e.toJson.Exact := by
  have hword {n : Nat} (hn : n ≤ Text.maxWord) : Json.Exact (.integer n) :=
    .integer (Int.le_trans (by decide) (Int.natCast_nonneg n)) (Int.ofNat_le.2 hn)
  exact Json.exact_fields
    ⟨hword h.seq, .text _, hword h.elapsed, e.command.exact_toJson, e.outcome.exact_toJson⟩

theorem ofJson?_toJson {e : Entry} (h : e.Sized) : ofJson? e.toJson = some e := by
  have hmembers : e.toJson.members? ["seq", "timestamp", "elapsed_ms", "command", "outcome"] =
      some [.integer e.seq, .text (Stamp.write e.time), .integer e.elapsed, e.command.toJson,
        e.outcome.toJson] :=
    Json.members?_fields (show ["seq", "timestamp", "elapsed_ms", "command", "outcome"].Nodup by decide)
  rw [ofJson?, hmembers]
  simp [Json.text?, Json.word?_integer h.seq, Json.word?_integer h.elapsed, Stamp.read?_write,
    CommandLine.ofJson?_toJson, Outcome.ofJson?_toJson]

theorem ofText?_toText {e : Entry} (h : e.Sized) : ofText? e.toText = some e := by
  rw [ofText?, toText, Json.parse?_toText (exact_toJson h)]
  exact ofJson?_toJson h

theorem oneLine_toText (e : Entry) : Text.OneLine e.toText.toList := by
  refine ⟨Json.not_mem_toText e.toJson, ?_⟩
  rw [toText, Json.toText, String.toList_ofList]
  intro hreturn
  exact absurd (Json.printable_write e.toJson '\r' hreturn) (by decide)

end Entry

/-! ## Journals -/

theorem CaptureLog.splitOn_journalText (entries : List Entry) :
    (journalText entries).toList.splitOn '\n' = (entries.map fun e => e.toText.toList) ++ [[]] := by
  rw [toList_journalText, splitOn_ended (unbroken_lines entries)]

namespace Sharing

/-- The numbers that calls bring into the log fit 64 bits. -/
structure Sized (events : List Event) : Prop where
  length : events.length ≤ Text.maxWord
  elapsed : ∀ run ∈ (events.map (·.call)).filterMap Call.run?, run.clock.elapsed ≤ Text.maxWord

theorem Sized.entry {events : List Event} (h : Sized events) {e : Entry}
    (he : e ∈ (periods (events.map (·.call))).flatten) : e.Sized := by
  have hruns := runs_of_periods (events.map (·.call))
  constructor
  · obtain ⟨period, hperiod, hmem⟩ := List.mem_flatten.1 he
    obtain ⟨i, hi, rfl⟩ := List.getElem_of_mem hmem
    have hseq : period[i].seq = i := seq_of_mem_periods hperiod i hi
    have hlength : (periods (events.map (·.call))).flatten.length ≤ events.length := by
      rw [← List.length_map runOf, hruns]
      exact Nat.le_trans (List.length_filterMap_le _ _) (List.length_map _).le
    have hperiod : period.length ≤ (periods (events.map (·.call))).flatten.length :=
      (List.sublist_flatten_of_mem hperiod).length_le
    have hlimit := h.length
    omega
  · refine h.elapsed (runOf e) ?_
    rw [← hruns]
    exact List.mem_map_of_mem he

/-- The text of an entry is one line that the entry can be read from; so the lines of a journal, cut at the
line feeds and read one by one, are the entries that were ever recorded, in the order of recording. -/
theorem journal_read :
    (∀ e : Entry, Text.OneLine e.toText.toList ∧ (e.Sized → Entry.ofText? e.toText = some e)) ∧
      ∀ {w : World} {path : String} {events : List Event} {s : Shared},
        Opened w (some path) → Reaches ⟨w, 1⟩ events s → Sized events →
          ∃ earlier log text lines, s.world.log = some log ∧
            periods (events.map (·.call)) = earlier ++ [log.entries] ∧
            s.world.files.readText path = .ok text ∧ text.toList.splitOn '\n' = lines ++ [[]] ∧
            lines.map (fun line => Entry.ofText? (String.ofList line)) =
              (earlier.flatten ++ log.entries).map some := by
  refine ⟨fun e => ⟨e.oneLine_toText, Entry.ofText?_toText⟩, ?_⟩
  intro w path events s hopened hreaches hsized
  obtain ⟨earlier, log, hholds⟩ := hreaches.holds hopened
  obtain ⟨number, hjournal⟩ := hholds.journal path rfl
  have hentries : (periods (events.map (·.call))).flatten = earlier.flatten ++ log.entries := by
    rw [hholds.split]
    simp
  have hread : ∀ e ∈ earlier.flatten ++ log.entries,
      Entry.ofText? (String.ofList e.toText.toList) = some e := by
    intro e he
    rw [← hentries] at he
    rw [String.ofList_toList, Entry.ofText?_toText (hsized.entry he)]
  refine ⟨earlier, log, CaptureLog.journalText (earlier.flatten ++ log.entries),
    (earlier.flatten ++ log.entries).map fun e => e.toText.toList, hholds.held, hholds.split,
    hjournal.read, CaptureLog.splitOn_journalText _, ?_⟩
  simp only [List.map_map, List.map_inj_left, Function.comp_apply]
  exact hread

/-! ## A run that is hard to write -/

/-- The middle of a leap second at the end of the year. -/
def leapSecond : Moment :=
  { ClockReading.yearsEnd.time with nano := 1500000000, nano_lt := by decide, leap := by decide }

/-- Quotes, backslashes, controls and line breaks, a negative code, and a clock at its limit. -/
def rareRun : Run :=
  ⟨⟨leapSecond, Text.maxWord⟩, ⟨"\"\\", ["", "\x00\x1f\x7f", "\r\n\u2028"]⟩,
    .completed (-2147483648) ["\x1b[0m"] ["\"type\":\"completed\""]⟩

/-- The run that is hard to write is recorded, and then an ordinary one. -/
def rareEvents : List Event := [⟨0, .record rareRun, .number 0⟩, ⟨0, .record (lostRun "a"), .number 1⟩]

theorem reaches_rareEvents : ∃ s, Reaches ⟨journaledWorld, 1⟩ rareEvents s := by
  have hfirst : Step ⟨journaledWorld, 1⟩ ⟨0, .record rareRun, .number 0⟩
      ⟨recorded journaledWorld rareRun, 1⟩ :=
    .record (s := ⟨journaledWorld, 1⟩) rareRun (by decide) rfl
  have hsecond : Step ⟨recorded journaledWorld rareRun, 1⟩ ⟨0, .record (lostRun "a"), .number 1⟩ _ :=
    .record (s := ⟨recorded journaledWorld rareRun, 1⟩) (lostRun "a") (by decide) rfl
  exact ⟨_, .step (.step .start hfirst) hsecond⟩

/-- Both entries are read from the journal, and each from its own line. -/
theorem journal_read_rare :
    Sized rareEvents ∧ (entry 0 rareRun).Sized ∧
      Entry.ofText? (entry 0 rareRun).toText = some (entry 0 rareRun) ∧
      ∃ s, Reaches ⟨journaledWorld, 1⟩ rareEvents s ∧
        ∃ text lines, s.world.files.readText "log.jsonl" = .ok text ∧
          text.toList.splitOn '\n' = lines ++ [[]] ∧
          lines.map (fun line => Entry.ofText? (String.ofList line)) =
            [some (entry 0 rareRun), some (entry 1 (lostRun "a"))] := by
  have hevents : Sized rareEvents := by
    refine ⟨by decide, ?_⟩
    simp [rareEvents, Call.run?, rareRun, lostRun, ClockReading.yearsEnd, Text.maxWord]
  have hentry : (entry 0 rareRun).Sized := ⟨by decide, by decide⟩
  obtain ⟨s, hreaches⟩ := reaches_rareEvents
  obtain ⟨earlier, log, text, lines, -, hsplit, htext, hlines, hread⟩ :=
    journal_read.2 opened_journaledWorld hreaches hevents
  have hperiods : [] ++ [[entry 0 rareRun, entry 1 (lostRun "a")]] = earlier ++ [log.entries] := hsplit
  obtain ⟨rfl, hentries⟩ := List.append_inj' hperiods rfl
  have hentries : log.entries = [entry 0 rareRun, entry 1 (lostRun "a")] := by simpa using hentries.symm
  rw [hentries] at hread
  exact ⟨hevents, hentry, (journal_read.1 (entry 0 rareRun)).2 hentry, s, hreaches, text, lines, htext,
    hlines, hread⟩

end Sharing

end DeviceBench

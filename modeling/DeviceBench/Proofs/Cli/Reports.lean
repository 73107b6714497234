/-
Codes of reports. A request that is carried out ends with 0 or 1, whatever comes of it, and 2 is left for
a command line that makes no request. So the code tells a command line that is refused from one that is
carried out, and the message tells a missing value from every other fault.
-/
import DeviceBench.Cli.Program
import DeviceBench.Proofs.World.Runs

namespace DeviceBench.Cli

/-! ## Requests -/

namespace Report

/-- The code of a request that is carried out. -/
def Served (r : Report) : Prop := r.code = 0 ∨ r.code = 1

theorem served_success (stdout : String) : (success stdout).Served := .inl rfl

theorem served_error (message : String) (cause : Option OsError) : (error message cause).Served := .inr rfl

theorem served_ofFailure (f : Failure) : (ofFailure f).Served := served_error _ _

end Report

open Report

/-- Every report that an action comes to is that of a request that is carried out. -/
def Serves (action : Action Report) : Prop :=
  ∀ (w : World) (report : Report), (action.run.run w).1 = .ok report → report.Served

theorem Serves.pure {report : Report} (h : report.Served) : Serves (pure report) := by
  rintro _ _ ⟨rfl⟩
  exact h

theorem Serves.bind {α : Type} (action : Action α) {next : α → Action Report}
    (h : ∀ a, Serves (next a)) : Serves (action >>= next) := by
  intro w report hreport
  rw [Action.run_bind] at hreport
  rcases hrun : action.run.run w with ⟨_ | a, w'⟩
  · rw [hrun] at hreport
    cases hreport
  · rw [hrun] at hreport
    exact h a w' report hreport

theorem serves_snoopAction (csv : String) (d : Duration) (analyse : Bool) (column : Nat) (c : Config) :
    Serves (snoopAction csv d analyse column c) := by
  refine .bind _ fun _ => ?_
  cases analyse with
  | false => exact .pure (served_success _)
  | true => exact .bind _ fun _ => .pure (served_success _)

theorem serves_scenarioAction (c : Config) (steps : List Scenario.Step) :
    Serves (scenarioAction c steps) := by
  refine .bind _ fun result => ?_
  cases result with
  | ok _ => exact .pure (served_success _)
  | error f => exact .bind _ fun _ => .pure (.inr rfl)

theorem served_onDevice {action : Config → Action Report} (h : ∀ c, Serves (action c))
    (env : Environment) (r : Request) (w : World) : (onDevice env r action w).1.Served := by
  unfold onDevice
  split
  · exact served_ofFailure _
  · split
    · dsimp only
      exact served_error _ _
    · split
      next hrun => exact h _ _ _ (congrArg Prod.fst hrun)
      next => exact served_ofFailure _

theorem served_reading {result : Except Failure Report}
    (h : ∀ report, result = .ok report → report.Served) (w : World) : (reading result w).1.Served := by
  cases result with
  | ok report => exact h report rfl
  | error f => exact served_ofFailure f

theorem served_frequencyReport {files : Files} {csv : String} {column : Nat} {quiet : Bool}
    (report : Report) (h : frequencyReport files csv column quiet = .ok report) : report.Served := by
  obtain ⟨table, -, hreport⟩ := bind_eq_ok_iff.1 h
  cases hreport
  exact served_success _

theorem served_bitsReport {mask : String} {width : Nat} (report : Report)
    (h : bitsReport mask width = .ok report) : report.Served := by
  obtain ⟨selector, -, hreport⟩ := bind_eq_ok_iff.1 h
  cases hreport
  exact served_success _

theorem served_compareReport {files : Files} {config : Option String} {current expected : String}
    {exclude : Option String} (report : Report)
    (h : compareReport files config current expected exclude = .ok report) : report.Served := by
  obtain ⟨rules, -, hreport⟩ := bind_eq_ok_iff.1 h
  split at hreport <;> cases hreport
  · exact served_success _
  · exact .inr rfl

/-- Whatever a request asks for and whatever comes of it, the code is 0 or 1. -/
theorem served_perform (env : Environment) (r : Request) (w : World) : (perform env r w).1.Served := by
  unfold perform
  cases r.command with
  | frequency csv column quiet => exact served_reading served_frequencyReport w
  | compare current expected exclude => exact served_reading served_compareReport w
  | bits mask width => exact served_reading served_bitsReport w
  | snoop csv d analyse column => exact served_onDevice (serves_snoopAction csv d analyse column) env r w
  | scenario name layout addressing =>
    exact served_onDevice (fun c => serves_scenarioAction c _) env r w

/-! ## Faults -/

/-- A command line is refused with the code 2, which nothing else ends with. -/
theorem run_code_eq_two_iff (env : Environment) (words : List String) (w : World) :
    (run env words w).1.code = 2 ↔
      ∃ fault, parse (env.shown? Environment.configFileVariable) words = .error fault ∧ fault.isError := by
  unfold run
  cases parse (env.shown? Environment.configFileVariable) words with
  | error fault => by_cases herror : fault.isError <;> simp [ofFault, herror]
  | ok request =>
    have hcode : (perform env request w).1.code ≠ 2 := by
      rcases served_perform env request w with h | h <;> rw [h] <;> decide
    simpa using hcode

namespace Fault

/-- A text goes on behind what it starts with. -/
theorem getElem?_append {s : String} {n : Nat} {c : Char} (h : s.toList[n]? = some c) (t : String) :
    (s ++ t).toList[n]? = some c := by
  rw [String.toList_append, List.getElem?_append_left (List.getElem?_eq_some_iff.1 h).1, h]

/-- The messages of all other faults differ in their eighth character from that of a missing value. -/
theorem eighth_ne (fault : Fault) :
    (∃ p, fault = noValue p) ∨ ∃ c, c ≠ 'a' ∧ fault.message.toList[7]? = some c := by
  cases fault with
  | noValue p => exact .inl ⟨p, rfl⟩
  | help | version | nothingGiven => exact .inr ⟨'o', by decide, by decide⟩
  | noSubcommand => exact .inr ⟨'\'', by decide, by decide⟩
  | missingArguments => exact .inr ⟨'t', by decide, by decide⟩
  | repeated => exact .inr ⟨'t', by decide, getElem?_append (getElem?_append (by decide) _) _⟩
  | unknownSubcommand | unknownArgument =>
    exact .inr ⟨'u', by decide, getElem?_append (getElem?_append (by decide) _) _⟩
  | unexpectedValue =>
    refine .inr ⟨'u', by decide, getElem?_append (getElem?_append ?_ _) _⟩
    exact getElem?_append (getElem?_append (by decide) _) _
  | noChoice =>
    refine .inr ⟨'i', by decide, getElem?_append (getElem?_append ?_ _) _⟩
    exact getElem?_append (getElem?_append (by decide) _) _
  | badValue =>
    refine .inr ⟨'i', by decide, getElem?_append (getElem?_append (getElem?_append ?_ _) _) _⟩
    exact getElem?_append (getElem?_append (by decide) _) _

theorem shown_ne_config {p : Parameter} (h : p ≠ .config) : p.shown ≠ Parameter.config.shown := by
  cases p <;> first | exact absurd rfl h | decide

theorem message_noValue (p : Parameter) :
    (noValue p).message =
      "error: a value is required for '" ++ p.shown ++ "' but none was supplied" := rfl

/-- Only the fault of a missing configuration file has its message. -/
theorem message_eq_noConfig_iff {fault : Fault} :
    fault.message = (noValue .config).message ↔ fault = noValue .config := by
  constructor
  · intro h
    rcases eighth_ne fault with ⟨p, rfl⟩ | ⟨c, hc, heighth⟩
    · rw [message_noValue, message_noValue, String.append_left_inj, String.append_right_inj] at h
      by_contra hne
      exact shown_ne_config (fun hp => hne (congrArg noValue hp)) h
    · have ha : (noValue .config).message.toList[7]? = some 'a' := by decide
      rw [h, ha] at heighth
      exact absurd (Option.some.inj heighth).symm hc
  · rintro rfl
    rfl

end Fault

/-- Only the fault of a missing configuration file has its report. -/
theorem ofFault_eq_noConfig_iff {fault : Fault} :
    ofFault fault = ofFault (.noValue .config) ↔ fault = .noValue .config := by
  constructor
  · intro h
    have hconfig : ofFault (.noValue .config) = ⟨2, "", (Fault.noValue .config).message ++ "\n"⟩ := rfl
    rw [hconfig, ofFault] at h
    split at h
    · injection h with _ _ hstderr
      exact Fault.message_eq_noConfig_iff.1 ((String.append_left_inj _).1 hstderr)
    · injection h with hcode
      exact absurd hcode (by decide)
  · rintro rfl
    rfl

end DeviceBench.Cli

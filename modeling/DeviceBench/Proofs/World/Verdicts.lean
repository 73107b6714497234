/-
What a run comes to. Of a finished run the code is looked at first, then the lines of standard error, then
those of standard output. It meets the expectations of its invocation exactly if its code is allowed and
each stream that is counted has the expected number of lines; the run then comes to what the process left
behind.
-/
import DeviceBench.Proofs.World.Runs

namespace DeviceBench

namespace Invocation

theorem checkStream_cases (i : Invocation) (c : Captured) (stream : Stream) (expected : Option Nat)
    (lines : List String) :
    (∀ n ∈ expected, n = lines.length) ∧ i.checkStream c stream expected lines = .ok () ∨
      ∃ n, expected = some n ∧ n ≠ lines.length ∧ i.checkStream c stream expected lines =
        .error (.outputShape i.command stream n lines.length c.stdout c.stderr) := by
  cases expected with
  | none => exact .inl ⟨nofun, rfl⟩
  | some n =>
    by_cases h : n = lines.length
    · exact .inl ⟨by simpa using h, by simp [checkStream, h]⟩
    · exact .inr ⟨n, rfl, h, by simp [checkStream, h]⟩

/-- A code that is not allowed comes first, then a wrong count on standard error, then one on standard
output. -/
theorem check_cases (i : Invocation) (c : Captured) :
    (c.code ∉ i.allowed ∧
      i.check c = .error (.returnCode i.command c.code i.allowed c.stdout c.stderr)) ∨
    (c.code ∈ i.allowed ∧ ∃ n, i.stderrLines = some n ∧ n ≠ c.stderr.length ∧ i.check c =
      .error (.outputShape i.command .stderr n c.stderr.length c.stdout c.stderr)) ∨
    (c.code ∈ i.allowed ∧ (∀ n ∈ i.stderrLines, n = c.stderr.length) ∧
      ∃ n, i.stdoutLines = some n ∧ n ≠ c.stdout.length ∧ i.check c =
        .error (.outputShape i.command .stdout n c.stdout.length c.stdout c.stderr)) ∨
    (c.code ∈ i.allowed ∧ (∀ n ∈ i.stderrLines, n = c.stderr.length) ∧
      (∀ n ∈ i.stdoutLines, n = c.stdout.length) ∧ i.check c = .ok ()) := by
  unfold check
  by_cases hcode : c.code ∈ i.allowed
  · have hcontains : (!i.allowed.contains c.code) = false := by simpa using hcode
    rw [hcontains]
    right
    rcases i.checkStream_cases c .stderr i.stderrLines c.stderr with
      ⟨herr, hcheck⟩ | ⟨n, hn, hne, hcheck⟩
    · right
      rw [hcheck]
      rcases i.checkStream_cases c .stdout i.stdoutLines c.stdout with
        ⟨hout, hcheck⟩ | ⟨n, hn, hne, hcheck⟩
      · exact .inr ⟨hcode, herr, hout, by rw [hcheck]; rfl⟩
      · exact .inl ⟨hcode, herr, n, hn, hne, by rw [hcheck]; rfl⟩
    · exact .inl ⟨hcode, n, hn, hne, by rw [hcheck]; rfl⟩
  · have hcontains : (!i.allowed.contains c.code) = true := by simpa using hcode
    rw [hcontains]
    exact .inl ⟨hcode, rfl⟩

/-- A finished run meets the expectations if its code is allowed and the streams that are counted
have as many lines as they have to. -/
theorem check_eq_ok_iff {i : Invocation} {c : Captured} :
    i.check c = .ok () ↔ c.code ∈ i.allowed ∧ (∀ n ∈ i.stderrLines, n = c.stderr.length) ∧
      ∀ n ∈ i.stdoutLines, n = c.stdout.length := by
  have hcases := i.check_cases c
  simp only [Option.mem_def] at hcases ⊢
  grind

/-- A run comes to what the process left behind if that meets the expectations. -/
theorem verdict_eq_ok_iff {i : Invocation} {a : Answer} {captured : Captured} :
    i.verdict a = .ok captured ↔ ∃ stdout stderr ending, a = .ran stdout stderr ending ∧
      captured = .ofOutput stdout stderr ending ∧ i.check captured = .ok () := by
  cases a with
  | refused cause => simp [verdict]
  | ran stdout stderr ending =>
    rw [verdict, check_bind_eq_ok_iff]
    constructor
    · rintro ⟨hcheck, hcaptured⟩
      cases hcaptured
      exact ⟨stdout, stderr, ending, rfl, rfl, hcheck⟩
    · rintro ⟨stdout', stderr', ending', hran, rfl, hcheck⟩
      cases hran
      exact ⟨hcheck, rfl⟩

end Invocation

end DeviceBench

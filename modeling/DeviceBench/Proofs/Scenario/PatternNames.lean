/-
The letters that name the pattern of a thread. They are a numeral without a zero: `a` to `z` count one to
twenty-six, so every number has exactly one numeral, and of two numerals the greater is the longer one or,
where they are as long, the one that comes later in the order of words. The number of the processor is
written in digits, which are no letters, so a name tells both numbers.
-/
import DeviceBench.Scenario.Layout
import DeviceBench.Proofs.Text.Digits
import Mathlib.Data.Char
import Mathlib.Data.List.Induction
import Mathlib.Data.List.Shortlex

namespace DeviceBench.Scenario

open Text

/-! ## Words -/

/-- All characters are letters from `a` to `z`. -/
def Lettered (word : List Char) : Prop := ∀ c ∈ word, c.isLower = true

instance (word : List Char) : Decidable (Lettered word) :=
  List.decidableBAll (fun c : Char => c.isLower = true) word

/-- What a letter counts: `a` one and `z` twenty-six. -/
def worth (c : Char) : Nat := c.toNat - 0x60

/-- What letters behind a number count with it: each makes the number one place longer. -/
def countFrom (n : Nat) (word : List Char) : Nat := word.foldl (fun n c => 26 * n + worth c) n

/-- The number that a word counts to, its first letter in the highest place. -/
def count (word : List Char) : Nat := countFrom 0 word

/-- The letters of a thread in the name of its pattern. -/
def suffix (thread : UInt32) : List Char := lettersOnto (thread + 1).toNat []

theorem isLower_letter : ∀ digit < 26, (letter digit).isLower = true := by decide

theorem worth_letter : ∀ digit < 26, worth (letter digit) = digit + 1 := by decide

theorem toNat_of_isLower {c : Char} (h : c.isLower = true) : 0x61 ≤ c.toNat ∧ c.toNat ≤ 0x7A := by
  have hcode : (decide (c.val ≥ 0x61) && decide (c.val ≤ 0x7A)) = true := h
  simpa [UInt32.le_iff_toNat_le] using hcode

theorem worth_bounds {c : Char} (h : c.isLower = true) : 1 ≤ worth c ∧ worth c ≤ 26 := by
  have hcode := toNat_of_isLower h
  unfold worth
  omega

theorem letter_worth {c : Char} (h : c.isLower = true) : letter (worth c - 1) = c := by
  have hcode := toNat_of_isLower h
  have hdigit : 0x61 + (worth c - 1) = c.toNat := by
    unfold worth
    omega
  rw [letter, hdigit, Char.ofNat_toNat]

theorem lettered_concat_iff {word : List Char} {c : Char} :
    Lettered (word ++ [c]) ↔ Lettered word ∧ c.isLower = true := by
  simp [Lettered, or_imp, forall_and]

theorem count_concat (word : List Char) (c : Char) : count (word ++ [c]) = 26 * count word + worth c := by
  simp [count, countFrom]

/-! ## Numerals -/

theorem lettersOnto_zero (written : List Char) : lettersOnto 0 written = written := by
  rw [lettersOnto, if_pos rfl]

theorem lettersOnto_of_pos {n : Nat} (h : 0 < n) (written : List Char) :
    lettersOnto n written = lettersOnto ((n - 1) / 26) (letter ((n - 1) % 26) :: written) := by
  rw [lettersOnto, if_neg (by omega)]

theorem lettersOnto_eq_append (n : Nat) (written : List Char) :
    lettersOnto n written = lettersOnto n [] ++ written := by
  induction n using Nat.strong_induction_on generalizing written with
  | _ n ih =>
    by_cases hn : n = 0
    · simp [hn, lettersOnto_zero]
    · have hpos : 0 < n := Nat.pos_of_ne_zero hn
      have hlt : (n - 1) / 26 < n := by omega
      rw [lettersOnto_of_pos hpos written, lettersOnto_of_pos hpos [], ih _ hlt, ih _ hlt [_]]
      simp

/-- The last letter is the lowest digit, and the letters before it are those of the rest. -/
theorem lettersOnto_eq_concat {n : Nat} (h : 0 < n) :
    lettersOnto n [] = lettersOnto ((n - 1) / 26) [] ++ [letter ((n - 1) % 26)] := by
  rw [lettersOnto_of_pos h, lettersOnto_eq_append]

theorem lettered_lettersOnto (n : Nat) : Lettered (lettersOnto n []) := by
  induction n using Nat.strong_induction_on with
  | _ n ih =>
    by_cases hn : n = 0
    · rw [hn, lettersOnto_zero]
      simp [Lettered]
    · rw [lettersOnto_eq_concat (by omega), lettered_concat_iff]
      exact ⟨ih _ (by omega), isLower_letter _ (by omega)⟩

/-- The letters of a number count to it. -/
theorem count_lettersOnto (n : Nat) : count (lettersOnto n []) = n := by
  induction n using Nat.strong_induction_on with
  | _ n ih =>
    by_cases hn : n = 0
    · rw [hn, lettersOnto_zero]
      rfl
    · rw [lettersOnto_eq_concat (by omega), count_concat, ih _ (by omega), worth_letter _ (by omega)]
      omega

/-- A word is the letters of the number that it counts to. -/
theorem lettersOnto_count {word : List Char} (h : Lettered word) : lettersOnto (count word) [] = word := by
  induction word using List.reverseRecOn with
  | nil => exact lettersOnto_zero []
  | append_singleton word c ih =>
    obtain ⟨hword, hc⟩ := lettered_concat_iff.1 h
    have hworth := worth_bounds hc
    have hhigh : (26 * count word + worth c - 1) / 26 = count word := by omega
    have hlow : (26 * count word + worth c - 1) % 26 = worth c - 1 := by omega
    rw [count_concat, lettersOnto_eq_concat (by omega), hhigh, hlow, ih hword, letter_worth hc]

/-! ## Order -/

/-- The least number that takes so many letters. -/
def leastOf : Nat → Nat
  | 0 => 0
  | places + 1 => 26 * leastOf places + 1

theorem leastOf_mono {m n : Nat} (h : m ≤ n) : leastOf m ≤ leastOf n := by
  induction h with
  | refl => exact Nat.le_refl _
  | step _ ih =>
    rw [leastOf]
    omega

/-- The length of a word bounds what it counts to. -/
theorem count_bounds {word : List Char} (h : Lettered word) :
    leastOf word.length ≤ count word ∧ count word < leastOf (word.length + 1) := by
  induction word using List.reverseRecOn with
  | nil => decide
  | append_singleton word c ih =>
    obtain ⟨hword, hc⟩ := lettered_concat_iff.1 h
    obtain ⟨hlow, hhigh⟩ := ih hword
    have hworth := worth_bounds hc
    rw [count_concat, List.length_append, List.length_singleton, leastOf.eq_2 (word.length + 1)]
    rw [leastOf] at hhigh ⊢
    omega

theorem countFrom_lt_of_lt {u v : List Char} (hlen : u.length = v.length) (hu : Lettered u)
    (hv : Lettered v) {m n : Nat} (h : m < n) : countFrom m u < countFrom n v := by
  induction u generalizing v m n with
  | nil =>
    obtain rfl := List.length_eq_zero_iff.1 hlen.symm
    exact h
  | cons c u ih =>
    cases v with
    | nil => cases hlen
    | cons d v =>
      obtain ⟨hc, hu⟩ := List.forall_mem_cons.1 hu
      obtain ⟨hd, hv⟩ := List.forall_mem_cons.1 hv
      have hworth := worth_bounds hc
      have hworth' := worth_bounds hd
      have hlt : 26 * m + worth c < 26 * n + worth d := by omega
      exact ih (Nat.succ.inj hlen) hu hv hlt

/-- Of words of one length the later one counts further, whatever number stands before them. -/
theorem countFrom_lt_of_lex {u v : List Char} (h : List.Lex (· < ·) u v) (hlen : u.length = v.length)
    (hu : Lettered u) (hv : Lettered v) (n : Nat) : countFrom n u < countFrom n v := by
  induction h generalizing n with
  | nil => cases hlen
  | @cons c u v _ ih =>
    exact ih (Nat.succ.inj hlen) (List.forall_mem_cons.1 hu).2 (List.forall_mem_cons.1 hv).2 _
  | @rel c u d v hlt =>
    obtain ⟨hc, hu⟩ := List.forall_mem_cons.1 hu
    obtain ⟨hd, hv⟩ := List.forall_mem_cons.1 hv
    have hcode := toNat_of_isLower hc
    have hless : c.toNat < d.toNat := hlt
    have hworth : 26 * n + worth c < 26 * n + worth d := by
      unfold worth
      omega
    exact countFrom_lt_of_lt (Nat.succ.inj hlen) hu hv hworth

theorem count_lt_of_shortlex {u v : List Char} (h : List.Shortlex (· < ·) u v) (hu : Lettered u)
    (hv : Lettered v) : count u < count v := by
  rcases List.shortlex_def.1 h with hlen | ⟨hlen, hlex⟩
  · calc count u < leastOf (u.length + 1) := (count_bounds hu).2
      _ ≤ leastOf v.length := leastOf_mono hlen
      _ ≤ count v := (count_bounds hv).1
  · exact countFrom_lt_of_lex hlex hlen hu hv 0

/-- Words count in the order of their lengths, and those of one length in the order of words. -/
theorem count_lt_iff {u v : List Char} (hu : Lettered u) (hv : Lettered v) :
    count u < count v ↔ List.Shortlex (· < ·) u v := by
  refine ⟨fun h => ?_, fun h => count_lt_of_shortlex h hu hv⟩
  rcases trichotomous_of (List.Shortlex (α := Char) (· < ·)) u v with huv | rfl | hvu
  · exact huv
  · exact absurd h (Nat.lt_irrefl _)
  · exact absurd (count_lt_of_shortlex hvu hv hu) (Nat.lt_asymm h)

/-! ## Names -/

theorem lettered_suffix (thread : UInt32) : Lettered (suffix thread) := lettered_lettersOnto _

/-- The letters of a thread count it from one. -/
theorem count_suffix {thread : UInt32} (h : thread.toNat + 1 < UInt32.size) :
    count (suffix thread) = thread.toNat + 1 := by
  rw [suffix, count_lettersOnto, UInt32.toNat_add]
  exact Nat.mod_eq_of_lt h

theorem suffix_injective {thread thread' : UInt32} (h : thread.toNat + 1 < UInt32.size)
    (h' : thread'.toNat + 1 < UInt32.size) (heq : suffix thread = suffix thread') :
    thread = thread' := by
  have hcount := congrArg count heq
  rw [count_suffix h, count_suffix h'] at hcount
  exact UInt32.toNat_inj.1 (Nat.succ.inj hcount)

/-- A word that counts no further than the last thread is the letters of one. -/
theorem exists_suffix {word : List Char} (hne : word ≠ []) (hword : Lettered word)
    (h : count word < UInt32.size) :
    ∃ thread : UInt32, thread.toNat + 1 < UInt32.size ∧ suffix thread = word := by
  have hpos : 1 ≤ count word :=
    le_trans (leastOf_mono (List.length_pos_of_ne_nil hne)) (count_bounds hword).1
  have hthread : (UInt32.ofNat (count word - 1)).toNat = count word - 1 :=
    UInt32.toNat_ofNat_of_lt' (by omega)
  have hbound : (UInt32.ofNat (count word - 1)).toNat + 1 < UInt32.size := by omega
  refine ⟨UInt32.ofNat (count word - 1), hbound, ?_⟩
  have hcount : count (suffix (UInt32.ofNat (count word - 1))) = count word := by
    rw [count_suffix hbound]
    omega
  rw [← lettersOnto_count (lettered_suffix _), hcount, lettersOnto_count hword]

/-- No thread takes more than seven letters. -/
theorem length_suffix_le {thread : UInt32} (h : thread.toNat + 1 < UInt32.size) :
    (suffix thread).length ≤ 7 := by
  by_contra hlen
  have hleast : leastOf 8 ≤ count (suffix thread) :=
    le_trans (leastOf_mono (by omega)) (count_bounds (lettered_suffix thread)).1
  have hsize : UInt32.size < leastOf 8 := by decide
  rw [count_suffix h] at hleast
  omega

theorem toList_threadPattern (cpu thread : UInt32) :
    (threadPattern cpu thread).toList =
      "PPS".toList ++ ((toString cpu.toNat).toList ++ suffix thread) := by
  show ("PPS" ++ toString cpu.toNat ++ String.ofList (suffix thread)).toList = _
  simp only [String.toList_append, String.toList_ofList, List.append_assoc]

theorem takeWhile_isDigit_append {digits word : List Char} (hdigits : Digits digits)
    (hword : Lettered word) : (digits ++ word).takeWhile Char.isDigit = digits := by
  rw [List.takeWhile_append_of_pos hdigits]
  cases word with
  | nil => simp
  | cons c word =>
    have hc := toNat_of_isLower (List.forall_mem_cons.1 hword).1
    have hdigit : ¬ c.isDigit = true := fun hd => by
      have := toNat_of_isDigit hd
      omega
    rw [List.takeWhile_cons_of_neg hdigit, List.append_nil]

/-- A name tells the processor and the thread. -/
theorem threadPattern_inj {cpu thread cpu' thread' : UInt32} (h : thread.toNat + 1 < UInt32.size)
    (h' : thread'.toNat + 1 < UInt32.size)
    (heq : threadPattern cpu thread = threadPattern cpu' thread') : cpu = cpu' ∧ thread = thread' := by
  have hlists := congrArg String.toList heq
  rw [toList_threadPattern, toList_threadPattern, List.append_cancel_left_eq] at hlists
  have hnumbers := congrArg (List.takeWhile Char.isDigit) hlists
  rw [takeWhile_isDigit_append (digits_toString _) (lettered_suffix _),
    takeWhile_isDigit_append (digits_toString _) (lettered_suffix _)] at hnumbers
  rw [hnumbers, List.append_cancel_left_eq] at hlists
  exact ⟨UInt32.toNat_inj.1 (toString_nat_injective (String.toList_injective hnumbers)),
    suffix_injective h h' hlists⟩

/-- The name of a pattern is the number of the processor and the letters of the thread: a word of at most
seven letters that counts the thread from one. Threads stand in the order of their words, shorter ones
first, each word that counts far enough is that of exactly one thread, and a name tells processor and
thread. -/
theorem threadPattern_account :
    (∀ cpu thread : UInt32, thread.toNat + 1 < UInt32.size →
      threadPattern cpu thread = "PPS" ++ toString cpu.toNat ++ String.ofList (suffix thread) ∧
        suffix thread ≠ [] ∧ (suffix thread).length ≤ 7 ∧ Lettered (suffix thread) ∧
        count (suffix thread) = thread.toNat + 1) ∧
      (∀ thread thread' : UInt32, thread.toNat + 1 < UInt32.size → thread'.toNat + 1 < UInt32.size →
        (thread < thread' ↔ List.Shortlex (· < ·) (suffix thread) (suffix thread'))) ∧
      (∀ word, word ≠ [] → Lettered word → count word < UInt32.size →
        ∃! thread : UInt32, thread.toNat + 1 < UInt32.size ∧ suffix thread = word) ∧
      ∀ cpu thread cpu' thread' : UInt32, thread.toNat + 1 < UInt32.size →
        thread'.toNat + 1 < UInt32.size → threadPattern cpu thread = threadPattern cpu' thread' →
          cpu = cpu' ∧ thread = thread' := by
  refine ⟨fun cpu thread h => ?_, fun thread thread' h h' => ?_, fun word hne hword h => ?_,
    fun cpu thread cpu' thread' h h' heq => threadPattern_inj h h' heq⟩
  · have hcount := count_suffix h
    refine ⟨rfl, ?_, length_suffix_le h, lettered_suffix thread, hcount⟩
    intro hnil
    rw [hnil] at hcount
    exact absurd hcount (Nat.succ_ne_zero _).symm
  · have hiff := count_lt_iff (lettered_suffix thread) (lettered_suffix thread')
    rw [count_suffix h, count_suffix h'] at hiff
    rw [← hiff, UInt32.lt_iff_toNat_lt]
    omega
  · obtain ⟨thread, hthread, rfl⟩ := exists_suffix hne hword h
    exact ⟨thread, ⟨hthread, rfl⟩, fun other hother => suffix_injective hother.1 hthread hother.2⟩

/-- The carry from two letters to three, and processors of which the number of one starts that of the
other. -/
theorem threadPattern_account_carry :
    (702 : UInt32).toNat + 1 < UInt32.size ∧ suffix 701 = ['z', 'z'] ∧ suffix 702 = ['a', 'a', 'a'] ∧
      threadPattern 2 702 = "PPS2aaa" ∧ List.Shortlex (· < ·) (suffix 701) (suffix 702) ∧
      (∃! thread : UInt32, thread.toNat + 1 < UInt32.size ∧ suffix thread = ['z', 'z']) ∧
      threadPattern 1 702 ≠ threadPattern 11 702 := by
  obtain ⟨hname, horder, hword, hinj⟩ := threadPattern_account
  have h : (701 : UInt32).toNat + 1 < UInt32.size := by decide
  have h' : (702 : UInt32).toNat + 1 < UInt32.size := by decide
  have hzz : suffix 701 = ['z', 'z'] := lettersOnto_count (show Lettered ['z', 'z'] by decide)
  have haaa : suffix 702 = ['a', 'a', 'a'] := lettersOnto_count (show Lettered ['a', 'a', 'a'] by decide)
  refine ⟨h', hzz, haaa, ?_, (horder 701 702 h h').1 (by decide),
    hword ['z', 'z'] (by simp) (by decide) (by decide), fun heq => ?_⟩
  · rw [(hname 2 702 h').1, haaa]
    decide
  · exact absurd (hinj 1 702 11 702 h' h' heq).1 (by decide)

end DeviceBench.Scenario

/-
Quoted text in front of other text. What is written for a character can be read again whatever comes after
it, and none of it is a quote alone, so a quoted text ends at the first quote that stands alone and
tells the text in it. In what is quoted every blank but the space is written by its code.
-/
import DeviceBench.Proofs.Text.Hexadecimal
import DeviceBench.Proofs.Text.Search
import DeviceBench.Text.Blank
import DeviceBench.Text.Quoted

namespace DeviceBench.Text

/-! ## Written forms that end by themselves -/

/-- What is written for a value in front of any text tells both the value and that text. -/
def SelfDelimiting {α : Type} (write : α → List Char) : Prop :=
  ∀ ⦃a b : α⦄ ⦃x y : List Char⦄, write a ++ x = write b ++ y → a = b ∧ x = y

/-- Values one after the other end at a mark with which none of them begins. -/
theorem SelfDelimiting.flatMap {α : Type} {write : α → List Char} (h : SelfDelimiting write)
    {mark : Char} (hmark : ∀ a x y, write a ++ x ≠ mark :: y) {as bs : List α} {x y : List Char}
    (heq : as.flatMap write ++ mark :: x = bs.flatMap write ++ mark :: y) : as = bs ∧ x = y := by
  induction as generalizing bs with
  | nil =>
    cases bs with
    | nil => exact ⟨rfl, (List.cons.inj heq).2⟩
    | cons b bs =>
      rw [List.flatMap_cons, List.append_assoc] at heq
      exact absurd heq.symm (hmark b _ _)
  | cons a as ih =>
    rw [List.flatMap_cons, List.append_assoc] at heq
    cases bs with
    | nil => exact absurd heq (hmark a _ _)
    | cons b bs =>
      rw [List.flatMap_cons, List.append_assoc] at heq
      obtain ⟨rfl, hrest⟩ := h heq
      obtain ⟨rfl, hxy⟩ := ih hrest
      exact ⟨rfl, hxy⟩

/-! ## One character -/

/-- The character that a text begins with as quoted text writes it, and what comes after it. -/
def readEscaped? : List Char → Option (Char × List Char)
  | '\\' :: 'u' :: '\x7b' :: cs => do
    let (digits, rest) ← splitFirst? '\x7d' cs
    match readUnsigned 16 0x10FFFF digits with
    | .ok code => some (Char.ofNat code, rest)
    | .error _ => none
  | '\\' :: 't' :: rest => some ('\t', rest)
  | '\\' :: 'r' :: rest => some ('\r', rest)
  | '\\' :: 'n' :: rest => some ('\n', rest)
  | '\\' :: '0' :: rest => some ('\x00', rest)
  | '\\' :: c :: rest => some (c, rest)
  | c :: rest => some (c, rest)
  | [] => none

theorem toNat_le_lastCode (c : Char) : c.toNat ≤ 0x10FFFF := by
  have hvalid : c.toNat < 0xD800 ∨ 0xDFFF < c.toNat ∧ c.toNat < 0x110000 := c.valid
  omega

theorem readEscaped?_code (c : Char) (rest : List Char) :
    readEscaped? ('\\' :: 'u' :: '\x7b' :: (Nat.toDigits 16 c.toNat ++ '\x7d' :: rest)) =
      some (c, rest) := by
  have hdigits := hexadecimal_toDigits c.toNat
  have hend : '\x7d' ∉ Nat.toDigits 16 c.toNat := hdigits.not_mem rfl
  have hcode : readUnsigned 16 0x10FFFF (Nat.toDigits 16 c.toNat) = .ok c.toNat :=
    readUnsigned_eq_ok_iff.2 ⟨toNat_le_lastCode c, .inl hdigits⟩
  rw [readEscaped?, splitFirst?_append hend]
  simp [hcode]

theorem readEscaped?_plain {c : Char} (h : c ≠ '\\') (rest : List Char) :
    readEscaped? (c :: rest) = some (c, rest) := by
  unfold readEscaped?
  split <;> simp_all

theorem readEscaped?_escapeChar (c : Char) (rest : List Char) :
    readEscaped? (escapeChar c ++ rest) = some (c, rest) := by
  unfold escapeChar
  split
  case h_7 hslash _ _ _ _ =>
    split
    · have hcode := readEscaped?_code c rest
      simpa using hcode
    · exact readEscaped?_plain hslash rest
  all_goals rfl

theorem selfDelimiting_escapeChar : SelfDelimiting escapeChar := by
  intro c d x y h
  have hread := readEscaped?_escapeChar c x
  rw [h, readEscaped?_escapeChar] at hread
  cases hread
  exact ⟨rfl, rfl⟩

theorem escapeChar_append_ne (c : Char) (x y : List Char) : escapeChar c ++ x ≠ '"' :: y := by
  intro h
  unfold escapeChar at h
  split at h
  case h_7 hquote _ _ _ _ _ =>
    split at h
    · cases h
    · exact hquote (List.cons.inj h).1
  all_goals cases h

/-! ## Whole texts -/

theorem toList_quote (s : String) :
    (quote s).toList = '"' :: (s.toList.flatMap escapeChar ++ ['"']) := by
  rw [quote, String.toList_ofList]
  rfl

theorem selfDelimiting_quote : SelfDelimiting fun s : String => (quote s).toList := by
  intro s t x y h
  simp only [toList_quote, List.cons_append, List.append_assoc, List.nil_append, List.cons.injEq,
    true_and] at h
  obtain ⟨hst, hxy⟩ := selfDelimiting_escapeChar.flatMap escapeChar_append_ne h
  exact ⟨String.toList_injective hst, hxy⟩

/-! ## Blanks -/

/-- The code points of the blanks. -/
def blankCodes : List Nat :=
  [0x9, 0xA, 0xB, 0xC, 0xD, 0x20, 0x85, 0xA0, 0x1680, 0x2000, 0x2001, 0x2002, 0x2003, 0x2004, 0x2005,
    0x2006, 0x2007, 0x2008, 0x2009, 0x200A, 0x2028, 0x2029, 0x202F, 0x205F, 0x3000]

theorem mem_blankCodes {c : Char} (h : isBlank c = true) : c.toNat ∈ blankCodes := by
  simp only [isBlank, Bool.or_eq_true, Bool.and_eq_true, decide_eq_true_eq, beq_iff_eq] at h
  simp only [blankCodes, List.mem_cons, List.not_mem_nil, or_false]
  omega

/-- Every blank but the space has no shape of its own. -/
theorem isUnprintable_of_isBlank {c : Char} (h : isBlank c = true) (hspace : c ≠ ' ') :
    isUnprintable c = true := by
  have hcodes : ∀ n ∈ blankCodes, n ≠ 0x20 → isUnprintable (Char.ofNat n) = true := by
    decide +kernel
  have hc := hcodes c.toNat (mem_blankCodes h)
  rw [Char.ofNat_toNat] at hc
  exact hc fun hn => hspace (Char.toNat_inj.1 hn)

theorem HexDigit.not_blank {c : Char} {d : Nat} (h : HexDigit c d) : isBlank c = false := by
  have hdigits : ∀ d < 16, isBlank (Nat.digitChar d) = false ∧
      isBlank (Nat.digitChar d).toUpper = false := by decide
  obtain ⟨hd, rfl | rfl⟩ := h
  · exact (hdigits d hd).1
  · exact (hdigits d hd).2

theorem eq_space_of_mem_escapeChar {b c : Char} (h : b ∈ escapeChar c) (hb : isBlank b = true) :
    b = ' ' := by
  unfold escapeChar at h
  split at h
  case h_7 =>
    split at h
    · -- all that stands for the character are marks and digits
      exfalso
      simp only [List.mem_append, List.mem_cons, List.not_mem_nil, or_false] at h
      rcases h with ((rfl | rfl | rfl) | h) | rfl
      case inl.inr =>
        obtain ⟨d, hd⟩ := (hexadecimal_toDigits c.toNat).exists_hexDigit b h
        rw [hd.not_blank] at hb
        cases hb
      all_goals cases hb
    · rename_i hshape
      rw [List.mem_singleton] at h
      rw [h] at hb ⊢
      by_contra hspace
      exact hshape (isUnprintable_of_isBlank hb hspace)
  all_goals
    simp only [List.mem_cons, List.not_mem_nil, or_false] at h
    rcases h with rfl | rfl <;> cases hb

/-- Of the blanks only the space stands in quoted text as it is. -/
theorem eq_space_of_mem_quote {b : Char} {s : String} (h : b ∈ (quote s).toList)
    (hb : isBlank b = true) : b = ' ' := by
  rw [toList_quote, List.mem_cons, List.mem_append, List.mem_singleton] at h
  rcases h with rfl | h | rfl
  · cases hb
  · obtain ⟨c, -, hc⟩ := List.mem_flatMap.1 h
    exact eq_space_of_mem_escapeChar hc hb
  · cases hb

end DeviceBench.Text

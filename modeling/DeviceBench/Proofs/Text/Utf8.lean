/-
Reading back what was encoded. The bytes of a character take the reader from between characters
through the states of its length and back, with that character as the one piece they complete, so
the bytes of a text are read as the text, strictly and lossily. Bytes that are there always come to
some piece.
-/
import DeviceBench.Text.Utf8
import Mathlib.Tactic.Common

namespace DeviceBench.Text

/-! ## Bytes -/

theorem toNat_byte {n : Nat} (h : n < 256) : (UInt8.ofNat n).toNat = n := by
  rw [UInt8.toNat_ofNat']
  exact Nat.mod_eq_of_lt h

theorem byte_le_iff {m n : Nat} (hm : m < 256) (hn : n < 256) :
    UInt8.ofNat m ≤ UInt8.ofNat n ↔ m ≤ n := by
  rw [UInt8.le_iff_toNat_le, toNat_byte hm, toNat_byte hn]

/-- The byte that carries the lowest six bits of a number inside a character. -/
def tailByte (n : Nat) : UInt8 := UInt8.ofNat (n % 64 + 128)

theorem toNat_tailByte (n : Nat) : (tailByte n).toNat = n % 64 + 128 := toNat_byte (by omega)

theorem tailByte_between (low high n : Nat) (hlow : low ≤ n % 64 + 128)
    (hhigh : n % 64 + 128 ≤ high) (h : high < 256) :
    UInt8.ofNat low ≤ tailByte n ∧ tailByte n ≤ UInt8.ofNat high :=
  ⟨(byte_le_iff (by omega) (by omega)).2 hlow, (byte_le_iff (by omega) h).2 hhigh⟩

/-! ## Steps of the reader -/

theorem utf8PiecesOnto_cons (state : Utf8State) (b : UInt8) (bs : Bytes) (read : List Piece) :
    utf8PiecesOnto state (b :: bs) read =
      utf8PiecesOnto (utf8Step state b).2 bs ((utf8Step state b).1.reverseAux read) := by
  cases state <;> rfl

section Tail

variable {low high : UInt8} {n : Nat} (h : low ≤ tailByte n ∧ tailByte n ≤ high) (code : Nat)

include h

/-- The last byte of a character completes it. -/
theorem utf8PiecesOnto_last (bs : Bytes) (read : List Piece) :
    utf8PiecesOnto (.inside 1 low high code) (tailByte n :: bs) read =
      utf8PiecesOnto .start bs (some (Char.ofNat (code * 64 + n % 64)) :: read) := by
  have hstep : utf8Step (.inside 1 low high code) (tailByte n) =
      ([some (Char.ofNat (code * 64 + n % 64))], .start) := by
    rw [utf8Step, if_pos h, toNat_tailByte, Nat.add_sub_cancel]
    rfl
  rw [utf8PiecesOnto_cons, hstep]
  rfl

/-- Any other byte inside a character adds its six bits. -/
theorem utf8PiecesOnto_more (owed : Nat) (bs : Bytes) (read : List Piece) :
    utf8PiecesOnto (.inside (owed + 2) low high code) (tailByte n :: bs) read =
      utf8PiecesOnto (.inside (owed + 1) 0x80 0xBF (code * 64 + n % 64)) bs read := by
  have hstep : utf8Step (.inside (owed + 2) low high code) (tailByte n) =
      ([], .inside (owed + 1) 0x80 0xBF (code * 64 + n % 64)) := by
    rw [utf8Step, if_pos h, toNat_tailByte, Nat.add_sub_cancel, if_neg (by omega)]
    rfl
  rw [utf8PiecesOnto_cons, hstep]
  rfl

end Tail

theorem tailByte_tail (n : Nat) : (0x80 : UInt8) ≤ tailByte n ∧ tailByte n ≤ (0xBF : UInt8) :=
  tailByte_between 0x80 0xBF n (by omega) (by omega) (by omega)

/-! ## First bytes -/

/-- The first byte of a character of three bytes admits its second byte: the range is narrower where
a shorter form or a surrogate would begin. -/
theorem utf8First_three {v : Nat} (hmin : 0x800 ≤ v) (hmax : v < 0x10000)
    (hscalar : v < 0xD800 ∨ 0xDFFF < v) :
    ∃ low high, utf8First (UInt8.ofNat (v / 4096 % 16 + 224)) = ([], .inside 2 low high (v / 4096)) ∧
      low ≤ tailByte (v / 64) ∧ tailByte (v / 64) ≤ high := by
  unfold utf8First
  rw [toNat_byte (by omega)]
  dsimp only
  rw [if_neg (by omega), if_neg (by omega)]
  by_cases h0 : v / 4096 = 0
  · rw [if_pos (by omega), h0]
    exact ⟨_, _, rfl, tailByte_between 0xA0 0xBF _ (by omega) (by omega) (by omega)⟩
  rw [if_neg (by omega)]
  by_cases hd : v / 4096 = 0xD
  · rw [if_pos (by omega), hd]
    exact ⟨_, _, rfl, tailByte_between 0x80 0x9F _ (by omega) (by omega) (by omega)⟩
  rw [if_neg (by omega), if_pos (by omega)]
  refine ⟨_, _, ?_, tailByte_tail _⟩
  rw [show v / 4096 % 16 + 224 - 0xE0 = v / 4096 by omega]

/-- The first byte of a character of four bytes admits its second byte: the range is narrower where
a shorter form would begin or the numbers of characters end. -/
theorem utf8First_four {v : Nat} (hmin : 0x10000 ≤ v) (hmax : v < 0x110000) :
    ∃ low high, utf8First (UInt8.ofNat (v / 262144 % 8 + 240)) =
        ([], .inside 3 low high (v / 262144)) ∧
      low ≤ tailByte (v / 4096) ∧ tailByte (v / 4096) ≤ high := by
  unfold utf8First
  rw [toNat_byte (by omega)]
  dsimp only
  rw [if_neg (by omega), if_neg (by omega), if_neg (by omega), if_neg (by omega), if_neg (by omega)]
  by_cases h0 : v / 262144 = 0
  · rw [if_pos (by omega), h0]
    exact ⟨_, _, rfl, tailByte_between 0x90 0xBF _ (by omega) (by omega) (by omega)⟩
  rw [if_neg (by omega)]
  by_cases h4 : v / 262144 = 4
  · rw [if_pos (by omega), h4]
    exact ⟨_, _, rfl, tailByte_between 0x80 0x8F _ (by omega) (by omega) (by omega)⟩
  rw [if_neg (by omega), if_pos (by omega)]
  refine ⟨_, _, ?_, tailByte_tail _⟩
  rw [show v / 262144 % 8 + 240 - 0xF0 = v / 262144 by omega]

/-! ## Characters -/

theorem utf8First_start {b : UInt8} {bs : Bytes} {read : List Piece} {owed code : Nat}
    {low high : UInt8} (h : utf8First b = ([], .inside owed low high code)) :
    utf8PiecesOnto .start (b :: bs) read = utf8PiecesOnto (.inside owed low high code) bs read := by
  rw [utf8PiecesOnto_cons, utf8Step, h]
  rfl

/-- The bytes of a character are read as that character. -/
theorem utf8PiecesOnto_encodeChar (c : Char) (bs : Bytes) (read : List Piece) :
    utf8PiecesOnto .start (String.utf8EncodeChar c ++ bs) read =
      utf8PiecesOnto .start bs (some c :: read) := by
  have hscalar : c.toNat < 0xD800 ∨ 0xDFFF < c.toNat ∧ c.toNat < 0x110000 := c.valid
  have hc : ∀ n, n = c.toNat → Char.ofNat n = c := by
    intro n hn
    rw [hn, Char.ofNat_toNat]
  unfold String.utf8EncodeChar
  dsimp only
  rw [show c.val.toNat = c.toNat from rfl]
  -- by the number of bytes
  split_ifs with h1 h2 h3
  · have hstep : utf8First (UInt8.ofNat c.toNat) = ([some c], .start) := by
      unfold utf8First
      rw [toNat_byte (by omega)]
      dsimp only
      rw [if_pos (by omega), hc _ rfl]
    rw [List.singleton_append, utf8PiecesOnto_cons, utf8Step, hstep]
    rfl
  · have hfirst : utf8First (UInt8.ofNat (c.toNat / 64 % 32 + 192)) =
        ([], .inside 1 0x80 0xBF (c.toNat / 64)) := by
      unfold utf8First
      rw [toNat_byte (by omega)]
      dsimp only
      rw [if_neg (by omega), if_pos (by omega)]
      rw [show c.toNat / 64 % 32 + 192 - 0xC0 = c.toNat / 64 by omega]
    rw [List.cons_append, utf8First_start hfirst]
    exact (utf8PiecesOnto_last (tailByte_tail _) _ bs read).trans (by rw [hc _ (by omega)])
  · obtain ⟨low, high, hfirst, hsecond⟩ := utf8First_three (v := c.toNat) (by omega) (by omega) (by omega)
    rw [List.cons_append, utf8First_start hfirst]
    refine (utf8PiecesOnto_more hsecond _ 0 _ read).trans ?_
    exact (utf8PiecesOnto_last (tailByte_tail _) _ bs read).trans (by rw [hc _ (by omega)])
  · obtain ⟨low, high, hfirst, hsecond⟩ := utf8First_four (v := c.toNat) (by omega) (by omega)
    rw [List.cons_append, utf8First_start hfirst]
    refine (utf8PiecesOnto_more hsecond _ 1 _ read).trans ?_
    refine (utf8PiecesOnto_more (tailByte_tail _) _ 0 _ read).trans ?_
    exact (utf8PiecesOnto_last (tailByte_tail _) _ bs read).trans (by rw [hc _ (by omega)])

/-! ## ASCII -/

theorem encodeChar_of_lt {c : Char} (h : c.toNat < 0x80) :
    String.utf8EncodeChar c = [UInt8.ofNat c.toNat] := by
  unfold String.utf8EncodeChar
  dsimp only
  rw [if_pos (by rw [show c.val.toNat = c.toNat from rfl]; omega)]
  rfl

/-- A byte of ASCII is the one byte of its character. -/
theorem toNat_of_mem_encodeChar {c : Char} {b : UInt8} (hb : b ∈ String.utf8EncodeChar c)
    (h : b.toNat < 0x80) : c.toNat = b.toNat := by
  by_cases hc : c.toNat < 0x80
  · rw [encodeChar_of_lt hc, List.mem_singleton] at hb
    rw [hb, toNat_byte (by omega)]
  · -- all bytes of a longer character are greater
    have hbytes : ∀ d ∈ String.utf8EncodeChar c, 0x80 ≤ d.toNat := by
      have hone : ¬ c.val.toNat ≤ 0x7f := fun hle => hc (Nat.lt_succ_of_le hle)
      unfold String.utf8EncodeChar
      dsimp only
      rw [if_neg hone]
      split_ifs
      all_goals
        simp only [List.forall_mem_cons, List.not_mem_nil, false_imp_iff, implies_true, and_true,
          UInt8.toNat_ofNat']
        omega
    exact absurd h (Nat.not_lt.2 (hbytes b hb))

/-! ## Texts -/

theorem utf8PiecesOnto_encode (cs : List Char) (read : List Piece) :
    utf8PiecesOnto .start (cs.flatMap String.utf8EncodeChar) read = (cs.map some).reverse ++ read := by
  induction cs generalizing read with
  | nil => rfl
  | cons c cs ih =>
    rw [List.flatMap_cons, utf8PiecesOnto_encodeChar, ih]
    simp

theorem utf8Pieces_encode (text : String) : utf8Pieces (encode text) = text.toList.map some := by
  rw [utf8Pieces, encode, utf8PiecesOnto_encode, List.append_nil, List.reverse_reverse]

/-- The bytes of a text are read as the text. -/
theorem decodeLossy_encode (text : String) : decodeLossy (encode text) = text.toList := by
  rw [decodeLossy, utf8Pieces_encode, List.map_map]
  exact List.map_id _

/-- The bytes of a text are well-formed and are read as the text. -/
theorem decode?_encode (text : String) : decode? (encode text) = some text := by
  have hall : (text.toList.map (some : Char → Piece)).all Option.isSome = true := by simp
  have hid : (text.toList.map (some : Char → Piece)).filterMap id = text.toList := by
    rw [List.filterMap_map]
    exact List.filterMap_some
  rw [decode?, utf8Pieces_encode, if_pos hall, hid, String.ofList_toList]

/-! ## Any bytes -/

/-- A byte that completes no piece leaves the reader inside a character. -/
theorem utf8Step_pending (state : Utf8State) (b : UInt8) :
    (utf8Step state b).1 ≠ [] ∨ (utf8Step state b).2 ≠ .start := by
  cases state with
  | start =>
    simp only [utf8Step, utf8First]
    split_ifs <;> simp
  | inside owed low high code =>
    simp only [utf8Step]
    split_ifs <;> simp

/-- Bytes to come, a begun character and a piece that is there each lead to a piece at the end. -/
theorem utf8PiecesOnto_ne_nil (bytes : Bytes) {state : Utf8State} {read : List Piece}
    (h : read ≠ [] ∨ state ≠ .start ∨ bytes ≠ []) : utf8PiecesOnto state bytes read ≠ [] := by
  induction bytes generalizing state read with
  | nil =>
    cases state with
    | start => simpa [utf8PiecesOnto] using h
    | inside owed low high code => simp [utf8PiecesOnto]
  | cons b bs ih =>
    rw [utf8PiecesOnto_cons]
    apply ih
    rw [List.reverseAux_eq]
    rcases utf8Step_pending state b with hb | hb
    · exact .inl (by simp [hb])
    · exact .inr (.inl hb)

/-- What was read before stays behind what is read now. -/
theorem utf8PiecesOnto_eq_append (bytes : Bytes) (state : Utf8State) (read : List Piece) :
    utf8PiecesOnto state bytes read = utf8PiecesOnto state bytes [] ++ read := by
  induction bytes generalizing state read with
  | nil => cases state <;> rfl
  | cons b bs ih =>
    rw [utf8PiecesOnto_cons, ih, utf8PiecesOnto_cons, ih _ ((utf8Step state b).1.reverseAux [])]
    simp [List.reverseAux_eq]

/-- Inside a character the next byte is in the range of the bytes that continue one. -/
def Utf8State.Continuing : Utf8State → Prop
  | .start => True
  | .inside _ low high _ => 0x80 ≤ low.toNat ∧ high.toNat ≤ 0xBF

theorem continuing_utf8First (b : UInt8) : (utf8First b).2.Continuing := by
  unfold utf8First
  dsimp only
  split_ifs <;> simp [Utf8State.Continuing]

theorem continuing_utf8Step {state : Utf8State} (h : state.Continuing) (b : UInt8) :
    (utf8Step state b).2.Continuing := by
  cases state with
  | start => exact continuing_utf8First b
  | inside owed low high code =>
    by_cases hin : low ≤ b ∧ b ≤ high
    · by_cases hlast : owed = 1
      · simp [utf8Step, hin, hlast, Utf8State.Continuing]
      · simp [utf8Step, hin, hlast, Utf8State.Continuing]
    · rw [utf8Step, if_neg hin]
      exact continuing_utf8First b

/-- A byte that continues no character is read as between characters; what stood before it is read as
if it ended there. -/
theorem utf8PiecesOnto_append {state : Utf8State} (h : state.Continuing) {b : UInt8}
    (hb : b.toNat < 0x80 ∨ 0xBF < b.toNat) (before after : Bytes) (read : List Piece) :
    utf8PiecesOnto state (before ++ b :: after) read =
      utf8PiecesOnto .start (b :: after) (utf8PiecesOnto state before read) := by
  induction before generalizing state read with
  | nil =>
    cases state with
    | start => rfl
    | inside owed low high code =>
      have hout : ¬ (low ≤ b ∧ b ≤ high) := by
        rintro ⟨hlow, hhigh⟩
        rw [UInt8.le_iff_toNat_le] at hlow hhigh
        have := h.1
        have := h.2
        omega
      have hstep : utf8Step (.inside owed low high code) b =
          (none :: (utf8First b).1, (utf8First b).2) := by
        rw [utf8Step, if_neg hout]
      rw [List.nil_append, utf8PiecesOnto_cons, hstep]
      rfl
  | cons c before ih =>
    rw [List.cons_append, utf8PiecesOnto_cons state, ih (continuing_utf8Step h c),
      ← utf8PiecesOnto_cons state]

/-- The first byte of a character continues none. -/
theorem exists_firstByte (c : Char) :
    ∃ b bs, String.utf8EncodeChar c = b :: bs ∧ (b.toNat < 0x80 ∨ 0xBF < b.toNat) := by
  unfold String.utf8EncodeChar
  dsimp only
  split_ifs with h1 h2 h3
  · exact ⟨_, _, rfl, .inl (by rw [toNat_byte (by omega)]; omega)⟩
  · exact ⟨_, _, rfl, .inr (by rw [toNat_byte (by omega)]; omega)⟩
  · exact ⟨_, _, rfl, .inr (by rw [toNat_byte (by omega)]; omega)⟩
  · exact ⟨_, _, rfl, .inr (by rw [toNat_byte (by omega)]; omega)⟩

/-- A whole character ends whatever ill-formed part stands before it. -/
theorem decodeLossy_append_char (before after : Bytes) (c : Char) :
    decodeLossy (before ++ String.utf8EncodeChar c ++ after) =
      decodeLossy before ++ c :: decodeLossy after := by
  obtain ⟨b, bs, hc, hb⟩ := exists_firstByte c
  have hstart : Utf8State.start.Continuing := trivial
  have hread : utf8PiecesOnto .start (before ++ String.utf8EncodeChar c ++ after) [] =
      utf8PiecesOnto .start after [] ++ some c :: utf8PiecesOnto .start before [] := by
    rw [hc, List.append_assoc, List.cons_append, utf8PiecesOnto_append hstart hb, ← List.cons_append,
      ← hc, utf8PiecesOnto_encodeChar, utf8PiecesOnto_eq_append]
  rw [decodeLossy, utf8Pieces, hread]
  simp [decodeLossy, utf8Pieces]

theorem decodeLossy_eq_nil_iff {bytes : Bytes} : decodeLossy bytes = [] ↔ bytes = [] := by
  rw [decodeLossy, List.map_eq_nil_iff, utf8Pieces, List.reverse_eq_nil_iff]
  constructor
  · intro h
    by_contra hne
    exact utf8PiecesOnto_ne_nil bytes (.inr (.inr hne)) h
  · rintro rfl
    rfl

end DeviceBench.Text

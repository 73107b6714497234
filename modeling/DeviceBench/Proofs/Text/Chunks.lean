/-
Captured output put together of chunks of any bytes, each with one of the eleven ends of a line behind it.
Whatever the bytes are, cutting the output gives the chunks back as they are decoded: a chunk that
breaks off inside a character takes nothing of the line end behind it, and a carriage return pairs with
no line feed but its own.
-/
import DeviceBench.Proofs.Text.Lines

namespace DeviceBench.Text

/-! ## Chunks -/

/-- What can end a line of captured output. -/
def lineEnds : List String :=
  ["\n", "\r", "\r\n", "\x0b", "\x0c", "\x1c", "\x1d", "\x1e", "\u0085", "\u2028", "\u2029"]

/-- The characters that line ends are made of. -/
def breakChars : List Char := '\n' :: '\r' :: outputBreaks

/-- The text has no end of a line in it. -/
def BreakFree (text : List Char) : Prop := ∀ c ∈ text, c ∉ breakChars

instance (text : List Char) : Decidable (BreakFree text) :=
  List.decidableBAll (fun c => c ∉ breakChars) text

/-- Bytes and the end of the line behind them. -/
structure Chunk where
  bytes : Bytes
  lineEnd : String

namespace Chunk

/-- The chunk as it is captured. -/
def captured (c : Chunk) : Bytes := c.bytes ++ encode c.lineEnd

/-- The chunk is one line. -/
structure IsLine (c : Chunk) : Prop where
  breakFree : BreakFree (decodeLossy c.bytes)
  ended : c.lineEnd ∈ lineEnds

/-- The line feed of an empty chunk would join the carriage return that ends the chunk before it. -/
def Joins (c next : Chunk) : Prop := c.lineEnd = "\r" ∧ next.bytes = [] ∧ next.lineEnd = "\n"

/-- The characters of the chunk. -/
def text (c : Chunk) : List Char := decodeLossy c.bytes ++ c.lineEnd.toList

end Chunk

/-! ## Decoding -/

/-- The characters of a text end whatever ill-formed part stands before them. -/
theorem decodeLossy_append_encode {text : String} (h : text ≠ "") (before after : Bytes) :
    decodeLossy (before ++ encode text ++ after) =
      decodeLossy before ++ text.toList ++ decodeLossy after := by
  have hchars (cs : List Char) (hne : cs ≠ []) (before : Bytes) :
      decodeLossy (before ++ cs.flatMap String.utf8EncodeChar ++ after) =
        decodeLossy before ++ cs ++ decodeLossy after := by
    induction cs generalizing before with
    | nil => exact absurd rfl hne
    | cons c cs ih =>
      have hsplit : before ++ (c :: cs).flatMap String.utf8EncodeChar ++ after =
          before ++ String.utf8EncodeChar c ++ (cs.flatMap String.utf8EncodeChar ++ after) := by
        simp
      rw [hsplit, decodeLossy_append_char]
      by_cases hcs : cs = []
      · simp [hcs]
      · have hrest := ih hcs []
        rw [List.nil_append] at hrest
        rw [hrest]
        simp [decodeLossy_eq_nil_iff.2]
  exact hchars text.toList (by simpa using h) before

theorem ne_empty_of_mem_lineEnds {lineEnd : String} (h : lineEnd ∈ lineEnds) : lineEnd ≠ "" := by
  rintro rfl
  exact absurd h (by decide)

theorem decodeLossy_chunks {chunks : List Chunk} (h : ∀ c ∈ chunks, c.IsLine) (last : Bytes) :
    decodeLossy (chunks.flatMap Chunk.captured ++ last) =
      chunks.flatMap Chunk.text ++ decodeLossy last := by
  induction chunks with
  | nil => rfl
  | cons c chunks ih =>
    obtain ⟨hc, hchunks⟩ := List.forall_mem_cons.1 h
    rw [List.flatMap_cons, List.append_assoc, Chunk.captured,
      decodeLossy_append_encode (ne_empty_of_mem_lineEnds hc.ended), ih hchunks, List.flatMap_cons,
      Chunk.text, List.append_assoc _ (chunks.flatMap Chunk.text)]

/-! ## Cutting -/

theorem linesAfter_cons {c : Char} (h : c ∉ breakChars) (cs read : List Char) :
    linesAfter (c :: cs) read = linesAfter cs (c :: read) := by
  have hcr : c ≠ '\r' := by
    rintro rfl
    exact h (by decide)
  have hbreak : isLineBreak c = false := by
    rw [Bool.eq_false_iff, Ne, isLineBreak_iff]
    rintro (rfl | hc)
    · exact h (by decide)
    · exact h (List.mem_cons_of_mem _ (List.mem_cons_of_mem _ hc))
  rw [linesAfter]
  · rw [if_neg (by simp [hcr, hbreak])]
  · rintro cs' rfl
    exact absurd rfl hcr

/-- What has no line end in it stays on the line. -/
theorem linesAfter_breakFree {line : List Char} (h : BreakFree line) (rest read : List Char) :
    linesAfter (line ++ rest) read = linesAfter rest (line.reverse ++ read) := by
  induction line generalizing read with
  | nil => rfl
  | cons c line ih =>
    obtain ⟨hc, hline⟩ := List.forall_mem_cons.1 h
    rw [List.cons_append, linesAfter_cons hc, ih hline]
    simp

theorem lineEnd_cases {lineEnd : String} (h : lineEnd ∈ lineEnds) :
    lineEnd = "\r\n" ∨ ∃ c ∈ breakChars, lineEnd.toList = [c] := by
  have hall : ∀ lineEnd ∈ lineEnds,
      lineEnd = "\r\n" ∨ lineEnd.toList ∈ breakChars.map ([·]) := by decide
  refine (hall lineEnd h).imp id fun hone => ?_
  obtain ⟨c, hc, heq⟩ := List.mem_map.1 hone
  exact ⟨c, hc, heq.symm⟩

/-- A line end ends the line, unless it is a carriage return with a line feed behind it. -/
theorem linesAfter_lineEnd {lineEnd : String} (h : lineEnd ∈ lineEnds) {rest : List Char}
    (hrest : lineEnd = "\r" → rest.head? ≠ some '\n') (read : List Char) :
    linesAfter (lineEnd.toList ++ rest) read = read.reverse :: linesAfter rest [] := by
  rcases lineEnd_cases h with rfl | ⟨c, hmem, hc⟩
  · rfl
  · have hbreak : c = '\r' ∨ isLineBreak c := by
      rw [isLineBreak_iff, or_left_comm]
      simpa [breakChars] using hmem
    rw [hc, List.singleton_append, linesAfter]
    · rw [if_pos hbreak]
    · rintro rest' rfl rfl
      refine hrest ?_ rfl
      exact String.toList_injective hc

/-- No line feed comes first behind a carriage return. -/
theorem head?_chunks {c : Chunk} {chunks : List Chunk} {last : Bytes} (h : ∀ d ∈ chunks, d.IsLine)
    (hlast : BreakFree (decodeLossy last)) (hjoins : (c :: chunks).IsChain (fun c next => ¬ c.Joins next))
    (hcr : c.lineEnd = "\r") :
    (chunks.flatMap Chunk.text ++ decodeLossy last).head? ≠ some '\n' := by
  have hbreakFree {text : List Char} (htext : BreakFree text) : text.head? ≠ some '\n' := by
    intro hhead
    exact htext '\n' (List.mem_of_head? hhead) (by decide)
  cases chunks with
  | nil => exact hbreakFree hlast
  | cons next chunks =>
    obtain ⟨hnext, -⟩ := List.forall_mem_cons.1 h
    obtain ⟨hjoin, -⟩ := List.isChain_cons_cons.1 hjoins
    by_cases hbytes : next.bytes = []
    · -- an empty chunk: its own line end comes first
      have hlf : next.lineEnd ≠ "\n" := fun hlf => hjoin ⟨hcr, hbytes, hlf⟩
      have htext : next.text = next.lineEnd.toList := by
        rw [Chunk.text, hbytes]
        rfl
      rw [List.flatMap_cons, htext]
      rcases lineEnd_cases hnext.ended with hpair | ⟨d, -, hd⟩
      · rw [hpair]
        simp
      · rw [hd]
        intro hhead
        obtain rfl : d = '\n' := by simpa using hhead
        exact hlf (String.toList_injective hd)
    · obtain ⟨d, ds, hd⟩ := List.exists_cons_of_ne_nil (mt decodeLossy_eq_nil_iff.1 hbytes)
      have hhead := hbreakFree hnext.breakFree
      rw [hd] at hhead
      rw [List.flatMap_cons, Chunk.text, hd]
      simpa using hhead

theorem linesAfter_chunks {chunks : List Chunk} {last : Bytes} (h : ∀ c ∈ chunks, c.IsLine)
    (hlast : BreakFree (decodeLossy last)) (hjoins : chunks.IsChain (fun c next => ¬ c.Joins next)) :
    linesAfter (chunks.flatMap Chunk.text ++ decodeLossy last) [] =
      chunks.map (fun c => decodeLossy c.bytes) ++ if last = [] then [] else [decodeLossy last] := by
  induction chunks with
  | nil =>
    have hend := linesAfter_breakFree hlast [] []
    rw [List.append_nil] at hend
    rw [List.flatMap_nil, List.nil_append, hend, linesAfter]
    by_cases hempty : last = []
    · simp [hempty, decodeLossy_eq_nil_iff.2]
    · simp [hempty, decodeLossy_eq_nil_iff]
  | cons c chunks ih =>
    obtain ⟨hc, hchunks⟩ := List.forall_mem_cons.1 h
    have hhead := head?_chunks hchunks hlast hjoins
    rw [List.flatMap_cons, List.append_assoc, Chunk.text, List.append_assoc,
      linesAfter_breakFree hc.breakFree, linesAfter_lineEnd hc.ended hhead, ih hchunks (List.isChain_of_isChain_cons hjoins)]
    simp

/-- Output that is put together of lines, the last of them without an end, is cut into these lines as they
are decoded; an empty last line is none. -/
theorem splitLines_chunks {chunks : List Chunk} {last : Bytes} (h : ∀ c ∈ chunks, c.IsLine)
    (hlast : BreakFree (decodeLossy last)) (hjoins : chunks.IsChain (fun c next => ¬ c.Joins next)) :
    splitLines (chunks.flatMap Chunk.captured ++ last) =
      (chunks.map fun c => String.ofList (decodeLossy c.bytes)) ++
        if last = [] then [] else [String.ofList (decodeLossy last)] := by
  rw [splitLines, decodeLossy_chunks h, linesAfter_chunks h hlast hjoins, List.map_append,
    List.map_map]
  by_cases hempty : last = []
  · simp [hempty]
  · simp [hempty]

/-- Characters that are broken off before line ends of several bytes, an empty line between carriage
returns, and a last line that breaks off as well. -/
theorem splitLines_chunks_torn :
    let chunks : List Chunk :=
      [⟨[0x61, 0xE2, 0x80], "\u2028"⟩, ⟨[0xC2], "\u0085"⟩, ⟨[], "\r"⟩, ⟨[], "\r\n"⟩, ⟨[], "\n"⟩]
    (∀ c ∈ chunks, c.IsLine) ∧ BreakFree (decodeLossy [0xF0, 0x9F]) ∧
      chunks.IsChain (fun c next => ¬ c.Joins next) ∧
      splitLines (chunks.flatMap Chunk.captured ++ [0xF0, 0x9F]) =
        ["a\uFFFD", "\uFFFD", "", "", "", "\uFFFD"] := by
  intro chunks
  have hlines : ∀ c ∈ chunks, c.IsLine := by
    simp only [chunks, List.forall_mem_cons]
    refine ⟨⟨by decide, by decide⟩, ⟨by decide, by decide⟩, ⟨by decide, by decide⟩,
      ⟨by decide, by decide⟩, ⟨by decide, by decide⟩, by simp⟩
  have hlast : BreakFree (decodeLossy [0xF0, 0x9F]) := by decide
  have hjoins : chunks.IsChain (fun c next => ¬ c.Joins next) := by
    simp [chunks, Chunk.Joins]
  refine ⟨hlines, hlast, hjoins, ?_⟩
  rw [splitLines_chunks hlines hlast hjoins]
  decide

end DeviceBench.Text

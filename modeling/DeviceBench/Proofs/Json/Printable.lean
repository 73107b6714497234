/-
JSON text holds no control characters: a text escapes those of its own, and nothing else that is
written is one. So whatever a value holds, its text is a single line.
-/
import DeviceBench.Json.Value
import DeviceBench.Proofs.Text.Digits

namespace DeviceBench.Json

/-- The first code that belongs to no control character of ASCII. -/
def firstPrintable : Nat := 0x20

/-- None of the characters is a control character of ASCII. -/
def Printable (cs : List Char) : Prop := ∀ c ∈ cs, firstPrintable ≤ c.toNat

-- by the list, also where the characters are known to be finitely many
instance (cs : List Char) : Decidable (Printable cs) :=
  List.decidableBAll (fun c : Char => firstPrintable ≤ c.toNat) cs

theorem Printable.append {as bs : List Char} (ha : Printable as) (hb : Printable bs) :
    Printable (as ++ bs) := by
  intro c hc
  rcases List.mem_append.1 hc with hc | hc
  · exact ha c hc
  · exact hb c hc

theorem Printable.cons {c : Char} {cs : List Char} (hc : firstPrintable ≤ c.toNat)
    (hcs : Printable cs) : Printable (c :: cs) :=
  List.forall_mem_cons.2 ⟨hc, hcs⟩

/-! ## Characters and numbers -/

theorem printable_digit {c : Char} (h : c.isDigit) : firstPrintable ≤ c.toNat :=
  Nat.le_trans (by decide) (Text.toNat_of_isDigit h).1

theorem printable_digitChar : ∀ n < 16, firstPrintable ≤ n.digitChar.toNat := by decide

theorem printable_int (n : Int) : Printable (toString n).toList := by
  intro c hc
  rcases Text.mem_toString_int hc with rfl | hdigit
  · decide
  · exact printable_digit hdigit

theorem printable_escapeChar (c : Char) : Printable (escapeChar c) := by
  unfold escapeChar
  split
  any_goals decide
  split
  · rename_i hc
    have hhigh := printable_digitChar (c.toNat / 16) (by omega)
    have hlow := printable_digitChar (c.toNat % 16) (by omega)
    have hmarked : Printable ['\\', 'u', '0', '0'] := by decide
    exact hmarked.append (.cons hhigh (.cons hlow (by decide)))
  · rename_i hc
    exact .cons (Nat.not_lt.1 hc) (by decide)

theorem printable_writeText (s : String) : Printable (writeText s) := by
  have hescaped : Printable (s.toList.flatMap escapeChar) := by
    intro c hc
    obtain ⟨d, -, hd⟩ := List.mem_flatMap.1 hc
    exact printable_escapeChar d c hd
  exact .append (.cons (by decide) hescaped) (by decide)

/-! ## Values -/

mutual

theorem printable_write : ∀ v : Json, Printable v.write
  | .null => by decide
  | .bool true => by decide
  | .bool false => by decide
  | .integer n => printable_int n
  | .real finite => show Printable ['0', '.', '0'] by decide
  | .text s => printable_writeText s
  | .brokenText => printable_writeText ""
  | .list items => .cons (by decide) (printable_writeItems items)
  | .record fields => .cons (by decide) (printable_writeFields fields)

theorem printable_writeItems : ∀ vs : List Json, Printable (writeItems vs)
  | [] => by decide
  | [v] => .append (printable_write v) (by decide)
  | v :: w :: vs => .append (printable_write v) (.cons (by decide) (printable_writeItems (w :: vs)))

theorem printable_writeFields : ∀ fs : List (Option String × Json), Printable (writeFields fs)
  | [] => by decide
  | [(name, v)] =>
    .append (.append (printable_writeText _) (.cons (by decide) (printable_write v))) (by decide)
  | (name, v) :: f :: fs =>
    .append (.append (printable_writeText _) (.cons (by decide) (printable_write v)))
      (.cons (by decide) (printable_writeFields (f :: fs)))

end

/-- The text of a value is one line. -/
theorem not_mem_toText (v : Json) : '\n' ∉ v.toText.toList := by
  rw [toText, String.toList_ofList]
  intro h
  exact absurd (printable_write v '\n' h) (by decide)

end DeviceBench.Json

/-
Written JSON is read back. The reader takes what the writer wrote in one pass: after a whole value it stands
where that value has been put in its place, after each mark where the mark leads.
-/
import DeviceBench.Proofs.Json.Literals
import DeviceBench.Proofs.Text.Hexadecimal
import Mathlib.Data.List.Basic

namespace DeviceBench.Json

/-! ## Values that are written as they are -/

/-- A value that its text says everything of: the integers in it fit 64 bits, signed or not, and there is
no real number, no broken text and no broken name. -/
inductive Exact : Json → Prop
  | null : Exact .null
  | bool (b : Bool) : Exact (.bool b)
  | integer {n : Int} : -9223372036854775808 ≤ n → n ≤ Text.maxWord → Exact (.integer n)
  | text (s : String) : Exact (.text s)
  | list {items : List Json} : (∀ v ∈ items, Exact v) → Exact (.list items)
  | record {fields : List (Option String × Json)} :
      (∀ f ∈ fields, f.1.isSome) → (∀ f ∈ fields, Exact f.2) → Exact (.record fields)

theorem exact_texts (items : List String) : Exact (texts items) := by
  refine .list fun v hv => ?_
  obtain ⟨s, -, rfl⟩ := List.mem_map.1 hv
  exact .text s

theorem exact_fields {named : List (String × Json)} (h : named.Forall fun f => Exact f.2) :
    Exact (fields named) := by
  rw [List.forall_iff_forall_mem] at h
  refine .record ?_ ?_ <;> intro f hf <;> obtain ⟨g, hg, rfl⟩ := List.mem_map.1 hf
  · rfl
  · exact h g hg

/-! ## Words -/

/-- A character that a word goes on with. -/
def Inner (c : Char) : Prop :=
  ¬(c = ' ' ∨ c = '\t' ∨ c = '\n' ∨ c = '\r' ∨ c = '"' ∨ (mark? c).isSome)

instance (c : Char) : Decidable (Inner c) := inferInstanceAs (Decidable (¬_))

/-- Nothing in the text ends a word. -/
def Unbroken (cs : List Char) : Prop := ∀ c ∈ cs, Inner c

-- by the list, also where the characters are known to be finitely many
instance (cs : List Char) : Decidable (Unbroken cs) := List.decidableBAll Inner cs

theorem inner_digit {c : Char} (h : c.isDigit = true) : Inner c := by
  have hmark : mark? c = none := by
    unfold mark?
    split <;> first | rfl | exact absurd h (by decide)
  rintro (rfl | rfl | rfl | rfl | rfl | hsome)
  case inr.inr.inr.inr.inr =>
    rw [hmark] at hsome
    exact absurd hsome (by decide)
  all_goals exact absurd h (by decide)

theorem unbroken_integer (n : Int) : Unbroken (toString n).toList := by
  intro c hc
  rcases Text.mem_toString_int hc with rfl | hdigit
  · decide
  · exact inner_digit hdigit

variable {tokens : List Token}

theorem lexStep_between {c : Char} (h : Inner c) :
    lexStep (.between, tokens) c = some (.word [c], tokens) := by
  simp only [Inner, not_or, Option.not_isSome_iff_eq_none] at h
  obtain ⟨hspace, htab, hfeed, hreturn, hquote, hmark⟩ := h
  simp [lexStep, lexBetween, hspace, htab, hfeed, hreturn, hquote, hmark]

theorem lexStep_word {cs : List Char} (h : Unbroken cs) (read : List Char) :
    cs.foldlM lexStep (.word read, tokens) = some (.word (cs.reverse ++ read), tokens) := by
  induction cs generalizing read with
  | nil => rfl
  | cons c cs ih =>
    obtain ⟨hc, hcs⟩ := List.forall_mem_cons.1 h
    have hstep : lexStep (.word read, tokens) c = some (.word (c :: read), tokens) := if_neg hc
    rw [List.foldlM_cons, hstep]
    simpa using ih hcs (c :: read)

/-! ## Quoted texts -/

theorem lexStep_quoted_of_printable {c : Char} (hquote : c ≠ '"') (hslash : c ≠ '\\')
    (hcode : ¬c.toNat < 0x20) (read : List Char) :
    lexStep (.quoted ⟨read, true, none⟩, tokens) c =
      some (.quoted ⟨c :: read, true, none⟩, tokens) := by
  rw [lexStep, if_neg hquote, if_neg hslash, if_neg hcode]
  rfl

theorem lexStep_code {n : Nat} (h : n < 0x20) (read : List Char) :
    ['\\', 'u', '0', '0', (n / 16).digitChar, (n % 16).digitChar].foldlM lexStep
        (.quoted ⟨read, true, none⟩, tokens) =
      some (.quoted ⟨Char.ofNat n :: read, true, none⟩, tokens) := by
  have hzero : Text.digitValue? 16 '0' = some 0 := rfl
  have hhigh := Text.digitValue?_digitChar (n / 16) (by omega)
  have hlow := Text.digitValue?_digitChar (n % 16) (by omega)
  have hvalue : n / 16 * 16 + n % 16 = n := Nat.div_add_mod' n 16
  have hunit : ¬(0xD800 ≤ n ∧ n < 0xDC00) ∧ ¬(0xDC00 ≤ n ∧ n < 0xE000) := by omega
  simp [lexStep, hzero, hhigh, hlow, hvalue, Quoted.pushUnit, hunit]

/-- What is written for a character is read as that character. -/
theorem lexStep_escapeChar (c : Char) (read : List Char) :
    (escapeChar c).foldlM lexStep (.quoted ⟨read, true, none⟩, tokens) =
      some (.quoted ⟨c :: read, true, none⟩, tokens) := by
  unfold escapeChar
  split
  case h_8 hquote hslash _ _ _ _ _ =>
    split
    · rename_i hcode
      rw [lexStep_code hcode, Char.ofNat_toNat]
    · rename_i hcode
      rw [List.foldlM_cons, lexStep_quoted_of_printable hquote hslash hcode]
      rfl
  all_goals rfl

theorem lexStep_escaped (cs read : List Char) :
    (cs.flatMap escapeChar).foldlM lexStep (.quoted ⟨read, true, none⟩, tokens) =
      some (.quoted ⟨cs.reverse ++ read, true, none⟩, tokens) := by
  induction cs generalizing read with
  | nil => rfl
  | cons c cs ih =>
    rw [List.flatMap_cons, List.foldlM_append, lexStep_escapeChar]
    simpa using ih (c :: read)

theorem lexStep_writeText (s : String) :
    (writeText s).foldlM lexStep (.between, tokens) = some (.between, .quoted (some s) :: tokens) := by
  have hopen : lexStep (.between, tokens) '"' = some (.quoted ⟨[], true, none⟩, tokens) := rfl
  have hclose : lexStep (.quoted ⟨s.toList.reverse ++ [], true, none⟩, tokens) '"' =
      some (.between, .quoted (some s) :: tokens) := by
    simp [lexStep, Quoted.text?]
  rw [writeText, List.foldlM_append, List.foldlM_cons, hopen, Option.bind_eq_bind, Option.bind_some,
    lexStep_escaped]
  exact hclose

/-! ## What a piece of text leads to -/

/-- The tokens so far, newest first, have brought the reading this far. -/
def ReadUpTo (tokens : List Token) (r : Reading) : Prop :=
  tokens.reverse.foldlM readStep (.value false []) = some r

/-- The cutting of tokens stands where the reading has come this far, if a word under way ends here. -/
inductive Stands (r : Reading) : Lexing × List Token → Prop
  | between {tokens : List Token} : ReadUpTo tokens r → Stands r (.between, tokens)
  | word {read : List Char} {tokens : List Token} {v : Json} :
      wordValue? read.reverse = some v → ReadUpTo (.word v :: tokens) r → Stands r (.word read, tokens)

/-- Read between tokens, the text leads from one point of the reading to another. -/
def Ends (r : Reading) (cs : List Char) (r' : Reading) : Prop :=
  ∀ tokens, ReadUpTo tokens r → ∃ s, cs.foldlM lexStep (.between, tokens) = some s ∧ Stands r' s

/-- The same for a text after which any token may follow. -/
def Leads (r : Reading) (cs : List Char) (r' : Reading) : Prop :=
  ∀ tokens, ReadUpTo tokens r →
    ∃ tokens', cs.foldlM lexStep (.between, tokens) = some (.between, tokens') ∧ ReadUpTo tokens' r'

section Leads

variable {r r' r'' : Reading} {as bs : List Char}

theorem ReadUpTo.cons {token : Token} (h : ReadUpTo tokens r) (hstep : readStep r token = some r') :
    ReadUpTo (token :: tokens) r' := by
  rw [ReadUpTo, List.reverse_cons, List.foldlM_append, h]
  simpa using hstep

/-- A mark ends a word. -/
theorem Stands.mark {s : Lexing × List Token} {c : Char} {token : Token} (h : Stands r s)
    (hc : mark? c = some token) (hstep : readStep r token = some r') :
    ∃ tokens, lexStep s c = some (.between, tokens) ∧ ReadUpTo tokens r' := by
  have hblank : ¬(c = ' ' ∨ c = '\t' ∨ c = '\n' ∨ c = '\r') := by
    rintro (rfl | rfl | rfl | rfl) <;> cases hc
  have hquote : c ≠ '"' := by
    rintro rfl
    cases hc
  have hbetween (tokens : List Token) : lexBetween tokens c = (.between, token :: tokens) := by
    rw [lexBetween, if_neg hblank, if_neg hquote, hc]
  cases h with
  | between hread => exact ⟨_, congrArg some (hbetween _), hread.cons hstep⟩
  | word hv hread =>
    refine ⟨_, ?_, hread.cons hstep⟩
    simp [lexStep, hc, hv, hbetween]

theorem Leads.ends (h : Leads r as r') : Ends r as r' := by
  intro tokens hread
  obtain ⟨tokens', hlex, hread'⟩ := h tokens hread
  exact ⟨_, hlex, .between hread'⟩

theorem Leads.append_ends (h : Leads r as r') (h' : Ends r' bs r'') : Ends r (as ++ bs) r'' := by
  intro tokens hread
  obtain ⟨tokens', hlex, hread'⟩ := h tokens hread
  obtain ⟨s, hlex', hstands⟩ := h' tokens' hread'
  refine ⟨s, ?_, hstands⟩
  rw [List.foldlM_append, hlex]
  exact hlex'

theorem Leads.append (h : Leads r as r') (h' : Leads r' bs r'') : Leads r (as ++ bs) r'' := by
  intro tokens hread
  obtain ⟨tokens', hlex, hread'⟩ := h tokens hread
  obtain ⟨tokens'', hlex', hread''⟩ := h' tokens' hread'
  refine ⟨tokens'', ?_, hread''⟩
  rw [List.foldlM_append, hlex]
  exact hlex'

theorem Ends.mark {c : Char} {token : Token} (h : Ends r as r') (hc : mark? c = some token)
    (hstep : readStep r' token = some r'') : Leads r (as ++ [c]) r'' := by
  intro tokens hread
  obtain ⟨s, hlex, hstands⟩ := h tokens hread
  obtain ⟨tokens', hlex', hread'⟩ := hstands.mark hc hstep
  refine ⟨tokens', ?_, hread'⟩
  rw [List.foldlM_append, hlex]
  simpa using hlex'

theorem leads_mark {c : Char} {token : Token} (hc : mark? c = some token)
    (hstep : readStep r token = some r') : Leads r [c] r' := by
  intro tokens hread
  obtain ⟨tokens', hlex, hread'⟩ := (Stands.between hread).mark hc hstep
  exact ⟨tokens', by simpa using hlex, hread'⟩

theorem leads_text {s : String} (hstep : readStep r (.quoted (some s)) = some r') :
    Leads r (writeText s) r' :=
  fun _ hread => ⟨_, lexStep_writeText s, hread.cons hstep⟩

theorem ends_word {v : Json} (hne : as ≠ []) (hinner : Unbroken as)
    (hv : wordValue? as = some v) (hstep : readStep r (.word v) = some r') : Ends r as r' := by
  intro tokens hread
  cases as with
  | nil => exact absurd rfl hne
  | cons c cs =>
    obtain ⟨hc, hcs⟩ := List.forall_mem_cons.1 hinner
    refine ⟨(.word (c :: cs).reverse, tokens), ?_, .word ?_ (hread.cons hstep)⟩
    · rw [List.foldlM_cons, lexStep_between hc, Option.bind_eq_bind, Option.bind_some,
        lexStep_word hcs, List.reverse_cons]
    · rwa [List.reverse_reverse]

end Leads

/-! ## Values -/

theorem ends_null (mayClose : Bool) (stack : List Frame) :
    Ends (.value mayClose stack) (write .null) (place .null stack) :=
  ends_word (by decide) (by decide) rfl rfl

theorem ends_bool (b mayClose : Bool) (stack : List Frame) :
    Ends (.value mayClose stack) (write (.bool b)) (place (.bool b) stack) := by
  cases b <;> exact ends_word (by decide) (by decide) rfl rfl

theorem ends_integer {n : Int} (hlow : -9223372036854775808 ≤ n) (hhigh : n ≤ Text.maxWord)
    (mayClose : Bool) (stack : List Frame) :
    Ends (.value mayClose stack) (write (.integer n)) (place (.integer n) stack) := by
  have hword := wordValue?_integer hlow hhigh
  refine ends_word ?_ (unbroken_integer n) hword rfl
  -- no value belongs to the empty word
  show (toString n).toList ≠ []
  intro hempty
  rw [hempty] at hword
  cases hword

/-- A field, from where its name is due. -/
theorem ends_field {s : String} {v : Json} {before : List (Option String × Json)}
    {stack : List Frame} (mayClose : Bool)
    (hv : Ends (.value false (.record before (some s) :: stack)) v.write
      (.afterField ((some s, v) :: before) stack)) :
    Ends (.name mayClose before stack) (writeText s ++ ':' :: v.write)
      (.afterField ((some s, v) :: before) stack) := by
  have hname : Leads (.name mayClose before stack) (writeText s) (.colon before (some s) stack) := by
    cases mayClose <;> exact leads_text rfl
  have hcolon : Leads (.colon before (some s) stack) [':']
      (.value false (.record before (some s) :: stack)) := leads_mark rfl rfl
  exact hname.append_ends (hcolon.append_ends hv)

mutual

theorem ends_write : ∀ v : Json, Exact v → ∀ (mayClose : Bool) (stack : List Frame),
    Ends (.value mayClose stack) v.write (place v stack)
  | .null, _, mayClose, stack => ends_null mayClose stack
  | .bool b, _, mayClose, stack => ends_bool b mayClose stack
  | .integer _, .integer hlow hhigh, mayClose, stack => ends_integer hlow hhigh mayClose stack
  | .text _, _, _, _ => (leads_text rfl).ends
  | .list items, .list hitems, _, stack =>
    ((leads_mark rfl rfl).append (leads_writeItems items hitems true [] stack fun _ => ⟨rfl, rfl⟩)).ends
  | .record fields, .record hnames hvalues, _, stack =>
    ((leads_mark rfl rfl).append
      (leads_writeFields fields hnames hvalues true [] stack fun _ => ⟨rfl, rfl⟩)).ends

theorem leads_writeItems : ∀ vs : List Json, (∀ v ∈ vs, Exact v) →
    ∀ (mayClose : Bool) (before : List Json) (stack : List Frame),
      (vs = [] → mayClose = true ∧ before = []) →
      Leads (.value mayClose (.list before :: stack)) (writeItems vs)
        (place (.list (before.reverse ++ vs)) stack)
  | [], _, mayClose, before, stack, hempty => by
    obtain ⟨rfl, rfl⟩ := hempty rfl
    exact leads_mark rfl rfl
  | [v], h, mayClose, before, stack, _ => by
    have hv := ends_write v (h v List.mem_cons_self) mayClose (.list before :: stack)
    have hclose := hv.mark (c := ']') rfl (show readStep _ .closeList = _ from rfl)
    rwa [List.reverse_cons] at hclose
  | v :: w :: vs, h, mayClose, before, stack, _ => by
    obtain ⟨hv, hvs⟩ := List.forall_mem_cons.1 h
    have hfirst := (ends_write v hv mayClose (.list before :: stack)).mark (c := ',') rfl
      (show readStep _ .comma = _ from rfl)
    have hrest := leads_writeItems (w :: vs) hvs false (v :: before) stack nofun
    have hboth := hfirst.append hrest
    rw [List.append_assoc, List.reverse_cons, List.append_assoc] at hboth
    exact hboth

theorem leads_writeFields : ∀ fs : List (Option String × Json), (∀ f ∈ fs, f.1.isSome) →
    (∀ f ∈ fs, Exact f.2) →
    ∀ (mayClose : Bool) (before : List (Option String × Json)) (stack : List Frame),
      (fs = [] → mayClose = true ∧ before = []) →
      Leads (.name mayClose before stack) (writeFields fs)
        (place (.record (before.reverse ++ fs)) stack)
  | [], _, _, mayClose, before, stack, hempty => by
    obtain ⟨rfl, rfl⟩ := hempty rfl
    exact leads_mark rfl rfl
  | [(name, v)], hnames, hvalues, mayClose, before, stack, _ => by
    obtain ⟨s, rfl⟩ := Option.isSome_iff_exists.1 (hnames (name, v) List.mem_cons_self)
    have hv := ends_write v (hvalues _ List.mem_cons_self) false (.record before (some s) :: stack)
    have hclose := (ends_field mayClose hv).mark (c := '\x7d') rfl
      (show readStep _ .closeRecord = _ from rfl)
    rw [List.reverse_cons] at hclose
    exact hclose
  | (name, v) :: f :: fs, hnames, hvalues, mayClose, before, stack, _ => by
    obtain ⟨hname, hnamed⟩ := List.forall_mem_cons.1 hnames
    obtain ⟨hv, hrest⟩ := List.forall_mem_cons.1 hvalues
    obtain ⟨s, rfl⟩ := Option.isSome_iff_exists.1 hname
    have hfirst := (ends_field mayClose (ends_write v hv false (.record before (some s) :: stack))).mark
      (c := ',') rfl (show readStep _ .comma = _ from rfl)
    have hboth := hfirst.append
      (leads_writeFields (f :: fs) hnamed hrest false ((some s, v) :: before) stack nofun)
    rw [List.append_assoc (_ ++ _), List.reverse_cons, List.append_assoc before.reverse] at hboth
    exact hboth

end

theorem Stands.exists_tokens {r : Reading} {cs : List Char} {s : Lexing × List Token}
    (hlex : cs.foldlM lexStep (.between, []) = some s) (h : Stands r s) :
    ∃ tokens, tokens? cs = some tokens ∧ tokens.foldlM readStep (.value false []) = some r := by
  cases h with
  | between hread =>
    refine ⟨_, ?_, hread⟩
    rw [tokens?, hlex]
    rfl
  | word hv hread =>
    refine ⟨_, ?_, hread⟩
    simp [tokens?, hlex, hv]

/-- Reading the text of a value gives the value. -/
theorem parse?_toText {v : Json} (h : Exact v) : parse? v.toText = some v := by
  obtain ⟨s, hlex, hstands⟩ := ends_write v h false [] [] rfl
  obtain ⟨tokens, htokens, hread⟩ := hstands.exists_tokens hlex
  rw [parse?, toText, String.toList_ofList, htokens, Option.bind_eq_bind, Option.bind_some, hread]
  rfl

end DeviceBench.Json

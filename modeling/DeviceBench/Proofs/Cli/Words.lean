/-
Words that do not name a configuration file. A parameter is given by an option with its name or by its
place, and the configuration file has no place, so a level whose words hold no option for it reads no
value for it, whatever else they give. What a level keeps is that nothing of it is given, waits to be
given or is free.
-/
import DeviceBench.Cli.Arguments

namespace DeviceBench.Cli

/-- None of the words is the option for the configuration file. -/
def NoConfigOption (words : List String) : Prop :=
  ∀ word ∈ words, ∀ value, Word.of word ≠ .long "config" value

theorem map_eq_ok_iff {ε α β : Type} {x : Except ε α} {f : α → β} {b : β} :
    x.map f = .ok b ↔ ∃ a, x = .ok a ∧ f a = b := by
  cases x <;> simp [Except.map]

/-- What every step of a fold keeps holds at its end. -/
theorem foldlM_induction {ε α β : Type} {P : α → Prop} {f : α → β → Except ε α} {xs : List β}
    {a a' : α} (hstep : ∀ a, P a → ∀ x ∈ xs, ∀ a', f a x = .ok a' → P a') (ha : P a)
    (hfold : xs.foldlM f a = .ok a') : P a' := by
  induction xs generalizing a with
  | nil =>
    cases hfold
    exact ha
  | cons x xs ih =>
    rw [List.foldlM_cons] at hfold
    obtain ⟨b, hb, hrest⟩ := bind_eq_ok_iff.1 hfold
    have hbP : P b := hstep a ha x List.mem_cons_self b hb
    exact ih (fun a ha x hx => hstep a ha x (List.mem_cons_of_mem _ hx)) hbP hrest

theorem Given.config_of_give {g g' : Given} {p : Parameter} {value : String} (hp : p ≠ .config)
    (h : g.give p value = .ok g') : g'.config = g.config := by
  rw [give] at h
  split at h
  · cases h
  · cases p
    case config => exact absurd rfl hp
    case quiet | exclude | mask | analyse | help | version =>
      cases h
      try rfl
    all_goals
      obtain ⟨_, -, rfl⟩ := map_eq_ok_iff.1 h
      rfl

namespace Level

/-- At its end a level looks at the environment only where it gives no configuration file, and there only
at whether the environment names the empty path. -/
theorem finish_eq (env : Option String) (l : Level) :
    l.finish env =
      l.settle >>= fun settled =>
        if settled.given.config = none ∧ env = some "" then .error (.noValue .config)
        else .ok settled.given := by
  rw [finish]
  cases l.settle with
  | error fault => rfl
  | ok settled =>
    simp only [bind, Except.bind]
    cases settled.given.config with
    | some path => rfl
    | none =>
      cases env with
      | none => rfl
      | some path =>
        by_cases hpath : path = "" <;> simp [readPath, hpath] <;> rfl

/-- The words read so far give no configuration file. -/
structure Bare (l : Level) : Prop where
  given : l.given.config = none
  pending : ∀ value, l.pending ≠ some (.config, value)
  free : .config ∉ l.free

theorem bare_start {positionals : List Parameter} (h : .config ∉ positionals) :
    (start positionals).Bare := ⟨rfl, nofun, h⟩

section Steps

variable {l l' : Level} (h : l.Bare)

include h

theorem Bare.settle (hsettle : l.settle = .ok l') : l'.Bare := by
  unfold Level.settle at hsettle
  split at hsettle
  · cases hsettle
    exact h
  · cases hsettle
  next p value hpending =>
    obtain ⟨given, hgive, rfl⟩ := map_eq_ok_iff.1 hsettle
    have hp : p ≠ .config := fun he => h.pending (some value) (he ▸ hpending)
    exact ⟨(Given.config_of_give hp hgive).trans h.given, nofun, h.free⟩

theorem Bare.give {p : Parameter} {value : String} (hp : p ≠ .config) (hgive : l.give p value = .ok l') :
    l'.Bare := by
  obtain ⟨settled, hsettle, hread⟩ := bind_eq_ok_iff.1 hgive
  obtain ⟨given, hgiven, hl'⟩ := bind_eq_ok_iff.1 hread
  cases hl'
  have hbare := h.settle hsettle
  exact ⟨(Given.config_of_give hp hgiven).trans hbare.given, hbare.pending, hbare.free⟩

theorem Bare.begin {p : Parameter} {value : Option String} (hp : p ≠ .config)
    (hbegin : l.begin p value = .ok l') : l'.Bare := by
  obtain ⟨settled, hsettle, hl'⟩ := bind_eq_ok_iff.1 hbegin
  cases hl'
  have hbare := h.settle hsettle
  exact ⟨hbare.given, fun _ he => hp (congrArg Prod.fst (Option.some.inj he)), hbare.free⟩

theorem Bare.takeLong {options : List Parameter} {name : String} {value : Option String}
    (hname : name ≠ "config") (htake : l.takeLong options name value = .ok l') : l'.Bare := by
  have hne {p : Parameter} (hfind : options.find? (·.long? = some name) = some p) : p ≠ .config := by
    rintro rfl
    have hlong := List.find?_some hfind
    exact hname (by simpa [Parameter.long?, eq_comm] using hlong)
  unfold Level.takeLong at htake
  split at htake
  · cases htake
  next p text hfind =>
    split at htake
    · cases htake
    · exact h.give (hne hfind) htake
  next p hfind =>
    split at htake
    · exact h.give (hne hfind) htake
    · exact h.begin (hne hfind) htake

theorem Bare.takeShort {options : List Parameter} {letter : Char}
    (htake : takeShort options l letter = .ok l') : l'.Bare := by
  unfold Level.takeShort at htake
  split at htake
  · cases htake
  next p hfind =>
    refine h.give ?_ htake
    rintro rfl
    simpa [Parameter.short?] using List.find?_some hfind

theorem Bare.takePlain {surplus : Fault} {word : String} (htake : l.takePlain surplus word = .ok l') :
    l'.Bare := by
  unfold Level.takePlain at htake
  split at htake
  · cases htake
  next p free hfree =>
    have hconfig := h.free
    rw [hfree, List.mem_cons, not_or] at hconfig
    obtain ⟨begun, hbegin, rfl⟩ := map_eq_ok_iff.1 htake
    have hbare := h.begin (Ne.symm hconfig.1) hbegin
    exact ⟨hbare.given, hbare.pending, hconfig.2⟩

theorem Bare.take {options : List Parameter} {surplus : Fault} {word : String}
    (hword : ∀ value, Word.of word ≠ .long "config" value)
    (htake : l.take options surplus word = .ok l') : l'.Bare := by
  unfold Level.take at htake
  split at htake
  · exact h.takePlain htake
  · split at htake
    · cases htake
      exact ⟨h.given, h.pending, h.free⟩
    next name value hof =>
      -- the one word that could begin to give a configuration file
      exact h.takeLong (fun he => hword value (he ▸ hof)) htake
    next letters _ =>
      exact foldlM_induction (fun _ hbare _ _ _ => hbare.takeShort) h htake
    next p _ hpending =>
      cases htake
      refine ⟨h.given, fun value he => ?_, h.free⟩
      cases he
      exact h.pending none hpending
    · exact h.takePlain htake

theorem Bare.config_of_finish {env : Option String} {given : Given} (hfinish : l.finish env = .ok given) :
    given.config = none := by
  rw [finish_eq] at hfinish
  obtain ⟨settled, hsettle, hgiven⟩ := bind_eq_ok_iff.1 hfinish
  split at hgiven <;> cases hgiven
  exact (h.settle hsettle).given

end Steps

end Level

/-! ## Both levels -/

theorem config_of_readSubcommand {s : Subcommand} {env : Option String} {words : List String}
    (h : NoConfigOption words) {given : Given} {command : Command}
    (hread : readSubcommand s env words = .ok (given, command)) : given.config = none := by
  obtain ⟨l, hfold, hrest⟩ := bind_eq_ok_iff.1 hread
  obtain ⟨given', hfinish, hcommand⟩ := bind_eq_ok_iff.1 hrest
  have hstart : (Level.start s.positionals).Bare := Level.bare_start (by cases s <;> decide)
  have hbare : l.Bare :=
    foldlM_induction (fun _ hbare word hword _ => hbare.take (h word hword)) hstart hfold
  split at hcommand
  · cases hcommand
  · cases hcommand
    exact hbare.config_of_finish hfinish

/-- Up to a subcommand no configuration file is given, and none of the words after it is an option for
one. -/
theorem bare_of_readTop {words : List String} (h : NoConfigOption words) {l top : Level} (hl : l.Bare)
    {after : Option (Subcommand × List String)} (hread : readTop l words = .ok (top, after)) :
    top.Bare ∧ ∀ s rest, after = some (s, rest) → NoConfigOption rest := by
  induction words generalizing l with
  | nil =>
    cases hread
    exact ⟨hl, nofun⟩
  | cons word words ih =>
    have hwords : NoConfigOption words := fun w hw => h w (List.mem_cons_of_mem _ hw)
    rw [readTop] at hread
    split at hread
    · cases hread
    · split at hread
      · cases hread
        refine ⟨hl, fun s rest hafter => ?_⟩
        cases hafter
        exact hwords
      · obtain ⟨next, htake, hrest⟩ := bind_eq_ok_iff.1 hread
        exact ih hwords (hl.take (h word List.mem_cons_self) htake) hrest

/-- A request of such words has the configuration file that the environment names. -/
theorem config_of_parse {env : Option String} {words : List String} (h : NoConfigOption words)
    {request : Request} (hparse : parse env words = .ok request) : request.config = env := by
  obtain ⟨⟨top, after⟩, hread, hrest⟩ := bind_eq_ok_iff.1 hparse
  obtain ⟨htop, hafter⟩ := bare_of_readTop h (Level.bare_start (by decide)) hread
  rcases after with _ | ⟨s, rest⟩
  · obtain ⟨_, -, hfault⟩ := bind_eq_ok_iff.1 hrest
    cases hfault
  · obtain ⟨⟨inner, command⟩, hinner, hrest⟩ := bind_eq_ok_iff.1 hrest
    obtain ⟨outer, houter, hrequest⟩ := bind_eq_ok_iff.1 hrest
    cases hrequest
    have hnone : inner.config = none := config_of_readSubcommand (hafter s rest rfl) hinner
    rw [hnone, htop.config_of_finish houter]
    rfl

end DeviceBench.Cli

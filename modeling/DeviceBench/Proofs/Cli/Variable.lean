/-
The configuration file that the environment names. Two readers look at its variable: the command line,
for which it counts as given as soon as it is set, and the settings, for which an empty variable is
none. A level of the command line looks at the variable once, at its end, so reading the same words with
different values goes the same way up to there. From that follows where the two readers agree: on every
path, but on the empty one only for words whose fault is noticed before their end.
-/
import DeviceBench.Proofs.Cli.Reports
import DeviceBench.Proofs.Cli.Words
import DeviceBench.Proofs.Text.Utf8

namespace DeviceBench

/-! ## Variables -/

namespace Environment

/-- The environment in which a variable is not set. -/
def unset (env : Environment) (name : String) : Environment :=
  ⟨env.bindings.filter fun binding => binding.1 != name⟩

/-- The environment in which a variable is set to a text. -/
def set (env : Environment) (name value : String) : Environment :=
  ⟨(name, Text.encode value) :: (env.unset name).bindings⟩

variable (env : Environment) (name : String)

theorem lookup_unset : (env.unset name).bindings.lookup name = none := lookup_filter_self name env.bindings

theorem lookup_unset_of_ne {other : String} (h : other ≠ name) :
    (env.unset name).bindings.lookup other = env.bindings.lookup other :=
  lookup_filter_of_ne h env.bindings

theorem get?_unset : (env.unset name).get? name = none := by
  rw [get?, lookup_unset]
  rfl

theorem shown?_unset : (env.unset name).shown? name = none := by
  rw [shown?, lookup_unset]
  rfl

theorem get?_unset_of_ne {other : String} (h : other ≠ name) :
    (env.unset name).get? other = env.get? other := by
  rw [get?, get?, lookup_unset_of_ne env name h]

variable (value : String)

theorem lookup_set : (env.set name value).bindings.lookup name = some (Text.encode value) := by
  simp [set]

theorem get?_set : (env.set name value).get? name = if value = "" then none else some value := by
  rw [get?, lookup_set, Option.bind_some, Text.decode?_encode]
  by_cases h : value = "" <;> simp [h]

theorem shown?_set : (env.set name value).shown? name = some value := by
  rw [shown?, lookup_set, Option.map_some, Text.decodeLossy_encode, String.ofList_toList]

theorem get?_set_of_ne {other : String} (h : other ≠ name) :
    (env.set name value).get? other = env.get? other := by
  have hne : (other == name) = false := by simpa using h
  rw [← get?_unset_of_ne env name h, get?, get?, set, List.lookup_cons, hne]

end Environment

namespace Config

/-- The settings of two environments that differ in the variable for the configuration file only. -/
theorem resolve_congr {env env' : Environment}
    (h : ∀ name ≠ Environment.configFileVariable, env.get? name = env'.get? name) (file : ConfigFile) :
    resolve env file = resolve env' file := by
  unfold resolve
  dsimp only
  rw [h Environment.deviceVariable (by decide), h Environment.commandProgramVariable (by decide),
    h Environment.scheduleProgramVariable (by decide), h Environment.schedulesDirVariable (by decide),
    h Environment.snoopTemplateVariable (by decide)]

/-- For the settings a variable that is empty is not set. -/
theorem ofEnvironment_set_empty (env : Environment) (files : Files) :
    ofEnvironment (env.set Environment.configFileVariable "") files =
      ofEnvironment (env.unset Environment.configFileVariable) files := by
  rw [ofEnvironment, ofEnvironment, Environment.get?_set, Environment.get?_unset]
  refine resolve_congr (fun name hname => ?_) .empty
  rw [Environment.get?_set_of_ne _ _ _ hname, Environment.get?_unset_of_ne _ _ hname]

/-- The settings come from the file that the variable names. -/
theorem ofEnvironment_set {path : String} (h : path ≠ "") (env : Environment) (files : Files) :
    ofEnvironment (env.set Environment.configFileVariable path) files =
      ofFile (env.set Environment.configFileVariable path) files path := by
  rw [ofEnvironment, Environment.get?_set, if_neg h]

end Config

namespace Cli

/-! ## Levels -/

theorem Level.finish_some {path : String} (h : path ≠ "") (l : Level) :
    l.finish (some path) = l.finish none := by
  simp [Level.finish_eq, h]

/-- A level ends with a fault or gives a configuration file, in both cases whatever the variable holds, or
the variable must not be empty. -/
theorem Level.finish_cases (l : Level) :
    (∃ fault, ∀ env, l.finish env = .error fault) ∨
      (∃ given, given.config ≠ none ∧ ∀ env, l.finish env = .ok given) ∨
      l.finish (some "") = .error (.noValue .config) := by
  cases hsettle : l.settle with
  | error fault =>
    refine .inl ⟨fault, fun env => ?_⟩
    rw [finish_eq, hsettle]
    rfl
  | ok settled =>
    have hfinish (env : Option String) : l.finish env =
        if settled.given.config = none ∧ env = some "" then .error (.noValue .config)
        else .ok settled.given := by
      rw [finish_eq, hsettle]
      rfl
    by_cases hconfig : settled.given.config = none
    · exact .inr (.inr ((hfinish (some "")).trans (if_pos ⟨hconfig, rfl⟩)))
    · refine .inr (.inl ⟨settled.given, hconfig, fun env => ?_⟩)
      exact (hfinish env).trans (if_neg fun h => hconfig h.1)

theorem readSubcommand_some {path : String} (h : path ≠ "") (s : Subcommand) (words : List String) :
    readSubcommand s (some path) words = readSubcommand s none words := by
  simp only [readSubcommand, Level.finish_some h]

theorem readSubcommand_cases (s : Subcommand) (words : List String) :
    (∃ fault, ∀ env, readSubcommand s env words = .error fault) ∨
      (∃ given command, given.config ≠ none ∧
        ∀ env, readSubcommand s env words = .ok (given, command)) ∨
      readSubcommand s (some "") words = .error (.noValue .config) := by
  unfold readSubcommand
  cases words.foldlM (fun l word => Level.take s.options (.unknownArgument word) l word)
    (Level.start s.positionals) with
  | error fault => exact .inl ⟨fault, fun _ => rfl⟩
  | ok l =>
    simp only [bind, Except.bind]
    rcases l.finish_cases with ⟨fault, hfinish⟩ | ⟨given, hconfig, hfinish⟩ | hfinish
    · exact .inl ⟨fault, fun env => by rw [hfinish env]⟩
    · simp only [hfinish]
      cases given.command? s with
      | none => exact .inl ⟨.missingArguments, fun _ => rfl⟩
      | some command => exact .inr (.inl ⟨given, command, hconfig, fun _ => rfl⟩)
    · exact .inr (.inr (by rw [hfinish]))

/-! ## Both levels -/

/-- The reading of the words ends with one fault, whatever the variable holds. -/
def Settled (words : List String) : Prop := ∃ fault, ∀ env, parse env words = .error fault

/-- What the words ask for names no configuration file. -/
def NamesNoFile (words : List String) : Prop :=
  ∀ request, parse none words = .ok request → request.config = none

/-- A request takes the file of the variable where it names none. -/
def Request.orConfig (r : Request) (path : String) : Request :=
  { r with config := r.config.or (some path) }

section Top

variable {words : List String} {top : Level}

theorem parse_of_fault {fault : Fault} (h : readTop (.start []) words = .error fault)
    (env : Option String) : parse env words = .error fault := by
  rw [parse, h]
  rfl

theorem parse_of_none (h : readTop (.start []) words = .ok (top, none)) (env : Option String) :
    parse env words = top.finish env >>= fun given => .error (noSubcommand given env) := by
  rw [parse, h]
  rfl

theorem parse_of_subcommand {s : Subcommand} {rest : List String}
    (h : readTop (.start []) words = .ok (top, some (s, rest))) (env : Option String) :
    parse env words =
      readSubcommand s env rest >>= fun inner =>
        top.finish env >>= fun outer =>
          .ok ⟨(inner.1.config.or outer.config).or env, inner.1.captureLog.or outer.captureLog, inner.2⟩ := by
  rw [parse, h]
  rfl

end Top

/-- A variable that names a path changes nothing but the configuration file of the request, and of two
faults without a subcommand it makes the other. -/
theorem parse_some {path : String} (h : path ≠ "") (words : List String) :
    parse (some path) words = (parse none words).map (·.orConfig path) ∨
      parse none words = .error .nothingGiven ∧ parse (some path) words = .error .noSubcommand := by
  rcases htop : readTop (.start []) words with fault | ⟨top, _ | ⟨s, rest⟩⟩
  · rw [parse_of_fault htop, parse_of_fault htop]
    exact .inl rfl
  · rw [parse_of_none htop, parse_of_none htop, Level.finish_some h]
    cases top.finish none with
    | error fault => exact .inl rfl
    | ok given =>
      simp only [bind, Except.bind]
      have hsome : noSubcommand given (some path) = .noSubcommand := by simp [noSubcommand]
      have hnone : noSubcommand given none = .nothingGiven ∨ noSubcommand given none = .noSubcommand := by
        unfold noSubcommand
        split <;> simp
      rcases hnone with hnone | hnone <;> rw [hnone, hsome]
      · exact .inr ⟨rfl, rfl⟩
      · exact .inl rfl
  · rw [parse_of_subcommand htop, parse_of_subcommand htop, Level.finish_some h, readSubcommand_some h]
    refine .inl ?_
    cases readSubcommand s none rest with
    | error fault => rfl
    | ok inner =>
      cases top.finish none with
      | error fault => rfl
      | ok outer => simp [bind, Except.bind, Request.orConfig, Except.map]

/-- An empty variable is refused, unless the words end the reading or name a configuration file on both
levels. -/
theorem parse_empty_cases (words : List String) :
    Settled words ∨ (∃ request, request.config ≠ none ∧ ∀ env, parse env words = .ok request) ∨
      parse (some "") words = .error (.noValue .config) := by
  rcases htop : readTop (.start []) words with fault | ⟨top, _ | ⟨s, rest⟩⟩
  · exact .inl ⟨fault, parse_of_fault htop⟩
  · have hparse := parse_of_none htop
    rcases top.finish_cases with ⟨fault, hfinish⟩ | ⟨given, hconfig, hfinish⟩ | hfinish
    · exact .inl ⟨fault, fun env => by rw [hparse, hfinish]; rfl⟩
    · refine .inl ⟨.noSubcommand, fun env => ?_⟩
      rw [hparse, hfinish]
      simp [bind, Except.bind, noSubcommand, hconfig]
    · exact .inr (.inr (by rw [hparse, hfinish]; rfl))
  · have hparse := parse_of_subcommand htop
    rcases readSubcommand_cases s rest with ⟨fault, hread⟩ | ⟨inner, command, hinner, hread⟩ | hread
    · exact .inl ⟨fault, fun env => by rw [hparse, hread]; rfl⟩
    · -- the words after the subcommand give a file, so the variable counts for those before it only
      rcases top.finish_cases with ⟨fault, hfinish⟩ | ⟨outer, -, hfinish⟩ | hfinish
      · exact .inl ⟨fault, fun env => by rw [hparse, hread, hfinish]; rfl⟩
      · refine .inr (.inl ⟨⟨inner.config, inner.captureLog.or outer.captureLog, command⟩, hinner, ?_⟩)
        intro env
        obtain ⟨path, hpath⟩ := Option.ne_none_iff_exists'.1 hinner
        rw [hparse, hread, hfinish]
        simp [bind, Except.bind, hpath]
      · exact .inr (.inr (by rw [hparse, hread, hfinish]; rfl))
    · exact .inr (.inr (by rw [hparse, hread]; rfl))

/-- Words that end with the same fault without the variable and with an empty one end with it whatever the
variable holds. -/
theorem settled_of_empty {words : List String} {fault : Fault} (hne : fault ≠ .nothingGiven)
    (hnone : parse none words = .error fault) (hempty : parse (some "") words = .error fault) :
    Settled words := by
  refine ⟨fault, fun value => ?_⟩
  rcases value with _ | path
  · exact hnone
  · by_cases hpath : path = ""
    · rw [hpath, hempty]
    · -- a path changes no fault but the one that is excluded
      rcases parse_some hpath words with hparse | ⟨hother, -⟩
      · rw [hparse, hnone]
        rfl
      · rw [hnone] at hother
        exact absurd (Except.error.inj hother) hne

/-! ## Runs -/

section Runs

variable {words : List String} (hwords : NamesNoFile words)

include hwords

theorem parse_empty (h : ¬ Settled words) : parse (some "") words = .error (.noValue .config) := by
  rcases parse_empty_cases words with hsettled | ⟨request, hconfig, hparse⟩ | hparse
  · exact absurd hsettled h
  · exact absurd (hwords request (hparse none)) hconfig
  · exact hparse

theorem parse_some_eq_ok_iff {path : String} (h : path ≠ "") (request : Request) :
    parse (some path) words = .ok request ↔
      request.config = some path ∧ parse none words = .ok { request with config := none } := by
  rcases parse_some h words with hparse | ⟨hnone, hparse⟩
  · rw [hparse, map_eq_ok_iff]
    constructor
    · rintro ⟨r, hr, rfl⟩
      have hconfig := hwords r hr
      simp only [Request.orConfig, hconfig, Option.none_or, true_and]
      rw [hr, ← hconfig]
    · rintro ⟨hconfig, hr⟩
      exact ⟨_, hr, by rw [Request.orConfig, ← hconfig]; rfl⟩
  · simp [hnone, hparse]

theorem run_set_empty (h : ¬ Settled words) (env : Environment) (w : World) :
    run (env.set Environment.configFileVariable "") words w = (.ofFault (.noValue .config), w) := by
  rw [run, Environment.shown?_set, parse_empty hwords h]

/-- An empty variable and one that is not set come to the same exactly if the words end the reading. -/
theorem run_set_empty_iff (env : Environment) (w : World) :
    run (env.set Environment.configFileVariable "") words w =
        run (env.unset Environment.configFileVariable) words w ↔
      Settled words := by
  constructor
  · intro hrun
    by_contra hsettled
    have hrefused := run_set_empty hwords hsettled env w
    have hcode : (run (env.unset Environment.configFileVariable) words w).1.code = 2 := by
      rw [← hrun, hrefused]
      rfl
    -- the code shows that the words are refused without the variable too, the message that it is for the same
    obtain ⟨fault, hnone, -⟩ := (run_code_eq_two_iff _ words w).1 hcode
    have hfault : fault = .noValue .config := by
      have hunset : run (env.unset Environment.configFileVariable) words w = (.ofFault fault, w) := by
        rw [run, hnone]
      have hreports : (Report.ofFault fault, w) = (Report.ofFault (.noValue .config), w) := by
        rw [← hrefused, hrun, hunset]
      exact ofFault_eq_noConfig_iff.1 (congrArg Prod.fst hreports)
    rw [Environment.shown?_unset, hfault] at hnone
    exact hsettled (settled_of_empty (by decide) hnone (parse_empty hwords hsettled))
  · rintro ⟨fault, hparse⟩
    rw [run, run, hparse, hparse]

end Runs

/-- Only a comparison takes the configuration file of its request as it is; every other command takes the
settings of the environment, which are those of the file that the variable names. -/
theorem perform_withoutConfig {env : Environment} {request : Request} {path : String} (h : path ≠ "")
    (hcommand : ∀ current expected exclude, request.command ≠ .compare current expected exclude)
    (hconfig : request.config = some path) (w : World) :
    perform (env.set Environment.configFileVariable path) request w =
      perform (env.set Environment.configFileVariable path) { request with config := none } w := by
  have hsettings (files : Files) :
      settings (env.set Environment.configFileVariable path) files request.config =
        settings (env.set Environment.configFileVariable path) files none := by
    rw [hconfig, settings, settings, Config.ofEnvironment_set h]
  unfold perform
  dsimp only
  cases hc : request.command with
  | frequency | bits => rfl
  | compare current expected exclude => exact absurd hc (hcommand current expected exclude)
  | snoop | scenario =>
    unfold onDevice
    rw [hsettings]

/-- What becomes of words in an environment that names a configuration file, where they name none. -/
structure TakesFile (env : Environment) (path : String) (words : List String) (w : World) : Prop where
  /-- The settings for the file are those of the environment. -/
  settings_eq : ∀ files, settings env files (some path) = Config.ofEnvironment env files
  ofEnvironment_eq : ∀ files, Config.ofEnvironment env files = Config.ofFile env files path
  /-- The words make a request with that file exactly if they make one without the variable. -/
  request_iff : ∀ request, parse (some path) words = .ok request ↔
    request.config = some path ∧ parse none words = .ok { request with config := none }
  run_eq : ∀ request, parse (some path) words = .ok request → run env words w = perform env request w
  /-- Without the file the request does the same, unless it is for a comparison. -/
  run_eq_withoutConfig : ∀ request, parse (some path) words = .ok request →
    (∀ current expected exclude, request.command ≠ .compare current expected exclude) →
    run env words w = perform env { request with config := none } w

theorem takesFile {words : List String} (hwords : NamesNoFile words) {path : String} (h : path ≠ "")
    (env : Environment) (w : World) :
    TakesFile (env.set Environment.configFileVariable path) path words w := by
  have hiff := parse_some_eq_ok_iff hwords h
  have hrun (request : Request) (hparse : parse (some path) words = .ok request) :
      run (env.set Environment.configFileVariable path) words w =
        perform (env.set Environment.configFileVariable path) request w := by
    rw [run, Environment.shown?_set, hparse]
  refine ⟨fun files => ?_, Config.ofEnvironment_set h env, hiff, hrun, fun request hparse hcommand => ?_⟩
  · rw [Config.ofEnvironment_set h, settings]
  · rw [hrun request hparse, perform_withoutConfig h hcommand ((hiff request).1 hparse).1]

/-- The two readers of the variable for the configuration file, for words that name no such file. The
settings take an empty variable for one that is not set. The program does so exactly if the words end the
reading of the command line; everywhere else it refuses the command line and does nothing. A path in the
variable is the file of every request that the words make, with the settings of the environment. -/
theorem configVariable_account (env : Environment) (words : List String) (w : World) :
    let emptied := env.set Environment.configFileVariable ""
    let unset := env.unset Environment.configFileVariable
    (∀ files, Config.ofEnvironment emptied files = Config.ofEnvironment unset files) ∧
      (NoConfigOption words → NamesNoFile words) ∧
      (NamesNoFile words →
        (run emptied words w = run unset words w ↔ Settled words) ∧
          (¬ Settled words → run emptied words w = (.ofFault (.noValue .config), w)) ∧
          ∀ path ≠ "", TakesFile (env.set Environment.configFileVariable path) path words w) := by
  intro emptied unset
  refine ⟨Config.ofEnvironment_set_empty env, fun hwords _ => config_of_parse hwords, fun hwords => ?_⟩
  exact ⟨run_set_empty_iff hwords env w, fun h => run_set_empty hwords h env w,
    fun path hpath => takesFile hwords hpath env w⟩

theorem noConfigOption_of_plain {words : List String} (h : ∀ word ∈ words, Word.of word = .plain) :
    NoConfigOption words := by
  intro word hword value
  rw [h word hword]
  nofun

/-- A mask needs no configuration, but is refused where the variable is empty. A scenario takes the file
that the variable names, here one that does not exist. -/
theorem configVariable_account_missing :
    let env : Environment := ⟨[]⟩
    let w := World.of .empty (fun _ _ _ => .refused .notFound) .yearsEnd
    NamesNoFile ["bits", "0x5"] ∧ ¬ Settled ["bits", "0x5"] ∧
      run (env.set Environment.configFileVariable "") ["bits", "0x5"] w =
        (.ofFault (.noValue .config), w) ∧
      NamesNoFile ["scenario", "reset"] ∧
      run (env.set Environment.configFileVariable "a.toml") ["scenario", "reset"] w =
        (.ofFailure (.file "a.toml" .notFound), w) := by
  intro env w
  obtain ⟨-, hmask, hbits⟩ := configVariable_account env ["bits", "0x5"] w
  have hbitsNames := hmask (noConfigOption_of_plain (by decide))
  have hsettled : ¬ Settled ["bits", "0x5"] := by
    have hnone : parse none ["bits", "0x5"] = .ok ⟨none, none, .bits "0x5" 32⟩ := by decide
    rintro ⟨fault, hparse⟩
    rw [hparse none] at hnone
    cases hnone
  obtain ⟨-, hreset, hscenario⟩ := configVariable_account env ["scenario", "reset"] w
  have hresetNames := hreset (noConfigOption_of_plain (by decide))
  have hnamed := (hscenario hresetNames).2.2 "a.toml" (by decide)
  have hrequest : parse (some "a.toml") ["scenario", "reset"] =
      .ok ⟨some "a.toml", none, .scenario .reset .eight .decimal⟩ :=
    (hnamed.request_iff _).2 ⟨rfl, by decide⟩
  refine ⟨hbitsNames, hsettled, (hbits hbitsNames).2.1 hsettled, hresetNames, ?_⟩
  have hsettings : Config.ofEnvironment (env.set Environment.configFileVariable "a.toml") w.files =
      .error (.file "a.toml" .notFound) := by
    have hread : w.files.read "a.toml" = .error .notFound := rfl
    rw [hnamed.ofEnvironment_eq, Config.ofFile, ConfigFile.load, Files.readText, hread]
    rfl
  rw [hnamed.run_eq_withoutConfig _ hrequest (by simp)]
  simp only [perform, onDevice, settings, hsettings]

/-- The program decodes a mask where the variable is not set, and ends with a fault where it is empty. -/
theorem run_mask_ne :
    let env : Environment := ⟨[]⟩
    let w := World.of .empty (fun _ _ _ => .refused .notFound) .yearsEnd
    NoConfigOption ["bits", "0x5"] ∧
      run (env.unset Environment.configFileVariable) ["bits", "0x5"] w = (⟨0, "0 2\n", ""⟩, w) ∧
      run (env.set Environment.configFileVariable "") ["bits", "0x5"] w =
        (⟨2, "", "error: a value is required for '--config <CONFIG>' but none was supplied\n"⟩, w) :=
  ⟨noConfigOption_of_plain (by decide), rfl, rfl⟩

end Cli

end DeviceBench

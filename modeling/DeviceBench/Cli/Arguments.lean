/-
Reading a command line. The words before a subcommand form one level, those after it another. A
value is read when the next parameter begins or its level ends, so of two faults the one that is
noticed first is reported: an unknown option even before the fault of a value that stands before it.
-/
import DeviceBench.Cli.Given

namespace DeviceBench.Cli

/-! ## Words -/

/-- What a word looks like. -/
inductive Word where
  /-- Two dashes: all words after it are plain. -/
  | separator
  /-- Two dashes and a name, and the text after the first equals sign. -/
  | long (name : String) (value : Option String)
  /-- A dash and letters. -/
  | short (letters : List Char)
  /-- Anything else, also a lone dash. -/
  | plain
  deriving DecidableEq, Repr

/-- What the characters of a word look like. -/
def Word.ofChars : List Char → Word
  | ['-', '-'] => .separator
  | '-' :: '-' :: cs =>
    match Text.splitFirst? '=' cs with
    | some (name, value) => .long (String.ofList name) (some (String.ofList value))
    | none => .long (String.ofList cs) none
  | '-' :: c :: cs => .short (c :: cs)
  | _ => .plain

/-- What a word looks like. -/
def Word.of (word : String) : Word := .ofChars word.toList

/-! ## One level -/

/-- The state of reading a level: what is given, the parameter that is being given with its value if
that has come, the positionals that are free, and whether all words that follow are plain. -/
structure Level where
  given : Given
  pending : Option (Parameter × Option String)
  free : List Parameter
  plainOnly : Bool
  deriving DecidableEq, Repr

namespace Level

/-- A level with these positionals of which nothing has been read. -/
def start (positionals : List Parameter) : Level := ⟨{}, none, positionals, false⟩

/-- An option waits for its value. -/
def awaitsValue (l : Level) : Bool := l.pending.any fun (_, value) => value.isNone

/-- A subcommand may follow. -/
def mayEnd (l : Level) : Bool := !l.plainOnly && !l.awaitsValue

/-- Reads the value of the parameter that is being given. -/
def settle (l : Level) : Except Fault Level :=
  match l.pending with
  | none => .ok l
  | some (p, none) => .error (.noValue p)
  | some (p, some value) => (l.given.give p value).map fun given => { l with given, pending := none }

/-- Gives a parameter with its value at once. -/
def give (l : Level) (p : Parameter) (value : String) : Except Fault Level := do
  let l ← l.settle
  return { l with given := ← l.given.give p value }

/-- Begins to give a parameter. -/
def begin (l : Level) (p : Parameter) (value : Option String) : Except Fault Level := do
  return { ← l.settle with pending := some (p, value) }

/-- Takes a long option. -/
def takeLong (options : List Parameter) (l : Level) (name : String) (value : Option String) :
    Except Fault Level :=
  match options.find? (·.long? = some name), value with
  | none, _ => .error (.unknownArgument ("--" ++ name))
  | some p, some value => if p.isFlag then .error (.unexpectedValue value p) else l.give p value
  | some p, none => if p.isFlag then l.give p "" else l.begin p none

/-- Takes a short option. -/
def takeShort (options : List Parameter) (l : Level) (letter : Char) : Except Fault Level :=
  match options.find? (·.short? = some letter) with
  | none => .error (.unknownArgument (String.ofList ['-', letter]))
  | some p => l.give p ""

/-- Takes a word that is no option; `surplus` is the fault if no positional is free. -/
def takePlain (surplus : Fault) (l : Level) (word : String) : Except Fault Level :=
  match l.free with
  | [] => .error surplus
  | p :: free => (l.begin p (some word)).map fun l => { l with free }

/-- Takes a word. -/
def take (options : List Parameter) (surplus : Fault) (l : Level) (word : String) :
    Except Fault Level :=
  if l.plainOnly then l.takePlain surplus word
  else
    match Word.of word, l.pending with
    | .separator, _ => .ok { l with plainOnly := true }
    | .long name value, _ => l.takeLong options name value
    | .short letters, _ => letters.foldlM (takeShort options) l
    | .plain, some (p, none) => .ok { l with pending := some (p, some word) }
    | .plain, _ => l.takePlain surplus word

/-- Ends a level. Where it gives no configuration file, the one that the environment names counts as
given and has to be a path. -/
def finish (env : Option String) (l : Level) : Except Fault Given := do
  let given := (← l.settle).given
  match given.config, env with
  | none, some path => discard <| readPath .config path
  | _, _ => pure ()
  return given

end Level

/-! ## Both levels -/

/-- Reads the words after a subcommand. -/
def readSubcommand (s : Subcommand) (env : Option String) (words : List String) :
    Except Fault (Given × Command) := do
  let l ← words.foldlM (fun l word => Level.take s.options (.unknownArgument word) l word)
    (Level.start s.positionals)
  let given ← l.finish env
  match given.command? s with
  | none => throw .missingArguments
  | some command => return (given, command)

/-- What the words after the word for help ask for: help on a subcommand that exists. -/
def helpFault : List String → Fault
  | [] => .help
  | word :: words =>
    if word ≠ helpWord ∧ (Subcommand.ofName? word).isNone then .unknownSubcommand word
    else
      match words with
      | [] => .help
      | next :: _ => .unknownSubcommand next

/-- The fault of a word that stands where only a subcommand can. Where all words are plain the name
of a subcommand has lost its meaning. -/
def surplusAtTop (l : Level) (word : String) : Fault :=
  if l.plainOnly ∧ (word = helpWord ∨ (Subcommand.ofName? word).isSome) then .unknownArgument word
  else .unknownSubcommand word

/-- The words up to a subcommand, and that subcommand with the words after it. -/
def readTop (l : Level) : List String → Except Fault (Level × Option (Subcommand × List String))
  | [] => .ok (l, none)
  | word :: words =>
    if l.mayEnd ∧ word = helpWord then .error (helpFault words)
    else
      match if l.mayEnd then Subcommand.ofName? word else none with
      | some s => .ok (l, some (s, words))
      | none => do readTop (← l.take topOptions (surplusAtTop l word) word) words

/-- The fault of a command line without a subcommand. -/
def noSubcommand (given : Given) (env : Option String) : Fault :=
  if given.config.isNone ∧ given.captureLog.isNone ∧ env.isNone then .nothingGiven else .noSubcommand

/-- The request that a command line makes; `env` is the configuration file that the environment
names. What stands after the subcommand wins over what stands before it, and that over the
environment. -/
def parse (env : Option String) (words : List String) : Except Fault Request := do
  match ← readTop (.start []) words with
  | (top, none) => throw (noSubcommand (← top.finish env) env)
  | (top, some (s, words)) =>
    let (given, command) ← readSubcommand s env words
    let outer ← top.finish env
    return ⟨(given.config.or outer.config).or env, given.captureLog.or outer.captureLog, command⟩

end DeviceBench.Cli

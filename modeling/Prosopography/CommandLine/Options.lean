import Prosopography.Decimal.Reader
import Prosopography.Settings.File

/-!
# Options of a run

An option is given once, with its value in the same argument or in the next one.
What the arguments leave out is taken from the environment. An argument that asks
for information ends the reading at once, unless a fault came before it.
-/

namespace Prosopography

/-- Options with a value. -/
inductive OptionName where
  | config
  | entities
  | trials
  | outputDir
  | mergeThreshold
  | givenNameThreshold
  | minKeyLength
  | mergeStrategy
  | superWitnessMin
  | logLevel
deriving Repr, DecidableEq

namespace OptionName

/-- All options with a value. -/
def all : List OptionName :=
  [config, entities, trials, outputDir, mergeThreshold, givenNameThreshold, minKeyLength,
    mergeStrategy, superWitnessMin, logLevel]

/-- The name after two dashes. -/
def long : OptionName → String
  | config => "config"
  | entities => "entities"
  | trials => "trials"
  | outputDir => "output-dir"
  | mergeThreshold => "merge-threshold"
  | givenNameThreshold => "given-name-threshold"
  | minKeyLength => "min-key-length"
  | mergeStrategy => "merge-strategy"
  | superWitnessMin => "super-witness-min"
  | logLevel => "log-level"

/-- The letter after one dash. -/
def short? : OptionName → Option Char
  | config => some 'c'
  | outputDir => some 'o'
  | _ => none

/-- The environment variable that stands in for the option. -/
def environmentName : OptionName → String
  | config => "PERSONAE_CONFIG"
  | entities => "PERSONAE_ENTITIES"
  | trials => "PERSONAE_TRIALS"
  | outputDir => "PERSONAE_OUTPUT_DIR"
  | mergeThreshold => "PERSONAE_MERGE_THRESHOLD"
  | givenNameThreshold => "PERSONAE_GIVEN_NAME_THRESHOLD"
  | minKeyLength => "PERSONAE_MIN_KEY_LENGTH"
  | mergeStrategy => "PERSONAE_MERGE_STRATEGY"
  | superWitnessMin => "PERSONAE_SUPER_WITNESS_MIN"
  | logLevel => "PERSONAE_LOG_LEVEL"

end OptionName

/-- The options of a run. -/
structure Options where
  config : Option Path
  overrides : Overrides

/-- Why no run follows. -/
inductive NoRun where
  /-- The arguments or the environment break a rule. -/
  | misuse
  /-- The arguments ask what the options are, or for the version. -/
  | information
deriving Repr, DecidableEq

namespace Options

/-- The options of a call that gives none. -/
def empty : Options := ⟨none, ⟨none, none, none, none, none, none, none, none, none, none⟩⟩

/-- Whether an option was given. -/
def has (o : Options) : OptionName → Bool
  | .config => o.config.isSome
  | .entities => o.overrides.entities.isSome
  | .trials => o.overrides.trials.isSome
  | .outputDir => o.overrides.output.isSome
  | .mergeThreshold => o.overrides.mergeThreshold.isSome
  | .givenNameThreshold => o.overrides.givenNameThreshold.isSome
  | .minKeyLength => o.overrides.minKeyLength.isSome
  | .mergeStrategy => o.overrides.strategy.isSome
  | .superWitnessMin => o.overrides.superWitnessMin.isSome
  | .logLevel => o.overrides.logLevel.isSome

/-- A path is not empty. -/
def path? (v : String) : Option Path := if v.isEmpty then none else some (.ofText v)

/-- Sets an option to the value that a text stands for, if it does. -/
def set? (o : Options) (name : OptionName) (v : String) : Option Options :=
  let ov := o.overrides
  match name with
  | .config => (path? v).map fun a => { o with config := some a }
  | .entities => (path? v).map fun a => { o with overrides := { ov with entities := some a } }
  | .trials => (path? v).map fun a => { o with overrides := { ov with trials := some a } }
  | .outputDir => (path? v).map fun a => { o with overrides := { ov with output := some a } }
  | .mergeThreshold =>
    (Decimal.ofText? v).map fun a => { o with overrides := { ov with mergeThreshold := some a } }
  | .givenNameThreshold =>
    (Decimal.ofText? v).map fun a =>
      { o with overrides := { ov with givenNameThreshold := some a } }
  | .minKeyLength =>
    (Decimal.countOfText? v).map fun a =>
      { o with overrides := { ov with minKeyLength := some a } }
  | .mergeStrategy =>
    (Strategy.ofLabel v).toOption.map fun a =>
      { o with overrides := { ov with strategy := some a } }
  | .superWitnessMin =>
    (Decimal.countOfText? v).map fun a =>
      { o with overrides := { ov with superWitnessMin := some a } }
  | .logLevel => some { o with overrides := { ov with logLevel := some v } }

/-- Gives an option its only value. -/
def give (o : Options) (name : OptionName) (v : String) : Except NoRun Options :=
  if o.has name then .error .misuse
  else
    match o.set? name v with
    | some o => .ok o
    | none => .error .misuse

end Options

/-- What one argument says. -/
inductive Argument where
  | valued (name : OptionName) (v : Option String)
  | noSurnames
  | information
  | unknown
deriving Repr, DecidableEq

namespace Argument

/-- An argument after its two dashes. -/
def ofLong (s : List Char) : Argument :=
  let name := String.ofList (s.takeWhile (· != '='))
  let v :=
    match s.dropWhile (· != '=') with
    | [] => none
    | _ :: v => some (String.ofList v)
  match OptionName.all.find? (·.long == name) with
  | some o => valued o v
  | none =>
    if v.isSome then unknown
    else if name = "no-surname-attach" then noSurnames
    else if name = "help" ∨ name = "version" then information
    else unknown

/-- An argument after its only dash: a letter, and maybe the value of the option. -/
def ofShort (letter : Char) (s : List Char) : Argument :=
  if letter = 'h' ∨ letter = 'V' then information
  else
    match OptionName.all.find? (·.short? == some letter) with
    | none => unknown
    | some o =>
      match s with
      | [] => valued o none
      | '=' :: v => valued o (some (String.ofList v))
      | v => valued o (some (String.ofList v))

/-- What an argument says by itself. -/
def ofText (arg : String) : Argument :=
  match arg.toList with
  | '-' :: '-' :: s => ofLong s
  | '-' :: letter :: s => ofShort letter s
  | _ => unknown

/-- Whether a text can be the value of the option before it. -/
def isValue (arg : String) : Bool :=
  match arg.toList with
  | '-' :: _ :: _ => false
  | _ => true

end Argument

namespace Options

/-- The options after some arguments, the value of an option taken from the next one. -/
def ofArguments (o : Options) : List String → Except NoRun Options
  | [] => .ok o
  | ["--"] => .ok o
  | arg :: rest =>
    match Argument.ofText arg with
    | .unknown => .error .misuse
    | .information => .error .information
    | .noSurnames =>
      if o.overrides.attachSurnames.isSome then .error .misuse
      else
        ofArguments { o with overrides := { o.overrides with attachSurnames := some false } } rest
    | .valued name (some v) => do ofArguments (← o.give name v) rest
    | .valued name none =>
      match rest with
      | [] => .error .misuse
      | v :: rest =>
        if Argument.isValue v then do ofArguments (← o.give name v) rest else .error .misuse

/-- Takes what is still missing from the environment. -/
def withEnvironment (o : Options) (env : List (String × String)) : Except NoRun Options :=
  OptionName.all.foldlM (fun o name =>
    if o.has name then .ok o
    else
      match env.find? (·.1 == name.environmentName) with
      | none => .ok o
      | some (_, v) => o.give name v) o

/-- The options of a command line. -/
def ofCommandLine (args : List String) (env : List (String × String)) : Except NoRun Options := do
  (← ofArguments .empty args).withEnvironment env

end Options

end Prosopography

import GoMend.Config.Basic

/-!
# Options of the command line

A run is given options on the command line and, for those that are missing there,
in variables of its environment.  Every option but one takes a value, and only
dependencies may be given several times.  The first word that cannot be understood
ends the reading, and so does a request for help.
-/

namespace GoMend

/-- The options. -/
inductive OptionName where
  | config | sourceDir | buildDir | projectDir | dependency | maxRounds | logLevel | json
  deriving DecidableEq, Repr

namespace OptionName

/-- All options. -/
def all : List OptionName :=
  [.config, .sourceDir, .buildDir, .projectDir, .dependency, .maxRounds, .logLevel, .json]

/-- The word for the option, without its dashes. -/
def word : OptionName → String
  | .config => "config"
  | .sourceDir => "upstream"
  | .buildDir => "build"
  | .projectDir => "project"
  | .dependency => "dependency"
  | .maxRounds => "max-iterations"
  | .logLevel => "log-level"
  | .json => "json"

/-- The variable that stands in for the option. -/
def environmentName : OptionName → String
  | .config => "AGGSYNC_CONFIG"
  | .sourceDir => "AGGSYNC_UPSTREAM_DIR"
  | .buildDir => "AGGSYNC_BUILD_DIR"
  | .projectDir => "AGGSYNC_PROJECT_DIR"
  | .dependency => "AGGSYNC_DEPENDENCIES"
  | .maxRounds => "AGGSYNC_MAX_ITERATIONS"
  | .logLevel => "AGGSYNC_LOG_LEVEL"
  | .json => "AGGSYNC_LOG_JSON"

/-- The option of a word. -/
def ofWord? (word : String) : Option OptionName :=
  all.find? (·.word == word)

end OptionName

/-- The options that are given. -/
structure Options where
  config : Option Path
  sourceDir : Option Path
  buildDir : Option Path
  projectDir : Option Path
  dependencies : List String
  maxRounds : Option Nat
  logLevel : Option String
  json : Option Bool
  deriving DecidableEq, Repr

/-- Why there is nothing to run. -/
inductive Refusal where
  /-- Help or the version is asked for. -/
  | help
  | misuse
  /-- The log filter cannot be cut into its parts. -/
  | tornFilter
  deriving DecidableEq, Repr

namespace Options

/-- No option is given. -/
def none : Options where
  config := .none
  sourceDir := .none
  buildDir := .none
  projectDir := .none
  dependencies := []
  maxRounds := .none
  logLevel := .none
  json := .none

/-- Whether an option is given. -/
def has (options : Options) : OptionName → Bool
  | .config => options.config.isSome
  | .sourceDir => options.sourceDir.isSome
  | .buildDir => options.buildDir.isSome
  | .projectDir => options.projectDir.isSome
  | .dependency => !options.dependencies.isEmpty
  | .maxRounds => options.maxRounds.isSome
  | .logLevel => options.logLevel.isSome
  | .json => options.json.isSome

/-- The parts of a text between commas. -/
def splitCommas : List Char → List (List Char)
  | [] => [[]]
  | c :: rest =>
      match splitCommas rest with
      | [] => [[c]]
      | head :: others =>
          if c = ',' then [] :: head :: others else (c :: head) :: others

/-- A path, which must not be empty. -/
def path? (value : String) : Option Path :=
  if value.isEmpty then .none else some ⟨value⟩

/-- The digits of a count, which may have a plus in front. -/
def countDigits : List Char → List Char
  | '+' :: digits => digits
  | digits => digits

/-- A count of at most 64 bits. -/
def count? (value : String) : Option Nat :=
  let digits := countDigits value.toList
  let count := digits.foldl (fun count c => count * 10 + (c.toNat - '0'.toNat)) 0
  if !digits.isEmpty && digits.all Char.isDigit && count < UInt64.size then some count else .none

/-- A truth value. -/
def flag? (value : String) : Option Bool :=
  if value = "true" then some true
  else if value = "false" then some false
  else .none

/-- The options with a value for one of them, if it can be a value. -/
def set? (options : Options) (name : OptionName) (value : String) : Option Options :=
  match name with
  | .config => (path? value).map fun path => { options with config := some path }
  | .sourceDir => (path? value).map fun path => { options with sourceDir := some path }
  | .buildDir => (path? value).map fun path => { options with buildDir := some path }
  | .projectDir => (path? value).map fun path => { options with projectDir := some path }
  | .dependency =>
      let names := (splitCommas value.toList).map String.ofList
      some { options with dependencies := options.dependencies ++ names }
  | .maxRounds => (count? value).map fun count => { options with maxRounds := some count }
  | .logLevel => some { options with logLevel := some value }
  | .json => (flag? value).map fun flag => { options with json := some flag }

/-- Give an option on the command line. -/
def give (options : Options) (name : OptionName) (value : String) :
    Except Refusal Options :=
  if name ≠ .dependency ∧ options.has name then .error .misuse
  else
    match options.set? name value with
    | some options => .ok options
    | .none => .error .misuse

/-! ## Words of the command line -/

/-- What a word of the command line is. -/
inductive Word where
  | help
  /-- A flag, which takes no value. -/
  | flag (name : OptionName)
  | withValue (name : OptionName) (value : String)
  /-- The value is the next word. -/
  | beforeValue (name : OptionName)
  /-- Nothing but values may follow, and none is expected. -/
  | last
  | unknown

/-- A word behind two dashes: its name and its value, if that is attached. -/
def longWord (name : List Char) (value : Option (List Char)) : Word :=
  match String.ofList name, value with
  | "help", .none | "version", .none => .help
  | name, value =>
      match OptionName.ofWord? name, value with
      | some .json, .none => .flag .json
      | some .json, some _ => .unknown
      | some name, some value => .withValue name (String.ofList value)
      | some name, .none => .beforeValue name
      | .none, _ => .unknown

/-- A word behind a single dash. -/
def shortWord : List Char → Word
  | 'h' :: _ | 'V' :: _ => .help
  | ['c'] => .beforeValue .config
  | 'c' :: '=' :: value => .withValue .config (String.ofList value)
  | 'c' :: value => .withValue .config (String.ofList value)
  | _ => .unknown

/-- What a word of the command line is. -/
def word (text : String) : Word :=
  match text.toList with
  | ['-', '-'] => .last
  | '-' :: '-' :: rest =>
      let name := rest.takeWhile (· != '=')
      match rest.dropWhile (· != '=') with
      | [] => longWord name .none
      | _ :: value => longWord name (some value)
  | '-' :: c :: rest => shortWord (c :: rest)
  | _ => .unknown

/-- Whether a word can be the value of the option before it. -/
def isValue (text : String) : Bool :=
  match text.toList with
  | '-' :: _ :: _ => false
  | _ => true

/-- Read the words of the command line. -/
def readWords : List String → Options → Except Refusal Options
  | [], options => .ok options
  | text :: rest, options =>
      match word text with
      | .help => .error .help
      | .flag name => do readWords rest (← options.give name "true")
      | .withValue name value => do readWords rest (← options.give name value)
      | .beforeValue name =>
          match rest with
          | value :: rest =>
              if isValue value then do readWords rest (← options.give name value)
              else .error .misuse
          | [] => .error .misuse
      | .last => if rest.isEmpty then .ok options else .error .misuse
      | .unknown => .error .misuse

/-- Take an option from its variable, unless it is given or the variable is not
set. -/
def fillFrom (environment : List (String × String)) (options : Options)
    (name : OptionName) : Except Refusal Options :=
  if options.has name then .ok options
  else
    match environment.find? (·.1 == name.environmentName) with
    | some (_, value) => options.give name value
    | .none => .ok options

/-- Read the command line and the variables of its environment. -/
def read (words : List String) (environment : List (String × String)) :
    Except Refusal Options := do
  let options ← readWords words none
  OptionName.all.foldlM (fillFrom environment) options

/-! ## Effect -/

/-- The configuration with the given options in place of its own values. -/
def apply (options : Options) (config : Config) : Config :=
  { config with
    directories :=
      { sourceDir := options.sourceDir.getD config.directories.sourceDir
        buildDir := options.buildDir.getD config.directories.buildDir
        projectDir := options.projectDir.getD config.directories.projectDir }
    package :=
      { config.package with
        dependencies :=
          if options.dependencies.isEmpty then config.package.dependencies
          else options.dependencies }
    maxRounds := options.maxRounds.getD config.maxRounds }

end Options

end GoMend

import GuestImage.CommandLine.OutputFormat

/-!
# Usage

How the words of a command line are read. The program has options of its own and four commands, each
with options and at most one path. An option may be given once on each of the two levels; its value
stands behind an equals sign or in the next word, short flags may share one dash, and a double dash
ends the options.
-/

namespace GuestImage.CommandLine

/-- Why a command line is not carried out. Two of the causes are questions of the user. -/
inductive UsageError where
  | help
  | version
  /-- No words at all. -/
  | nothingGiven
  | missingCommand
  | unknownCommand
  | unknownArgument
  /-- An option without its value, or with an empty one where it may not be. -/
  | missingValue
  | badValue
  /-- A flag with a value. -/
  | needlessValue
  | repeated
  /-- An option without another one that it needs. -/
  | missingOption
  deriving DecidableEq, Repr

/-- What a word of the command line may set. -/
inductive Switch where
  | config
  | format
  | file
  | dryRun
  | json
  | quiet
  | help
  | version
  /-- The path, which has no name. -/
  | path
  deriving DecidableEq, Repr

namespace Switch

/-- The name after two dashes. -/
def long? : Switch → Option String
  | config => some "config"
  | format => some "format"
  | file => some "file"
  | dryRun => some "dry-run"
  | json => some "json"
  | quiet => some "quiet"
  | help => some "help"
  | version => some "version"
  | path => none

/-- The letter after one dash. -/
def short? : Switch → Option Char
  | file => some 'f'
  | quiet => some 'q'
  | help => some 'h'
  | version => some 'V'
  | config | format | dryRun | json | path => none

/-- Whether a value belongs to it. -/
def takesValue : Switch → Bool
  | config | format | file | path => true
  | dryRun | json | quiet | help | version => false

end Switch

/-- The program itself or one of its commands. -/
inductive Level where
  | program
  | check
  | build
  | kinds
  | version
  deriving DecidableEq, Repr

namespace Level

/-- The options that a level knows. -/
def switches : Level → List Switch
  | program => [.config, .help, .version]
  | check => [.config, .help, .format, .quiet]
  | build => [.config, .help, .file, .dryRun, .json, .quiet]
  | kinds | version => [.config, .help]

/-- Whether a path may be given. -/
def takesPath : Level → Bool
  | check | build => true
  | program | kinds | version => false

/-- The command of this name. -/
def ofName? : String → Option Level
  | "check" => some check
  | "build" => some build
  | "kinds" => some kinds
  | "version" => some version
  | _ => none

/-- Whether an option accepts a value on a level: some must not be empty, and a format must be
known. -/
def checkValue (level : Level) (switch : Switch) (value : String) : Except UsageError Unit :=
  let mustHold := switch = .config || (switch = .path && level = .check)
  if mustHold && value.isEmpty then .error .missingValue
  else if switch = .format && (OutputFormat.names.ofName? value).isNone then .error .badValue
  else .ok ()

end Level

/-- The words of one level as far as they were read: what they gave, and what was named last, with
its value if there is one yet. -/
structure Reading where
  given : List (Switch × String)
  pending? : Option (Switch × Option String)
  deriving Repr

namespace Reading

/-- Nothing yet. -/
def start : Reading :=
  ⟨[], none⟩

/-- The value of an option that was given. -/
def value? (reading : Reading) (switch : Switch) : Option String :=
  reading.given.lookup switch

/-- Whether an option was given. -/
def has (reading : Reading) (switch : Switch) : Bool :=
  (reading.value? switch).isSome

/-- Whether the next word is a value, unless it looks like an option. -/
def awaitsValue (reading : Reading) : Bool :=
  match reading.pending? with
  | some (_, none) => true
  | _ => false

/-- Take an option with its value. -/
def give (reading : Reading) (level : Level) (switch : Switch) (value : String) :
    Except UsageError Reading := do
  if reading.has switch then throw .repeated
  level.checkValue switch value
  return { reading with given := reading.given ++ [(switch, value)] }

/-- Take what was named last. -/
def settle (reading : Reading) (level : Level) : Except UsageError Reading :=
  match reading.pending? with
  | none => .ok reading
  | some (_, none) => .error .missingValue
  | some (switch, some value) => ({ reading with pending? := none }).give level switch value

/-- Take a flag. -/
def flag (reading : Reading) (level : Level) (switch : Switch) : Except UsageError Reading := do
  let reading ← reading.settle level
  match switch with
  | .help => throw .help
  | .version => throw .version
  | _ => reading.give level switch ""

/-- Take an option with the value in the same word, or wait for the next word. -/
def option (reading : Reading) (level : Level) (switch : Switch) (value? : Option String) :
    Except UsageError Reading := do
  let reading ← reading.settle level
  match value? with
  | some value => reading.give level switch value
  | none => return { reading with pending? := some (switch, none) }

/-- Take a word after two dashes. -/
def long (reading : Reading) (level : Level) (word : List Char) : Except UsageError Reading :=
  let name := String.ofList (word.takeWhile (· != '='))
  let value? :=
    match word.dropWhile (· != '=') with
    | [] => none
    | _ :: value => some (String.ofList value)
  match level.switches.find? fun switch => switch.long? = some name with
  | none => .error .unknownArgument
  | some switch =>
      if switch.takesValue then reading.option level switch value?
      else if value?.isSome then .error .needlessValue
      else reading.flag level switch

/-- Take the letters after one dash. -/
def short (reading : Reading) (level : Level) : (letters : List Char) → Except UsageError Reading
  | [] => .ok reading
  | letter :: rest =>
      match level.switches.find? fun switch => switch.short? = some letter with
      | none => .error .unknownArgument
      | some switch =>
          if switch.takesValue then
            match rest with
            | [] => reading.option level switch none
            | '=' :: value => reading.option level switch (some (String.ofList value))
            | value => reading.option level switch (some (String.ofList value))
          else
            match reading.flag level switch with
            | .ok reading => reading.short level rest
            | .error error => .error error

/-- Take a word that is neither an option nor a value. -/
def plain (reading : Reading) (level : Level) (afterDashes : Bool) (word : String) :
    Except UsageError Reading := do
  let pathGiven := reading.has .path || reading.pending?.any fun pending => pending.1 = .path
  if level.takesPath && !pathGiven then
    let reading ← reading.settle level
    return { reading with pending? := some (.path, some word) }
  else if level = .program && !(afterDashes && ((Level.ofName? word).isSome || word = "help")) then
    throw .unknownCommand
  else throw .unknownArgument

end Reading

/-- What the names after `help` ask for: help, if there is such a command. -/
def helpOn : (names : List String) → UsageError
  | [] => .help
  | [name] => if (Level.ofName? name).isSome || name = "help" then .help else .unknownCommand
  | _ => .unknownCommand

/-- Read the words of a level, up to the name of a command if the level is the program itself. -/
def readWords (level : Level) (afterDashes : Bool) (reading : Reading) :
    (words : List String) → Except UsageError (Reading × Option (Level × List String))
  | [] => .ok (reading, none)
  | word :: rest => do
      if afterDashes then
        readWords level true (← reading.plain level true word) rest
      else
        let startsCommand := level = .program && !reading.awaitsValue
        match if startsCommand then Level.ofName? word else none with
        | some command => return (reading, some (command, rest))
        | none =>
            if startsCommand && word = "help" then throw (helpOn rest)
            match word.toList with
            | ['-', '-'] => readWords level true reading rest
            | '-' :: '-' :: letters => readWords level false (← reading.long level letters) rest
            | '-' :: letter :: letters =>
                readWords level false (← reading.short level (letter :: letters)) rest
            | _ =>
                match reading.pending? with
                | some (switch, none) =>
                    readWords level false { reading with pending? := some (switch, some word) } rest
                | _ => readWords level false (← reading.plain level false word) rest

/-! ## Invocations -/

/-- What `check` is asked for. -/
structure CheckRequest where
  path : String
  format : OutputFormat
  quiet : Bool
  deriving DecidableEq, Repr

/-- What `build` is asked for. -/
structure BuildRequest where
  /-- The build context. -/
  path : String
  /-- The recipe, if it is not the configured one. -/
  file? : Option String
  dryRun : Bool
  json : Bool
  quiet : Bool
  deriving DecidableEq, Repr

/-- One command with its options. -/
inductive Request where
  | check (request : CheckRequest)
  | build (request : BuildRequest)
  | kinds
  | version
  deriving DecidableEq, Repr

/-- A whole command line. -/
structure Invocation where
  config? : Option String
  request : Request
  deriving DecidableEq, Repr

/-- The request that the words of a command make. -/
def requestOf (level : Level) (reading : Reading) : Except UsageError Request :=
  match level with
  | .check =>
      let format? := (reading.value? .format).bind OutputFormat.names.ofName?
      .ok (.check
        { path := (reading.value? .path).getD "Forgefile"
          format := format?.getD .table
          quiet := reading.has .quiet })
  | .build =>
      if reading.has .json && !reading.has .dryRun then .error .missingOption
      else
        .ok (.build
          { path := (reading.value? .path).getD "."
            file? := reading.value? .file
            dryRun := reading.has .dryRun
            json := reading.has .json
            quiet := reading.has .quiet })
  | .kinds => .ok .kinds
  | .version => .ok .version
  | .program => .error .missingCommand

/-- Read a command line. The configuration that a command names wins over the one before it. -/
def Invocation.parse (words : List String) : Except UsageError Invocation := do
  let (reading, command?) ← readWords .program false .start words
  match command? with
  | some (level, rest) =>
      let (inner, _) ← readWords level false .start rest
      let inner ← inner.settle level
      let request ← requestOf level inner
      let outer ← reading.settle .program
      return ⟨(inner.value? .config).or (outer.value? .config), request⟩
  | none =>
      let outer ← reading.settle .program
      throw (if outer.given.isEmpty then .nothingGiven else .missingCommand)

end GuestImage.CommandLine

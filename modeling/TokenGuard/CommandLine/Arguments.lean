import TokenGuard.Migration.Report

/-! Arguments of the command line: options of the program, a command, and options behind it. -/

namespace TokenGuard.CommandLine

/-- The commands of the program. -/
inductive CommandName
  | generate
  | validate
  | migrate
  | check
  deriving DecidableEq

namespace CommandName

/-- The commands by name. -/
def choices : List (Text × CommandName) :=
  [("generate", generate), ("validate", validate), ("migrate", migrate), ("check", check)]

/-- The command of a name. -/
def ofText? (name : Text) : Option CommandName := choices.lookup name

end CommandName

/-- Options without a value. -/
inductive Switch
  /-- Print the report as JSON. -/
  | json
  /-- Report only. -/
  | dryRun
  /-- Print every file. -/
  | verbose
  /-- Fail when residual tokens are left. -/
  | strict
  deriving DecidableEq

/-- Options with a value. -/
inductive Setting
  /-- The root of the project. -/
  | root
  /-- The configuration file. -/
  | config
  /-- Which messages to log. -/
  | logLevel
  deriving DecidableEq

/-- The switches that may be given before a command or behind it. -/
def switches : Option CommandName → List (Text × Switch)
  | some .migrate =>
    [("json", .json), ("dry-run", .dryRun), ("verbose", .verbose), ("strict", .strict)]
  | _ => [("json", .json)]

/-- The settings, which may be given before a command or behind it. -/
def settings : List (Text × Setting) :=
  [("root", .root), ("config", .config), ("log-level", .logLevel)]

/-- Whether a setting must have a value that is not empty. -/
def Setting.isPath : Setting → Bool
  | root | config => true
  | logLevel => false

/-- Why arguments cannot be used. -/
inductive UsageError
  /-- An argument that is not known where it stands. -/
  | unexpected (argument : Text)
  /-- A word that is no command. -/
  | unknownCommand (name : Text)
  /-- A setting without a value. -/
  | noValue (option : Text)
  /-- A switch with a value. -/
  | surplusValue (option : Text)
  /-- An option given twice at one place. -/
  | repeated (option : Text)
  /-- There is no command. -/
  | noCommand
  deriving DecidableEq

/-- The wording of an error. -/
def UsageError.message : UsageError → Text
  | unexpected argument => "unexpected argument '" ++ argument ++ "' found"
  | unknownCommand name => "unrecognized subcommand '" ++ name ++ "'"
  | noValue option => "a value is required for '--" ++ option ++ "' but none was supplied"
  | surplusValue option => "unexpected value for '--" ++ option ++ "' found; no more were expected"
  | repeated option => "the argument '--" ++ option ++ "' cannot be used multiple times"
  | noCommand => "a subcommand is required but one was not provided"

/-- The options given at one place. -/
structure Given where
  switches : List Switch
  settings : List (Setting × Text)

namespace Given

/-- No option. -/
def none : Given := ⟨[], []⟩

/-- One more switch, which must not be there yet. -/
def addSwitch (given : Given) (name : Text) (option : Switch) : Except UsageError Given :=
  if option ∈ given.switches then .error (.repeated name)
  else .ok { given with switches := option :: given.switches }

/-- One more setting, which must not be there yet. -/
def addSetting (given : Given) (name : Text) (option : Setting) (value : Text) :
    Except UsageError Given :=
  if option.isPath && value.isEmpty then .error (.noValue name)
  else if (given.settings.lookup option).isSome then .error (.repeated name)
  else .ok { given with settings := (option, value) :: given.settings }

/-- The options before a command together with those behind it, which have precedence. -/
def beneath (before behind : Given) : Given :=
  ⟨behind.switches ++ before.switches, behind.settings ++ before.settings⟩

end Given

/-- Where the options of one place end. -/
inductive Stop
  /-- At the end of the arguments. -/
  | finished
  /-- At a word, with the arguments behind it. -/
  | word (word : Text) (rest : List Text)
  /-- At a request to print the usage. -/
  | help
  /-- At a request to print the version. -/
  | version

/-- An argument as it is written. -/
inductive Shape
  /-- Two hyphens and a name, which a value may follow behind an equals sign. -/
  | long (name : Text) (value : Option Text)
  /-- One hyphen and letters, given by the first one. -/
  | short (letter : Char)
  /-- Two hyphens, behind which there are no options. -/
  | divider
  /-- Anything else. -/
  | word
  deriving DecidableEq

/-- The shape of an argument. -/
def Shape.ofText : Text → Shape
  | ['-', '-'] => divider
  | '-' :: '-' :: text =>
    match text.dropWhile (· ≠ '=') with
    | _ :: value => long (text.takeWhile (· ≠ '=')) (some value)
    | [] => long text Option.none
  | '-' :: letter :: _ => short letter
  | _ => word

/-- Read the options before a command, or behind the one given. -/
def readOptions (command : Option CommandName) (given : Given) :
    List Text → Except UsageError (Given × Stop)
  | [] => .ok (given, .finished)
  | argument :: rest =>
    match Shape.ofText argument with
    | .word => .ok (given, .word argument rest)
    | .divider =>
      match rest with
      | [] => .ok (given, .finished)
      | surplus :: _ => .error (.unexpected surplus)
    | .short letter =>
      if letter = 'h' then .ok (given, .help)
      else if letter = 'V' && command.isNone then .ok (given, .version)
      else .error (.unexpected argument)
    | .long name value =>
      match (switches command).lookup name, settings.lookup name, value with
      | some option, _, none => do
        readOptions command (← given.addSwitch name option) rest
      | some _, _, some _ => .error (.surplusValue name)
      | none, some option, some value => do
        readOptions command (← given.addSetting name option value) rest
      | none, some option, none =>
        match rest with
        | value :: rest =>
          if Shape.ofText value = .word then do
            readOptions command (← given.addSetting name option value) rest
          else .error (.noValue name)
        | [] => .error (.noValue name)
      | none, none, value =>
        if value.isSome then .error (.unexpected argument)
        else if name = "help".toList then .ok (given, .help)
        else if name = "version".toList && command.isNone then .ok (given, .version)
        else .error (.unexpected argument)

/-- A command with its own options. -/
inductive Task
  | generate
  | validate
  | migrate (options : MigrationOptions) (verbose : Bool)
  | check
  deriving DecidableEq

/-- What the program is asked to do in a project. -/
structure Invocation where
  root : Path
  config : Option Path
  json : Bool
  task : Task
  deriving DecidableEq

/-- What the program is asked to do. -/
inductive Request
  | run (invocation : Invocation)
  | help
  | version
  deriving DecidableEq

/-- The root of the project when none is given. -/
def standardRoot : Path := ['.']

/-- The task of a command under some options. -/
def taskOf (given : Given) : CommandName → Task
  | .generate => .generate
  | .validate => .validate
  | .migrate =>
    .migrate ⟨.dryRun ∈ given.switches, .strict ∈ given.switches⟩ (.verbose ∈ given.switches)
  | .check => .check

/-- The invocation of a command under some options. -/
def invocationOf (given : Given) (command : CommandName) : Invocation where
  root := (given.settings.lookup .root).getD standardRoot
  config := given.settings.lookup .config
  json := .json ∈ given.switches
  task := taskOf given command

/-- Read what is asked for behind a command. -/
def readCommand (before : Given) (command : CommandName) (arguments : List Text) :
    Except UsageError Request := do
  match ← readOptions (some command) .none arguments with
  | (behind, .finished) => return .run (invocationOf (before.beneath behind) command)
  | (_, .word surplus _) => throw (.unexpected surplus)
  | (_, .help) => return .help
  | (_, .version) => return .version

/-- Read a request to print the usage, of the program or of one command. -/
def readHelp : List Text → Except UsageError Request
  | [] => .ok .help
  | [name] =>
    if name = "help".toList || (CommandName.ofText? name).isSome then .ok .help
    else .error (.unknownCommand name)
  | name :: surplus :: _ =>
    if name = "help".toList || (CommandName.ofText? name).isSome then
      .error (.unknownCommand surplus)
    else .error (.unknownCommand name)

/-- Read what the arguments ask for. -/
def readRequest (arguments : List Text) : Except UsageError Request := do
  match ← readOptions none .none arguments with
  | (_, .finished) => throw .noCommand
  | (_, .help) => return .help
  | (_, .version) => return .version
  | (given, .word name rest) =>
    if name = "help".toList then readHelp rest
    else match CommandName.ofText? name with
      | some command => readCommand given command rest
      | none => throw (.unknownCommand name)

end TokenGuard.CommandLine

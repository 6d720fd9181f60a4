import TopicGate.Access
import TopicGate.TextMap

/-!
# Command-line arguments

An invocation names a command, which may be preceded and followed by options.  An option is written
`--name value` or `--name=value` and may be given once; a separate value does not start with a
hyphen, unless it is a hyphen alone.  The option for the configuration file may stand at either
place or be set by an environment variable.

## Sections
1. Invocations
2. Options
3. The requested decision
4. Commands
5. Reading an invocation
-/

namespace TopicGate

/-! ## §1 Invocations -/

/-- A request to decide on, as it is given on the command line. -/
structure RequestArguments where
  vendor : Option String
  access : AccessType
  topic : String
  token : Option String
  issuer : Option String
  subject : Option String
deriving Repr, DecidableEq

/-- What is to be done with a configuration. -/
inductive Command where
  | checkConfig
  | authorize (request : RequestArguments)
deriving Repr, DecidableEq

/-- A well-formed invocation. -/
inductive Invocation where
  /-- Tells the version. -/
  | showVersion
  /-- Tells version and platform. -/
  | showBuild
  /-- Runs a command; the path is the one of the configuration file, if it is given. -/
  | run (config : Option String) (command : Command)
deriving Repr, DecidableEq

namespace Invocation

/-! ## §2 Options -/

abbrev Options := List (String × String)

/-- Whether an argument is taken for an option and not for a value. -/
def isOption (arg : String) : Bool := arg.startsWith "-" && arg != "-"

/-- The name of a long option and the value that is attached to it. -/
def splitOption (arg : String) : String × Option String :=
  let body := arg.toList.drop 2
  match body.dropWhile (· ≠ '=') with
  | [] => (String.ofList body, none)
  | _ :: value => (String.ofList (body.takeWhile (· ≠ '=')), some (String.ofList value))

def configOption : String := "config"

/-- Adds an option that is not there yet.  The path of the configuration file is not empty. -/
def addOption? (names : List String) (options : Options) (name value : String) : Option Options :=
  if name ∉ names ∨ (options.lookup name).isSome ∨ (name = configOption ∧ value = "") then none
  else some (options ++ [(name, value)])

/-- Reads options up to the first other argument, which is left with all behind it. -/
def readOptions? (names : List String) (options : Options) :
    List String → Option (Options × List String)
  | [] => some (options, [])
  | arg :: rest =>
    if !isOption arg then some (options, arg :: rest)
    else if !arg.startsWith "--" || arg == "--" then some (options, arg :: rest)
    else match splitOption arg, rest with
      | (name, some value), rest => do
        let options ← addOption? names options name value
        readOptions? names options rest
      | (name, none), value :: rest =>
        if isOption value then
          -- A name that is none may still be an option without a value.
          if name ∈ names then none else some (options, arg :: value :: rest)
        else if name ∉ names then some (options, arg :: value :: rest)
        else do
          let options ← addOption? names options name value
          readOptions? names options rest
      | (name, none), [] => if name ∈ names then none else some (options, [arg])

/-! ## §3 The requested decision -/

def requestOptions : List String := ["vendor", "access", "topic", "token", "issuer", "subject"]

/-- The request that options describe.  A token excludes issuer and subject, which need each
other. -/
def request? (options : Options) : Option RequestArguments := do
  let access ← (AccessType.parse (← options.lookup "access")).toOption
  let topic ← options.lookup "topic"
  let token := options.lookup "token"
  let issuer := options.lookup "issuer"
  let subject := options.lookup "subject"
  -- That somebody has to be named is checked by the command itself.
  if token.isSome && (issuer.isSome || subject.isSome) then none
  if issuer.isSome != subject.isSome then none
  return { vendor := options.lookup "vendor", access, topic, token, issuer, subject }

/-! ## §4 Commands -/

/-- Reads the options behind the name of a command; nothing but a closing mark may follow them. -/
def commandOptions? (names : List String) (args : List String) : Option Options := do
  let (options, rest) ← readOptions? (configOption :: names) [] args
  if rest.isEmpty || rest == ["--"] then some options else none

/-- Reads a command and the path of the configuration file that is given behind it.  There is no
command where only the build is asked for. -/
def command? (name : String) (args : List String) : Option (Option String × Option Command) :=
  if name = "check-config" then do
    let options ← commandOptions? [] args
    return (options.lookup configOption, some .checkConfig)
  else if name = "authorize" then do
    let options ← commandOptions? requestOptions args
    let request ← request? options
    return (options.lookup configOption, some (.authorize request))
  else if name = "version" then do
    let options ← commandOptions? [] args
    return (options.lookup configOption, none)
  else none

/-! ## §5 Reading an invocation -/

def configVariable : String := "TOLLGATE_CONFIG"

/-- Whether an argument asks for the version.  A group of one-letter options counts by its first
letter. -/
def asksVersion (arg : String) : Bool := arg == "--version" || arg.startsWith "-V"

/-- The path of the configuration file: the one behind the command, before it, or in the
environment.  An empty one in the environment is refused wherever it would be looked at. -/
def configPath? (before behind preset : Option String) : Option (Option String) :=
  if preset = some "" ∧ (before = none ∨ behind = none) then none
  else some (behind <|> before <|> preset)

/-- Reads the arguments of an invocation; `none` if they are not well-formed. -/
def parse (environment : TextMap String) (args : List String) : Option Invocation := do
  let (options, rest) ← readOptions? [configOption] [] args
  match rest with
  | [] => none
  | name :: args =>
    -- The version is told whatever else is given.
    if asksVersion name then return .showVersion
    let (behind, command) ← command? name args
    let path ← configPath? (options.lookup configOption) behind
      (environment.get? configVariable)
    match command with
    | some command => return .run path command
    | none => return .showBuild

end Invocation

end TopicGate

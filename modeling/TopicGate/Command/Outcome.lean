import TopicGate.Command.Arguments
import TopicGate.Command.Report
import TopicGate.Config.Load
import TopicGate.EnvFile.Binding

/-!
# Outcomes

What an invocation of the program prints and how it ends: with 0 if the answer is positive, with 2
if it is negative or the arguments are malformed, and with 1 if there is no answer.

## Sections
1. Surroundings
2. Outcomes
3. Running a command
-/

namespace TopicGate

/-! ## §1 Surroundings -/

/-- What an invocation finds around it. -/
structure Surroundings where
  environment : Environment := TextMap.empty
  /-- The environment file of the directory. -/
  envFile : FileState := .missing
  /-- What stands at a path. -/
  file : String → FileState := fun _ => .missing
  /-- The operating system and the processor, in words. -/
  platform : String := ""

/-! ## §2 Outcomes -/

/-- How an invocation ends. -/
structure Outcome where
  code : UInt8
  stdout : String := ""
  stderr : String := ""
deriving Repr, DecidableEq

def programVersion : String := "0.1.0"

def usage : String :=
  "usage: tollgate [--config PATH] check-config\n" ++
    "       tollgate [--config PATH] authorize --access ACCESS --topic TOPIC [--vendor VENDOR]\n" ++
    "                [--token TOKEN | --issuer ISSUER --subject SUBJECT]\n" ++
    "       tollgate version\n"

namespace Command

/-! ## §3 Running a command -/

/-- Whether the answer is positive, and what is printed. -/
def answer (settings : Settings) : Command → Except CommandError (Bool × String)
  | checkConfig => do
    let (gateway, _) ← Gateway.forCommands settings
    return (true, gateway.report)
  | authorize request => do
    let identity ← Identity.ofParts request.token request.issuer request.subject
    let (gateway, _) ← Gateway.forCommands settings
    let decision := gateway.request request.vendor request.access request.topic identity
    return (decision.isAllowed, decision.line request.access request.topic ++ "\n")

/-- The outcome of a command with the configuration file at a path. -/
def outcome (surroundings : Surroundings) (config : Option String) (command : Command) : Outcome :=
  let environment := EnvFile.load surroundings.envFile surroundings.environment
  -- What the environment file sets counts, but not for the path, which was read before it.
  let file := surroundings.file (config.getD systemConfigPath)
  let result := do
    let settings ← (Settings.load file environment).mapError CommandError.config
    command.answer settings
  match result with
  | .ok (positive, text) => { code := if positive then 0 else 2, stdout := text }
  | .error e => { code := 1, stderr := "error: " ++ e.chain ++ "\n" }

end Command

def Outcome.ofArguments (surroundings : Surroundings) (args : List String) : Outcome :=
  match Invocation.parse surroundings.environment args with
  | none => { code := 2, stderr := usage }
  | some .showVersion => { code := 0, stdout := "tollgate " ++ programVersion ++ "\n" }
  | some .showBuild =>
    { code := 0
      stdout := "tollgate version: " ++ programVersion ++ "\nPlatform:         " ++
        surroundings.platform ++ "\n" }
  | some (.run config command) => command.outcome surroundings config

end TopicGate

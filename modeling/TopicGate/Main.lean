import TopicGate.Command.Outcome

/-!
# The program

Gathers what the library needs to know about its surroundings, and prints the outcome.
-/

namespace TopicGate.Program

def readFile (path : String) : IO FileState := do
  try
    let bytes ← IO.FS.readBinFile path
    return .ofBytes bytes.toList
  catch
    | .noFileOrDirectory .. => return .missing
    | _ => return .unreadable

def readEnvironment : IO Environment := do
  match ← readFile "/proc/self/environ" with
  | .text content =>
    let bindings := (content.toList.splitOn '\x00').filterMap fun binding =>
      match binding.dropWhile (· ≠ '=') with
      | [] => none
      | _ :: value =>
        some (String.ofList (binding.takeWhile (· ≠ '=')), String.ofList value)
    return TextMap.ofList bindings
  | _ => return TextMap.empty

/-- The environment file of the directory, or else of the nearest one above it that has one. -/
def readEnvFile (path : String) : (above : Nat) → IO FileState
  | 0 => readFile path
  | above + 1 => do
    match ← readFile path with
    | .text content => return .text content
    | _ => readEnvFile ("../" ++ path) above

/-- The path of the configuration file that an invocation needs. -/
def configPath : Option Invocation → String
  | some (.run (some path) _) => path
  | _ => systemConfigPath

end TopicGate.Program

open TopicGate in
def main (args : List String) : IO UInt32 := do
  let environment ← Program.readEnvironment
  let path := Program.configPath (Invocation.parse environment args)
  let file ← Program.readFile path
  let depth := (← IO.currentDir).components.length
  let envFile ← Program.readEnvFile ".env" depth
  let outcome := Outcome.ofArguments
    { environment, envFile, file := fun _ => file, platform := "linux-x86_64" } args
  IO.print outcome.stdout
  IO.eprint outcome.stderr
  return outcome.code.toUInt32

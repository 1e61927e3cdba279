import MachineFleet.Cli.Run

/-!
The executable: the environment and the files that the program asks for are those of the system.
-/

namespace MachineFleet.Cli

def variableNames : List String := Setting.standIns ++ [Hetzner.tokenVariable, Vultr.keyVariable]

def systemEnvironment : IO Environment := do
  let values ← variableNames.filterMapM fun name => do
    return (← IO.getEnv name).map (name, ·)
  return fun name => values.lookup name

def readSystemFile (path : String) : IO (Except FileError String) := do
  try
    return .ok (← IO.FS.readFile path)
  catch
    | .noFileOrDirectory .. => return .error .notFound
    | .inappropriateType .. => return .error .notDirectory
    | e => return .error (.other (toString e))

def runSession {α : Type} : Session α → IO α
  | .done a => return a
  | .ask path next => do runSession (next (← readSystemFile path))

end MachineFleet.Cli

open MachineFleet.Cli in
def main (arguments : List String) : IO UInt32 := do
  let outcome ← runSession (run (← systemEnvironment) arguments)
  IO.print outcome.stdout
  IO.eprint outcome.stderr
  return outcome.status.toUInt32

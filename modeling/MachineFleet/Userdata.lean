import MachineFleet.Container.Options

/-!
The script that a node runs at its first start: it writes the files of the container engine,
installs the engine and then runs what the operator adds.
-/

namespace MachineFleet.Userdata

def delimiter : String := "MACHINE_CONTROLLER_EOF"

def directory (path : String) : String :=
  let cs := path.toList.reverse
  match cs.dropWhile (· != '/') with
  | [] => "."
  | _ :: rest => String.ofList rest.reverse

def writeFile (path content : String) : String :=
  "\nmkdir -p " ++ directory path ++ "\ncat <<'" ++ delimiter ++ "' > " ++ path ++ "\n" ++
    Text.trimEnd content ++ "\n" ++ delimiter ++ "\n"

def files (e : Engine) (config : String) (auth : Option String) : String :=
  writeFile e.configFile config ++
    match e.authFile, auth with
    | some path, some content => writeFile path content
    | _, _ => ""

def install (script : String) : String :=
  if Text.isAllBlank script then "" else "\n" ++ Text.trimEnd script ++ "\n"

/-- What the operator adds, as it is, behind an empty line and with a line feed at its end. -/
def extraPart : Option String → String
  | none => ""
  | some e =>
    if Text.isAllBlank e then ""
    else "\n" ++ e ++ (if e.toList.getLast? = some '\n' then "" else "\n")

def build (e : Engine) (os : OperatingSystem) (extra : Option String) :
    Except RuntimeError String := do
  let script ← e.script os
  let config ← e.renderConfig
  let auth ← e.renderAuth
  return "#!/bin/bash\nset -xeuo pipefail\n" ++ files e config auth ++ install script ++
    extraPart extra

end MachineFleet.Userdata

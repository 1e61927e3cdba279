import MachineFleet.Provision.Provisioner
import MachineFleet.Yaml.Printer

/-!
Reports on provisioned machines, as lines for people and as YAML documents, and the report of the
error that ends the program.
-/

namespace MachineFleet.Cli

def reportLines (r : MachineReport) : List String :=
  let name := r.machine.name
  match r.result with
  | .ok i =>
    ("✓ " ++ name ++ " " ++ i.providerId ++ " (" ++ (if i.created then "created" else "reused") ++
        ", " ++ i.status.name ++ ")") ::
      i.addresses.entries.map fun e => "    " ++ e.2.name ++ " " ++ e.1
  | .error e =>
    match e.terminal? with
    | some t => ["✗ " ++ name ++ " " ++ t.reason.name ++ ": " ++ t.message]
    | none => ["! " ++ name ++ " retry: " ++ e.message]

def textReport (rs : List MachineReport) : String := Text.unlines (rs.flatMap reportLines)

def yamlReport (rs : List MachineReport) : String :=
  String.join (rs.map fun r => "---\n" ++ Yaml.print r.machine.toJson)

/-- An error that ends the program, with its causes from the outermost to the innermost. -/
structure FatalError where
  message : String
  causes : List String := []
  deriving DecidableEq, Repr, Inhabited

namespace FatalError

def indentText (first further s : String) : String :=
  first ++ String.intercalate ("\n" ++ further) (Text.split '\n' s)

def numbered (n : Nat) : String :=
  let s := toString n
  String.ofList (List.replicate (5 - s.length) ' ') ++ s ++ ": "

def causeLines : List String → List String
  | [] => []
  | [c] => ["", "Caused by:", indentText "    " "    " c]
  | cs => "" :: "Caused by:" ::
    cs.zipIdx.map fun c => indentText (numbered c.2) "       " c.1

def text (e : FatalError) : String := Text.unlines (("Error: " ++ e.message) :: causeLines e.causes)

def inside (message : String) (e : FatalError) : FatalError :=
  { message, causes := e.message :: e.causes }

def ofRuntime (e : RuntimeError) : FatalError where
  message := e.message
  causes := match e with
    | .invalidKubeletVersion _ cause => [cause.message]
    | _ => []

end FatalError

end MachineFleet.Cli

import MachineFleet.Cloud.Call
import MachineFleet.Http

/-!
Cloud operations that talk to an API: exchanges that end with a result or with a failure of the
cloud.
-/

namespace MachineFleet

abbrev Operation (α : Type) := ExceptT CloudError (Program Http.Request fun _ => Http.Reply) α

namespace Operation

variable {ε α : Type}

def ofApi (toCloud : ε → CloudError) (x : Http.Exchange (Except ε α)) : Operation α :=
  x.bind fun r => .done (r.mapError toCloud)

def observe (x : Http.Exchange (Except ε α)) : Operation (Except ε α) :=
  x.bind fun r => .done (.ok r)

def ofExcept (x : Except CloudError α) : Operation α := Program.done x

end Operation

def CloudError.missing (field : String) : CloudError :=
  .invalidConfiguration (field ++ " is missing")

end MachineFleet

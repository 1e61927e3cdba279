import MachineFleet.Cloud.Error
import MachineFleet.Cloud.Instance

/-!
The operations that every cloud provides, as questions with the type of what they result in.
-/

namespace MachineFleet

inductive CloudCall where
  | addDefaults (spec : MachineSpec)
  | validate (spec : MachineSpec)
  | get (machine : Machine)
  /-- Creates the machine's instance; safe to repeat after a failure. -/
  | create (machine : Machine) (userdata : String)
  /-- Deletes the instance; true once it is gone. -/
  | cleanup (machine : Machine)
  | migrateUid (machine : Machine) (newUid : String)
  | cloudConfig (spec : MachineSpec)
  | metricsLabels (machine : Machine)
  | recordMetrics (machines : List Machine)

namespace CloudCall

def Result : CloudCall → Type
  | .addDefaults _ => MachineSpec
  | .validate _ => Unit
  | .get _ => Instance
  | .create _ _ => Instance
  | .cleanup _ => Bool
  | .migrateUid _ _ => Unit
  | .cloudConfig _ => String × String
  | .metricsLabels _ => Dict String
  | .recordMetrics _ => Unit

abbrev Answer (c : CloudCall) : Type := Except CloudError c.Result

end CloudCall

/-- The cloud configuration of a machine: that of the cloud, unless the envelope overwrites it. -/
def overwrittenCloudConfig (c : ProviderConfig) (generated : String × String) : String × String :=
  match c.overwriteCloudConfig with
  | some o => if o.isEmpty then generated else (o, generated.2)
  | none => generated

end MachineFleet

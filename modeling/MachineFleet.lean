import MachineFleet.Main
import MachineFleet.Proofs.Cloud.Chain
import MachineFleet.Proofs.Cloud.Defaults
import MachineFleet.Proofs.Cloud.Key
import MachineFleet.Proofs.Cloud.Replay
import MachineFleet.Proofs.Cloud.Retention
import MachineFleet.Proofs.Cloud.Section
import MachineFleet.Proofs.Config.Resolution
import MachineFleet.Proofs.Container.Acceptance
import MachineFleet.Proofs.Container.AuthFile
import MachineFleet.Proofs.Container.Credentials
import MachineFleet.Proofs.Container.InsecureRegistries
import MachineFleet.Proofs.Container.Kubelet
import MachineFleet.Proofs.Container.MirrorTexts
import MachineFleet.Proofs.Container.Registries
import MachineFleet.Proofs.Container.Selection
import MachineFleet.Proofs.Fake.Finalizers
import MachineFleet.Proofs.Fake.History
import MachineFleet.Proofs.Fake.Migration
import MachineFleet.Proofs.Hetzner.Keys
import MachineFleet.Proofs.Hetzner.Ownership
import MachineFleet.Proofs.Hetzner.Refusals
import MachineFleet.Proofs.Http.Anticipation
import MachineFleet.Proofs.Http.Overload
import MachineFleet.Proofs.Http.Removal
import MachineFleet.Proofs.Http.Restraint
import MachineFleet.Proofs.Provision.Creation
import MachineFleet.Proofs.Provision.Independence
import MachineFleet.Proofs.Provision.Patience
import MachineFleet.Proofs.Provision.Requests
import MachineFleet.Proofs.Provision.Retries
import MachineFleet.Proofs.Provision.Waiting
import MachineFleet.Proofs.Userdata.Heredoc
import MachineFleet.Proofs.Vultr.Ownership

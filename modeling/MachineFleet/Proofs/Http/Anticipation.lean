import MachineFleet.Proofs.Hetzner.Anticipation
import MachineFleet.Proofs.Vultr.Anticipation

/-!
On both clouds, a creation asks for what a validation has found. A server with a location and a
private network, both of which only the catalogue knows by number, is validated and then made.
-/

namespace MachineFleet

namespace Http.Service

/-- If a validation succeeds, then a creation on the same specification that finds the catalogue
as it was, no record of the machine and its keys accepted, makes the request for the record, and
asks in it for what the validation has found. -/
theorem validation_anticipates_creation (base : String) :
    (Hetzner.service base).Anticipates (Hetzner.agreement base) ∧
      (Vultr.service base).Anticipates (Vultr.agreement base) :=
  ⟨Hetzner.anticipates base, Vultr.anticipates base⟩

end Http.Service

namespace Hetzner

open Http

namespace Networked

def machine : Machine where
  metadata := { uid := some "uid-1", name := some "worker" }
  spec.provider := some (.obj [("cloudProvider", .str "hetzner"),
    ("operatingSystem", .str "ubuntu"), ("sshPublicKeys", .ofList ["ssh-ed25519 A"]),
    ("cloudProviderSpec", .obj [("token", .str "key"), ("serverType", .str "cx22"),
      ("location", .str "fsn1"), ("networks", .ofList ["lan"])])])

/-- What is said to an upload and to a creation. -/
def made : Reply :=
  .response 201 ("\x7b\"ssh_key\":\x7b\"id\":5,\"name\":\"uid-1-0\"\x7d,"
    ++ "\"server\":\x7b\"id\":6,\"name\":\"worker\"\x7d\x7d")

def servers : Reply := .response 200 "\x7b\"servers\":[]\x7d"

def catalogue (q : Request) : Reply :=
  .response 200 <|
    if q.path = "/locations" then "\x7b\"locations\":[\x7b\"id\":1,\"name\":\"fsn1\"\x7d]\x7d"
    else if q.path = "/server_types" then
      "\x7b\"server_types\":[\x7b\"id\":2,\"name\":\"cx22\"\x7d]\x7d"
    else if q.path = "/images" then
      "\x7b\"images\":[\x7b\"id\":3,\"name\":\"ubuntu-24.04\"\x7d]\x7d"
    else "\x7b\"networks\":[\x7b\"id\":4,\"name\":\"lan\"\x7d]\x7d"

def peer (q : Request) (_ : Unit) : Reply × Unit :=
  (if q.method = .post then made else if q.path = "/servers" then servers else catalogue q, ())

theorem offers : (service "").Offers peer catalogue := by
  rintro q - ⟨get, other⟩
  have path : q.path ≠ "/servers" := other
  simp [peer, get, path]

theorem none_listed :
    (decodeReply serversReader servers).toOption.map List.isEmpty = some true := by
  decide +kernel

theorem vacant : (service "").Vacant peer {} machine where
  unowned _ _ _ := by
    obtain ⟨servers, listed, none⟩ := Option.map_eq_some_iff.mp none_listed
    rw [found_eq]
    exact listed.trans (congrArg some (List.isEmpty_iff.mp none))
  accepts q _ post _ := by
    have server : failed? (decodeReply serverReader made) = none := by decide +kernel
    have key : failed? (decodeReply keyReader made) = none := by decide +kernel
    rw [peer, if_pos post]
    simp only [service, fault, post]
    split
    · exact server
    · exact key

theorem valid : (((service "").answer {} (.validate machine.spec)).run peer ()).1 = .ok () := by
  have sound :
      failure? (((service "").answer {} (.validate machine.spec)).run peer ()).1 = none := by
    decide +kernel
  cases outcome : (((service "").answer {} (.validate machine.spec)).run peer ()).1 with
  | ok u => rfl
  | error e =>
    rw [outcome] at sound
    cases sound

end Networked

open Networked in
/-- A server in a location and on a network is asked for as it was validated. -/
theorem networked_server_is_anticipated :
    (service "").Offers peer catalogue ∧ (service "").Vacant peer {} machine ∧
      (((service "").answer {} (.validate machine.spec)).run peer ()).1 = .ok () ∧
      ∃ c choice, (service "").config {} machine.spec = .ok c ∧
        (agreement "").Finds c choice
          (((service "").answer {} (.validate machine.spec)).transcript peer ()) ∧
        ∃ e ∈ ((service "").answer {} (.create machine "#!/bin/bash\n")).transcript peer (),
          (service "").Creates e.1 ∧
            ∃ body, e.1.body = some body ∧ (agreement "").Names choice body :=
  ⟨offers, vacant, valid,
    (Service.validation_anticipates_creation "").1 peer () peer () catalogue {} machine
      "#!/bin/bash\n" offers offers vacant valid⟩

end Hetzner

end MachineFleet

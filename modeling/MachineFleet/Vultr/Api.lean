import MachineFleet.Cloud.Operation
import MachineFleet.Config.Resolver
import MachineFleet.Encoding.Base64
import MachineFleet.Text.Split

/-!
The part of the Vultr API that machines need: instances found by a tag, and the catalogues of
regions, plans and operating systems.
-/

namespace MachineFleet.Vultr

structure Server where
  id : String
  label : String := ""
  hostname : String := ""
  mainIp : String := ""
  v6MainIp : String := ""
  internalIp : String := ""
  status : String := ""
  powerStatus : String := ""
  tags : List String := []
  deriving DecidableEq, Repr, Inhabited

structure Image where
  id : Nat
  name : String
  arch : String := ""
  family : String := ""
  deriving DecidableEq, Repr, Inhabited

/-- A plan, with the regions that have it; without any it is not bound to regions. -/
structure Plan where
  id : String
  locations : List String := []
  deriving DecidableEq, Repr, Inhabited

def Server.reader : Json.Reader Server :=
  Json.RecordReader.read "VultrInstance" <|
    Json.RecordReader.of Server.mk
      |>.required "id" .string
      |>.orElse "label" .string ""
      |>.orElse "hostname" .string ""
      |>.orElse "main_ip" .string ""
      |>.orElse "v6_main_ip" .string ""
      |>.orElse "internal_ip" .string ""
      |>.orElse "status" .string ""
      |>.orElse "power_status" .string ""
      |>.orElse "tags" (.list .string) []

def Image.reader : Json.Reader Image :=
  Json.RecordReader.read "Image" <|
    Json.RecordReader.of Image.mk
      |>.required "id" (.natural 64 "u64")
      |>.required "name" .string
      |>.orElse "arch" .string ""
      |>.orElse "family" .string ""

def Plan.reader : Json.Reader Plan :=
  Json.RecordReader.read "Plan" <|
    Json.RecordReader.of Plan.mk
      |>.required "id" .string
      |>.orElse "locations" (.list .string) []

def regionReader : Json.Reader String :=
  Json.RecordReader.readMember "Region" "id" .string

def serversReader : Json.Reader (List Server) :=
  Json.RecordReader.readMember "Instances" "instances" (.list Server.reader)

def serverReader : Json.Reader Server :=
  Json.RecordReader.readMember "InstanceReply" "instance" Server.reader

def errorReader : Json.Reader String :=
  Json.RecordReader.readMember "ErrorReply" "error" .string

inductive ApiError where
  | api (status : Nat) (message : String)
  | transport
  deriving DecidableEq, Repr, Inhabited

namespace ApiError

def isNotFound : ApiError → Bool
  | .api status _ => status == 404
  | .transport => false

/-- A character in lower case, as far as the words below need it: the Kelvin sign is a K. -/
def lower (c : Char) : Char := if c.toNat = 0x212a then 'k' else c.toLower

def capacityWords : List String := ["out of stock", "not available", "maximum", "limit"]

def isCapacity (message : String) : Bool :=
  let cs := message.toList.map lower
  capacityWords.any fun w => Text.containsChars w.toList cs

def message : ApiError → String
  | .api status m => "Vultr API error (" ++ toString status ++ "): " ++ m
  | .transport => "HTTP error"

def toCloud : ApiError → CloudError
  | .api status m =>
    if status = 401 ∨ status = 403 then .invalidConfiguration ("invalid credentials: " ++ m)
    else if status < 500 ∧ status ≠ 429 ∧ isCapacity m then .ofReason .insufficientResources m
    else .api status m
  | .transport => .transient .transport

end ApiError

abbrev Api (α : Type) := Http.Exchange (Except ApiError α)

/-- The body of a successful reply. The text of any other is that of its error, or its whole
body. -/
def check : Http.Reply → Except ApiError String
  | .dropped => .error .transport
  | .response status body =>
    if Http.isSuccess status then .ok body
    else match Json.decodeText errorReader body with
      | .ok m => .error (.api status m)
      | .error _ => .error (.api status body)

def decodeReply {α : Type} (r : Json.Reader α) (reply : Http.Reply) : Except ApiError α := do
  let body ← check reply
  (Json.decodeText r body).mapError fun _ => .transport

structure Client where
  base : String
  token : String

namespace Client

def call {α : Type} (c : Client) (method : Http.Method) (path : String)
    (query : List (String × String)) (body : Option Json)
    (read : Http.Reply → Except ApiError α) : Api α :=
  (Http.send { method, path := c.base ++ path, query, token := c.token, body }).bind fun reply =>
    .done (read reply)

/-- The instances that have exactly this tag, whatever else the API lists. -/
def listByTag (c : Client) (tag : String) : Api (List Server) :=
  c.call .get "/instances" [("tag", tag)] none fun reply =>
    (decodeReply serversReader reply).map fun ss => ss.filter fun s => s.tags.contains tag

def createInstance (c : Client) (body : Json) : Api Server :=
  c.call .post "/instances" [] (some body)
    (decodeReply serverReader)

def deleteInstance (c : Client) (id : String) : Api Unit :=
  c.call .delete ("/instances/" ++ id) [] none fun r => (check r).map fun _ => ()

def setTags (c : Client) (id : String) (tags : List String) : Api Unit :=
  c.call .patch ("/instances/" ++ id) [] (some (.obj [("tags", .ofList tags)])) fun r =>
    (check r).map fun _ => ()

def list {α : Type} (c : Client) (name : String) (r : Json.Reader α) : Api (List α) :=
  c.call .get ("/" ++ name) [("per_page", "500")] none
    (decodeReply (Json.RecordReader.readMember "Catalogue" name (.list r)))

def listImages (c : Client) : Api (List Image) := c.list "os" Image.reader

def listPlans (c : Client) : Api (List Plan) := c.list "plans" Plan.reader

def listRegions (c : Client) : Api (List String) := c.list "regions" regionReader

end Client

def instanceStatus (status power : String) : InstanceStatus :=
  if status = "pending" then .creating
  else if status = "active" ∧ power = "running" then .running
  else if status = "active" ∧ power = "stopped" then .stopped
  else if status = "suspended" then .paused
  else .unknown

def isUnset (ip : String) : Bool := ip.isEmpty || ip == "0.0.0.0" || ip == "::"

namespace Server

def addAddress (d : Dict AddressType) (ip : String) (t : AddressType) : Dict AddressType :=
  if isUnset ip then d else d.insert ip t

def addresses (s : Server) : Dict AddressType :=
  let ips := addAddress (addAddress (addAddress .empty s.mainIp .externalIP) s.v6MainIp .externalIP)
    s.internalIp .internalIP
  if s.hostname.isEmpty then ips else ips.insert s.hostname .hostname

def snapshot (s : Server) : Instance where
  name := s.label
  id := s.id
  providerId := "vultr://" ++ s.id
  addresses := s.addresses
  status := instanceStatus s.status s.powerStatus

end Server

end MachineFleet.Vultr

import MachineFleet.Cloud.Operation
import MachineFleet.Config.Resolver

/-!
The part of the Hetzner Cloud API that machines need: servers found by a label, catalogues
searched by name, and SSH keys that exist for the length of a creation.
-/

namespace MachineFleet.Hetzner

structure PrivateAddress where
  network : Nat
  ip : String
  deriving DecidableEq, Repr, Inhabited

structure Server where
  id : Nat
  name : String
  status : String := ""
  ipv4 : Option String := none
  /-- The network that is routed to the server. -/
  ipv6 : Option String := none
  privateNet : List PrivateAddress := []
  labels : Dict String := .empty
  deriving Inhabited

structure NamedResource where
  id : Nat
  name : String
  deriving DecidableEq, Repr, Inhabited

def idReader : Json.Reader Nat := .natural 64 "u64"

def PrivateAddress.reader : Json.Reader PrivateAddress :=
  Json.RecordReader.read "PrivateNet" <|
    Json.RecordReader.of PrivateAddress.mk
      |>.required "network" idReader
      |>.required "ip" .string

def ipReader : Json.Reader String :=
  Json.RecordReader.readMember "IpAddress" "ip" .string

def publicNetReader : Json.Reader (Option String × Option String) :=
  Json.RecordReader.read "PublicNet" <|
    Json.RecordReader.of Prod.mk
      |>.maybe "ipv4" ipReader
      |>.maybe "ipv6" ipReader

def Server.reader : Json.Reader Server :=
  Json.RecordReader.read "Server" <|
    Json.RecordReader.of (fun id name status net privateNet labels =>
        Server.mk id name status net.1 net.2 privateNet labels)
      |>.required "id" idReader
      |>.required "name" .string
      |>.orElse "status" .string ""
      |>.orElse "public_net" publicNetReader (none, none)
      |>.orElse "private_net" (.list PrivateAddress.reader) []
      |>.orElse "labels" (.dict .string) .empty

def NamedResource.reader : Json.Reader NamedResource :=
  Json.RecordReader.read "NamedResource" <|
    Json.RecordReader.of NamedResource.mk
      |>.required "id" idReader
      |>.required "name" .string

def serversReader : Json.Reader (List Server) :=
  Json.RecordReader.readMember "Servers" "servers" (.list Server.reader)

def serverReader : Json.Reader Server :=
  Json.RecordReader.readMember "ServerReply" "server" Server.reader

def keyReader : Json.Reader NamedResource :=
  Json.RecordReader.readMember "KeyReply" "ssh_key" NamedResource.reader

def errorReader : Json.Reader (String × String) :=
  Json.RecordReader.readMember "ErrorReply" "error" <|
    Json.RecordReader.read "ErrorDetail" <|
      Json.RecordReader.of Prod.mk
        |>.required "code" .string
        |>.required "message" .string

inductive ApiError where
  | api (status : Nat) (code message : String)
  | transport
  | decode (cause : Json.DecodeError)
  deriving DecidableEq, Repr, Inhabited

namespace ApiError

def isNotFound : ApiError → Bool
  | .api status _ _ => status == 404
  | _ => false

def capacityCodes : List String :=
  ["resource_unavailable", "resource_limit_exceeded", "placement_error"]

def message : ApiError → String
  | .api status code m =>
    "hcloud API error (" ++ toString status ++ ", " ++ code ++ "): " ++ m
  | .transport => "HTTP error"
  | .decode e => "unexpected hcloud response: " ++ e.message

def toCloud : ApiError → CloudError
  | .api status code m =>
    if status = 401 ∨ status = 403 then .invalidConfiguration ("invalid credentials: " ++ m)
    else if capacityCodes.contains code then .ofReason .insufficientResources m
    else .api status m
  | .transport => .transient .transport
  | .decode e => .ofText e.message

end ApiError

abbrev Api (α : Type) := Http.Exchange (Except ApiError α)

/-- The body of a successful reply. The text of any other is that of its error, or its whole
body. -/
def check : Http.Reply → Except ApiError String
  | .dropped => .error .transport
  | .response status body =>
    if Http.isSuccess status then .ok body
    else match Json.decodeText errorReader body with
      | .ok (code, m) => .error (.api status code m)
      | .error _ => .error (.api status "" body)

def decodeReply {α : Type} (r : Json.Reader α) (reply : Http.Reply) : Except ApiError α := do
  let body ← check reply
  (Json.decodeText r body).mapError fun _ => .transport

structure Client where
  base : String
  token : String

namespace Client

def call {α : Type} (c : Client) (method : Http.Method) (path : String)
    (query : List (String × String)) (body : Option Json)
    (read : Http.Reply → Except ApiError α) : Api α :=
  (Http.send { method, path := c.base ++ path, query, token := c.token, body }).bind fun reply =>
    .done (read reply)

def listServers (c : Client) (selector : String) : Api (List Server) :=
  c.call .get "/servers" [("label_selector", selector)] none (decodeReply serversReader)

def createServer (c : Client) (body : Json) : Api Server :=
  c.call .post "/servers" [] (some body) (decodeReply serverReader)

def deleteServer (c : Client) (id : Nat) : Api Unit :=
  c.call .delete ("/servers/" ++ toString id) [] none fun r => (check r).map fun _ => ()

def updateLabels (c : Client) (id : Nat) (labels : Dict String) : Api Server :=
  c.call .put ("/servers/" ++ toString id) [] (some (.obj [("labels", .ofDict labels)]))
    (decodeReply serverReader)

/-- The entries of a catalogue in a reply; a catalogue that is missing is empty. -/
def readCatalogue (collection : String) (reply : Http.Reply) :
    Except ApiError (List NamedResource) := do
  let body ← decodeReply (.dict .any) reply
  match body.get? collection with
  | none => return []
  | some items =>
    (Json.decode (.list NamedResource.reader) items).mapError .decode

def findByName (c : Client) (collection name : String) : Api (Option NamedResource) :=
  c.call .get ("/" ++ collection) [("name", name)] none fun reply =>
    (readCatalogue collection reply).map fun items => items.find? (·.name == name)

def createKey (c : Client) (name publicKey : String) : Api NamedResource :=
  c.call .post "/ssh_keys" []
    (some (.obj [("name", .str name), ("public_key", .str publicKey)])) (decodeReply keyReader)

def deleteKey (c : Client) (id : Nat) : Api Unit :=
  c.call .delete ("/ssh_keys/" ++ toString id) [] none fun r => (check r).map fun _ => ()

end Client

def instanceStatus (s : String) : InstanceStatus :=
  if s = "initializing" ∨ s = "starting" then .creating
  else if s = "running" then .running
  else if s = "stopping" then .stopping
  else if s = "off" then .stopped
  else if s = "deleting" then .deleting
  else .unknown

def addressPart (s : String) : List Char := s.toList.takeWhile (· != '/')

namespace Server

/-- The addresses of a server. Of the network that is routed to it, it holds the first one. -/
def addresses (s : Server) : Dict AddressType :=
  let v4 : Dict AddressType := match s.ipv4 with
    | some ip => if ip.isEmpty then .empty else Dict.empty.insert ip .externalIP
    | none => .empty
  let v6 := match s.ipv6 with
    | some ip =>
      let part := addressPart ip
      if part.isEmpty then v4 else v4.insert (String.ofList (part ++ ['1'])) .externalIP
    | none => v4
  s.privateNet.foldl (fun d p => d.insert p.ip .internalIP) v6

def snapshot (s : Server) : Instance where
  name := s.name
  id := toString s.id
  providerId := "hcloud://" ++ toString s.id
  addresses := s.addresses
  status := instanceStatus s.status

end Server

end MachineFleet.Hetzner

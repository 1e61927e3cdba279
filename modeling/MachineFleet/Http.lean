import MachineFleet.Json.Decode
import MachineFleet.Program

/-!
Exchanges with an HTTP service as programs that ask requests and go on with replies, and a peer
that gives replies out of a list and remembers the requests.
-/

namespace MachineFleet.Http

inductive Method where
  | get
  | post
  | put
  | patch
  | delete
  deriving DecidableEq, Repr, Inhabited

def Method.name : Method → String
  | .get => "GET"
  | .post => "POST"
  | .put => "PUT"
  | .patch => "PATCH"
  | .delete => "DELETE"

structure Request where
  method : Method
  path : String
  query : List (String × String) := []
  token : String
  body : Option Json := none
  deriving Inhabited

/-- What comes back. `dropped` is a connection that fails before a reply. -/
inductive Reply where
  | response (status : Nat) (body : String)
  | dropped
  deriving DecidableEq, Repr, Inhabited

abbrev Exchange (α : Type) := Program Request (fun _ => Reply) α

def isSuccess (status : Nat) : Bool := 200 ≤ status && status ≤ 299

/-- A secret that may stand in a header: no control character but the tab. -/
def isHeaderValue (s : String) : Bool :=
  s.toList.all fun c => (0x20 ≤ c.toNat || c == '\t') && c.toNat != 0x7f

/-- Sends a request. A secret that cannot stand in a header sends nothing. -/
def send (r : Request) : Exchange Reply :=
  if isHeaderValue r.token then .query r else .done .dropped

/-- A peer with the replies that it still has, and the requests made of it, the last one first.
Without a reply left it answers with status 500. -/
structure Peer where
  replies : List Reply := []
  requests : List Request := []
  deriving Inhabited

def unscripted : Reply := .response 500 "unscripted request"

def Peer.answer (r : Request) (p : Peer) : Reply × Peer :=
  (p.replies.headD unscripted, { replies := p.replies.tail, requests := r :: p.requests })

def Peer.run {α : Type} (x : Exchange α) (p : Peer) : α × Peer := x.run Peer.answer p

/-- Runs an exchange where no request reaches any peer. -/
def runUnreachable {α : Type} (x : Exchange α) : α := (x.run (fun _ s => (.dropped, s)) ()).1

def basePath (endpoint : String) : String :=
  String.ofList (endpoint.toList.reverse.dropWhile (· == '/')).reverse

end MachineFleet.Http

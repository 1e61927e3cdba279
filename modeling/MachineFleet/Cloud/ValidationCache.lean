import MachineFleet.Cloud.Error
import MachineFleet.Digest

/-!
A cache of validation outcomes. The key of a specification is the digest of the canonical text of
its provider section, so machines that differ in anything else share an entry. An entry is used
for less than the time to live after it was stored, and a transient failure is never stored.
-/

namespace MachineFleet

inductive ValidationOutcome where
  | passed
  | rejected (t : TerminalError)
  deriving DecidableEq, Repr, Inhabited

def ValidationOutcome.answer : ValidationOutcome → Except CloudError Unit
  | .passed => .ok ()
  | .rejected t => .error (.terminal t)

structure ValidationCache.Entry where
  storedAt : Nat
  outcome : ValidationOutcome
  deriving DecidableEq, Repr, Inhabited

/-- Times are in milliseconds. -/
structure ValidationCache where
  ttl : Nat
  entries : Dict ValidationCache.Entry := .empty
  deriving Inhabited

namespace ValidationCache

/-- Five minutes. -/
def defaultTtl : Nat := 300000

/-- The text that identifies a provider section, whatever the order of its members. -/
def canonicalText (spec : MachineSpec) : String :=
  match spec.provider with
  | some value => value.sorted.compact
  | none => "null"

def key (spec : MachineSpec) : String := Digest.hex (canonicalText spec)

def isLive (c : ValidationCache) (now : Nat) (e : Entry) : Bool := now - e.storedAt < c.ttl

def get (c : ValidationCache) (now : Nat) (spec : MachineSpec) :
    Option ValidationOutcome × ValidationCache :=
  let k := key spec
  match c.entries.get? k with
  | none => (none, c)
  | some e =>
    if c.isLive now e then (some e.outcome, c) else (none, { c with entries := c.entries.erase k })

def purge (c : ValidationCache) (now : Nat) : ValidationCache :=
  { c with entries := c.entries.filterValues (c.isLive now) }

def set (c : ValidationCache) (now : Nat) (spec : MachineSpec) (o : ValidationOutcome) :
    ValidationCache :=
  let p := c.purge now
  { p with entries := p.entries.insert (key spec) ⟨now, o⟩ }

def size (c : ValidationCache) : Nat := c.entries.size

def isEmpty (c : ValidationCache) : Bool := c.size == 0

/-- The outcome to keep of an answer: success, or a terminal failure with its reason. -/
def outcome? : Except CloudError Unit → Option ValidationOutcome
  | .ok () => some .passed
  | .error e => if e.classify = .terminal then e.terminal?.map .rejected else none

def record (c : ValidationCache) (now : Nat) (spec : MachineSpec) (a : Except CloudError Unit) :
    ValidationCache :=
  match outcome? a with
  | some o => c.set now spec o
  | none => c

/-- Validates with a cache in front. `now` tells the time, and `inner` is consulted only when the
cache has no outcome; the time of an outcome is that at which it was found. -/
def validate {m : Type → Type} [Monad m] (now : m Nat)
    (inner : MachineSpec → m (Except CloudError Unit)) (spec : MachineSpec)
    (c : ValidationCache) : m (Except CloudError Unit × ValidationCache) := do
  match c.get (← now) spec with
  | (some o, c) => return (o.answer, c)
  | (none, c) =>
    let a ← inner spec
    return (a, c.record (← now) spec a)

end ValidationCache

end MachineFleet

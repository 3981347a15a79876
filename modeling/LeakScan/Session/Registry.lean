import LeakScan.Session.Basic
import LeakScan.Number.Double

/-!
# The registry of sessions

A registry knows the sessions of a service by their identifiers. A session that ended longer ago
than the time to live is dropped at the next registration or look-up; a time to live of zero or
less keeps every session. Times are of any type with a subtraction and an order; a running
service uses floating-point seconds.
-/

set_option autoImplicit false

namespace LeakScan

/-- The times a clock shows. -/
class Time (T : Type) extends Sub T, LT T where
  /-- No time at all. -/
  zero : T
  decideLt : (a b : T) → Decidable (a < b)
  /-- A time in whole milliseconds. -/
  millis : T → Except Double.WholeFault Int

instance Time.instDecidableLt {T : Type} [Time T] (a b : T) : Decidable (a < b) :=
  Time.decideLt a b

instance : Time Double where
  zero := .zero
  decideLt := inferInstance
  millis t := (t * .ofInt 1000).truncate

variable {T : Type}

/-- Whether a session that ended more than `ttl` ago has expired at a time. -/
def Session.expired [Time T] (s : Session T) (ttl now : T) : Bool :=
  match s.finishedAt with
  | some t => Time.zero < ttl && t < now - ttl
  | none => false

/-- The sessions that were ever made, each with an identifier of its own. -/
abbrev Sessions (T : Type) := List (Session T)

namespace Sessions

/-- The session of an identifier. -/
def get? (sessions : Sessions T) (id : String) : Option (Session T) :=
  sessions.find? (·.id = id)

/-- Changes the session of an identifier. -/
def modify (sessions : Sessions T) (id : String) (f : Session T → Session T) : Sessions T :=
  sessions.map fun s => if s.id = id then f s else s

end Sessions

/-- The identifiers of the sessions that can be looked up, in the order of registration, and the
time that an ended session is kept. -/
structure Registry (T : Type) where
  ttl : T
  members : List String
deriving Repr

/-- Says that no session of an identifier can be looked up. -/
structure NotFound where
  id : String
deriving DecidableEq, Repr

def NotFound.message (e : NotFound) : String := "Scan not found: " ++ e.id

namespace Registry

/-- The number of sessions held. -/
def size (r : Registry T) : Nat := r.members.length

/-- A registry without sessions. -/
def empty (ttl : T) : Registry T := ⟨ttl, []⟩

/-- Drops the expired sessions. -/
def purge [Time T] (r : Registry T) (sessions : Sessions T) (now : T) : Registry T :=
  { r with members := r.members.filter fun id =>
      match sessions.get? id with
      | some s => !s.expired r.ttl now
      | none => true }

/-- Registers a session. -/
def add [Time T] (r : Registry T) (sessions : Sessions T) (now : T) (id : String) : Registry T :=
  let r := r.purge sessions now
  if r.members.contains id then r else { r with members := r.members ++ [id] }

/-- Looks a session up; the registry has then dropped the expired ones. -/
def get [Time T] (r : Registry T) (sessions : Sessions T) (now : T) (id : String) :
    Registry T × Except NotFound (Session T) :=
  let r := r.purge sessions now
  if r.members.contains id then
    match sessions.get? id with
    | some s => (r, .ok s)
    | none => (r, .error ⟨id⟩)
  else (r, .error ⟨id⟩)

end Registry
end LeakScan

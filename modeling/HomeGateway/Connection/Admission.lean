/-
  Which connections are let in.

  There is room for a number of connections at a time, and each identity is
  held by one of them at most.

  * `live_acquire`, `live_release`: how many slots are taken;
  * `reserve_eq_ok_iff`: an identity can be reserved exactly if nobody holds it.
-/
import HomeGateway.Failure
import HomeGateway.Identity

namespace HomeGateway.Connection

open HomeGateway

/-! ## Slots -/

/-- Slots for connections. -/
structure Limiter where
  /-- how many there are -/
  max : Nat
  /-- how many are taken -/
  live : Nat
deriving DecidableEq, Repr

namespace Limiter

/-- Take a slot, if there is a free one. -/
def acquire? (l : Limiter) : Option Limiter :=
  if l.live < l.max then some { l with live := l.live + 1 } else none

/-- Give a slot back. -/
def release (l : Limiter) : Limiter :=
  { l with live := l.live - 1 }

theorem live_acquire {l l' : Limiter} (h : l.acquire? = some l') :
    l'.live = l.live + 1 ∧ l'.live ≤ l'.max := by
  simp only [acquire?] at h
  split at h
  · rename_i room
    cases h
    exact ⟨rfl, room⟩
  · cases h

theorem live_release (l : Limiter) : l.release.live = l.live - 1 := rfl

end Limiter

/-! ## Identities -/

/-- The identities that are held, each with the connection that holds it. -/
structure Identities where
  /-- identities and holders -/
  held : List (Identity × Nat)
deriving DecidableEq, Repr

namespace Identities

/-- No identities. -/
def empty : Identities := ⟨[]⟩

/-- Whether an identity is held. -/
def contains (r : Identities) (i : Identity) : Bool :=
  r.held.any (·.1 = i)

/-- How many identities are held. -/
def size (r : Identities) : Nat :=
  r.held.length

/-- Reserve an identity for a connection. -/
def reserve (r : Identities) (i : Identity) (holder : Nat) : Except Failure Identities :=
  if r.contains i then .error (.duplicateIdentity i.description)
  else .ok ⟨(i, holder) :: r.held⟩

/-- Give up what a connection holds. -/
def release (r : Identities) (holder : Nat) : Identities :=
  ⟨r.held.filter (·.2 ≠ holder)⟩

/-- An identity can be reserved exactly if nobody holds it. -/
theorem reserve_eq_ok_iff {r r' : Identities} {i : Identity} {holder : Nat} :
    r.reserve i holder = .ok r' ↔ r.contains i = false ∧ r' = ⟨(i, holder) :: r.held⟩ := by
  unfold reserve
  cases r.contains i <;> simp [eq_comm]

end Identities

end HomeGateway.Connection

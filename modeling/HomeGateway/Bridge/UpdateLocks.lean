/-
  Writes whose echo is expected.

  A caller that writes an attribute is not told of the change it causes.  Each
  such write leaves a lock: the attribute, the value, and the time at which
  the lock dies.  The first notice with that value uses the lock up.

  Locks are kept in the order in which they were made, those of all attributes
  in one list; times are in milliseconds.

  * `lock`: expect the echo of a write;
  * `consume_eq_find`: a notice uses up the oldest live lock of its attribute
    and value, and there is one exactly if `consume` says so.
-/
import HomeGateway.Json.Basic

namespace HomeGateway.Bridge

open HomeGateway

/-- The name under which writes to an attribute are locked. -/
def lockKey (cluster attr : String) : String :=
  cluster ++ "." ++ attr

/-- An expected echo. -/
structure Lock where
  /-- the attribute -/
  key : String
  /-- the value written -/
  value : Json
  /-- the first time at which the lock is dead -/
  expires : Nat
deriving Repr

/-- Whether a lock is alive. -/
def Lock.live (now : Nat) (l : Lock) : Bool :=
  now < l.expires

/-- Whether a lock expects this value of this attribute. -/
def Lock.expects (key : String) (value : Json) (l : Lock) : Bool :=
  l.key = key && l.value.same value

/-- The expected echoes of an endpoint. -/
structure UpdateLocks where
  /-- how long a lock lives -/
  window : Nat
  /-- the locks, the oldest first -/
  locks : List Lock
deriving Repr

namespace UpdateLocks

/-- No locks. -/
def empty (window : Nat) : UpdateLocks := ⟨window, []⟩

/-- Forget the dead locks. -/
def purge (now : Nat) (u : UpdateLocks) : UpdateLocks :=
  { u with locks := u.locks.filter (·.live now) }

/-- Expect the echo of a write. -/
def lock (now : Nat) (key : String) (value : Json) (u : UpdateLocks) : UpdateLocks :=
  { u with locks := (u.purge now).locks ++ [⟨key, value, now + u.window⟩] }

/-- Whether an echo of an attribute is expected. -/
def isLocked (now : Nat) (key : String) (u : UpdateLocks) : Bool :=
  u.locks.any fun l => l.key = key && l.live now

/-- Use up the oldest live lock of an attribute and value, and say whether
    there was one. -/
def consume (now : Nat) (key : String) (value : Json) (u : UpdateLocks) : Bool × UpdateLocks :=
  let live := (u.purge now).locks
  (live.any (·.expects key value), { u with locks := live.eraseP (·.expects key value) })

/-- Give up a lock whose write failed. -/
def release (now : Nat) (key : String) (value : Json) (u : UpdateLocks) : UpdateLocks :=
  (u.consume now key value).2

theorem consume_eq_find (now : Nat) (key : String) (value : Json) (u : UpdateLocks) :
    (u.consume now key value).1 =
      (u.locks.find? fun l => l.live now && l.expects key value).isSome := by
  simp only [consume, purge, List.any_filter]
  rw [Bool.eq_iff_iff, List.any_eq_true, List.find?_isSome]

end UpdateLocks

end HomeGateway.Bridge

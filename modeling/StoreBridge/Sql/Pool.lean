import StoreBridge.Failure

/-!
# Connection pools

A pool lends connections, up to a limit, and opens one only when none is idle. Calls come one after
the other, so a connection that is lent when another is asked for does not come back in time, and
the one who asks gives up.
-/

namespace StoreBridge

/-- A pool of connections, which are numbered in the order of opening. -/
structure Pool where
  /-- The largest number of connections. -/
  limit : Nat
  /-- Whether there is any time to wait for a connection. -/
  patient : Bool
  opened : Nat := 0
  idle : List Nat := []
  deriving DecidableEq, Repr

/-- No connection was free in time. -/
def DriverError.poolTimedOut : DriverError :=
  ⟨"pool timed out while waiting for an open connection", none⟩

namespace Pool

/-- How a request for a connection is met. -/
inductive Grant where
  /-- An idle connection is lent. -/
  | reuse (connection : Nat) (rest : Pool)
  /-- A connection has to be opened. -/
  | dial
  /-- No connection becomes free in time. -/
  | refuse
  deriving Repr

/-- How the next request for a connection is met. -/
def grant (p : Pool) : Grant :=
  if !p.patient then .refuse
  else
    match p.idle with
    | n :: rest => .reuse n { p with idle := rest }
    | [] => if p.opened < p.limit then .dial else .refuse

/-- The pool after a connection was opened and lent. -/
def afterDial (p : Pool) : Pool := { p with opened := p.opened + 1 }

/-- The pool after a connection came back. -/
def giveBack (p : Pool) (n : Nat) : Pool := { p with idle := p.idle ++ [n] }

/-- The pool after it was closed: what was idle is gone. -/
def close (p : Pool) : Pool := { p with idle := [] }

end Pool

end StoreBridge

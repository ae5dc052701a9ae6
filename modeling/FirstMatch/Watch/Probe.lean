/-! The probe shared by a cursor and whoever watches it: the cursor publishes its offset there and
looks there to learn whether it has been cancelled. -/

namespace FirstMatch

/-- When the cancellation of a probe takes effect. -/
inductive Alarm where
  | silent
  /-- It goes off once it has been looked at `looks` more times. -/
  | after (looks : Nat)
  /-- It went off while the probe showed `offset`. -/
  | raised (offset : Nat)
  deriving DecidableEq

structure Probe where
  offset : Nat := 0
  alarm : Alarm := .silent
  deriving DecidableEq

namespace Probe

def record (p : Probe) (offset : Nat) : Probe := { p with offset }

/-- Cancels for good; a second cancellation changes nothing. -/
def cancel (p : Probe) : Probe :=
  match p.alarm with
  | .raised _ => p
  | _ => { p with alarm := .raised p.offset }

def isCancelled (p : Probe) : Bool :=
  match p.alarm with
  | .raised _ => true
  | _ => false

/-- Asks whether the probe is cancelled; asking is what an alarm counts. -/
def look (p : Probe) : Bool × Probe :=
  match p.alarm with
  | .silent => (false, p)
  | .after 0 => (true, p.cancel)
  | .after (looks + 1) => (false, { p with alarm := .after looks })
  | .raised _ => (true, p)

/-- Where the probe was when it was cancelled. -/
def cancelledAt (p : Probe) : Nat :=
  match p.alarm with
  | .raised offset => offset
  | _ => p.offset

end Probe

/-- Probes behind handles: several handles may share one probe. -/
structure Registry where
  probes : Array Probe := #[{}]
  handles : Array Nat := #[0]

namespace Registry

/-- What each handle shows. -/
def view (r : Registry) : List Probe := r.handles.toList.map fun i => r.probes.getD i {}

def modify (r : Registry) (handle : Nat) (f : Probe → Probe) : Registry :=
  match r.handles[handle]? with
  | some i => { r with probes := r.probes.modify i f }
  | none => r

/-- Adds a handle to the probe of an existing one. -/
def share (r : Registry) (handle : Nat) : Registry :=
  match r.handles[handle]? with
  | some i => { r with handles := r.handles.push i }
  | none => r

/-- Adds a handle to a new probe. -/
def add (r : Registry) : Registry :=
  { probes := r.probes.push {}, handles := r.handles.push r.probes.size }

end Registry

end FirstMatch

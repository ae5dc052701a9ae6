import FirstMatch.Watch.Detector
import FirstMatch.Watch.Probe

/-! The sampling loop of a watch: it reads the offset that a probe shows from time to time, and
cancels the probe once the offset has stayed put for long enough. -/

namespace FirstMatch

/-- A watch at work on a probe.  With its report it stops: the offset at which the cursor is taken
to be stuck, and how often that has been seen again. -/
structure Sampler where
  detector : Detector
  probe : Probe
  report : Option (Nat × Nat) := none
  deriving DecidableEq

/-- A watch set on a probe. -/
def Watch.start (w : Watch) (probe : Probe) : Sampler :=
  { detector := { threshold := w.threshold }, probe }

namespace Sampler

/-- The cursor publishes an offset. -/
def publish (s : Sampler) (offset : Nat) : Sampler := { s with probe := s.probe.record offset }

/-- The watch takes a sample, unless it has stopped. -/
def sample (s : Sampler) : Sampler :=
  if s.report.isSome then s
  else
    let seen := s.detector.observe s.probe.offset
    if seen.isLooping then
      { detector := seen, probe := s.probe.cancel, report := some (s.probe.offset, seen.repeats) }
    else { s with detector := seen }

/-- Takes one sample after another, with the given offsets published in between. -/
def feed (s : Sampler) (offsets : List Nat) : Sampler :=
  offsets.foldl (fun s offset => (s.publish offset).sample) s

end Sampler

end FirstMatch

import FirstMatch.Text.Outline

/-! Loop detection: a cursor whose sampled offset stays put for long enough is taken to be stuck. -/

namespace FirstMatch

open Text

/-- How often a watch samples and how many repeated samples it takes for a loop. -/
structure Watch where
  intervalMs : Nat := 500
  threshold : Nat := 10
  deriving DecidableEq

/-- Counts how often the last sample has been seen again. -/
structure Detector where
  threshold : Nat := 10
  last : Nat := 0
  repeats : Nat := 0
  deriving DecidableEq

namespace Detector

/-- The count stops at the largest 32-bit number. -/
def ceiling : Nat := UInt32.size - 1

def observe (d : Detector) (offset : Nat) : Detector :=
  if offset = d.last then { d with repeats := min (d.repeats + 1) ceiling }
  else { d with last := offset, repeats := 0 }

def isLooping (d : Detector) : Bool := d.threshold ≤ d.repeats

end Detector

namespace Watch

/-- The count at which a watch gives up on a cursor that stays at `offset`.  Offset zero counts as
seen before the first sample. -/
def samplesAt (w : Watch) (offset : Nat) : Nat := max w.threshold (if offset = 0 then 1 else 0)

/-- How many dispatches a call may make beyond one for each character.  A dispatch takes at least
a microsecond, and a sample at most a millisecond on top of its interval, so a call that makes more
has given the watch time to trip.  No watch trips before its first sample. -/
def patience (w : Watch) : Nat := 1000 * (w.intervalMs + 1) * max w.threshold 1

/-- Milliseconds in the largest unit that keeps the whole part, without trailing zeros. -/
def duration (ms : Nat) : String :=
  if ms = 0 then "0ns"
  else if ms < 1000 then toString ms ++ "ms"
  else
    let digits := (Nat.toDigits 10 (1000 + ms % 1000)).drop 1
    let shown := (digits.reverse.dropWhile (· == '0')).reverse
    toString (ms / 1000) ++ String.ofList (if shown.isEmpty then [] else '.' :: shown) ++ "s"

def outline (w : Watch) : Outline :=
  .record "WatchdogConfig"
    [("interval", .atom (duration w.intervalMs)), ("threshold", .nat w.threshold)]

end Watch

end FirstMatch

/-!
# Frame times

Each frame is identified by a counter, the clock reading it started at, in nanoseconds, and the
simulation time in seconds.
-/

namespace FramesInFlight

/-- Identifies the frame being recorded. -/
structure FrameTime where
  count : Nat
  clock : Nat
  simulation : Float
  deriving Inhabited

namespace FrameTime

/-- The first frame, starting at `clock`. -/
def first (clock : Nat) : FrameTime := ⟨0, clock, 0⟩

/-- Nanoseconds in a second. -/
def nanosPerSecond : Nat := 1000000000

/-- A span in seconds: the whole seconds, then the rest as a fraction. -/
def seconds (nanos : Nat) : Float :=
  Float.ofNat (nanos / nanosPerSecond) + Float.ofNat (nanos % nanosPerSecond) / 1e9

/-- The following frame, starting at `clock`.  Simulation time moves on by the time elapsed, which
is zero when the clock went back. -/
def next (time : FrameTime) (clock : Nat) : FrameTime :=
  ⟨time.count + 1, clock, time.simulation + seconds (clock - time.clock)⟩

/-- The frames that start at `clocks`, after `time`. -/
def follow (time : FrameTime) : List Nat → List FrameTime
  | [] => []
  | clock :: clocks => time.next clock :: (time.next clock).follow clocks

end FrameTime

end FramesInFlight

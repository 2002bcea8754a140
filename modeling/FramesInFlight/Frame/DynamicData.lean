/-!
# Dynamic data

Regions of buffers whose contents change from frame to frame.
-/

namespace FramesInFlight

/-- A region of a buffer, in bytes. -/
structure Region where
  buffer : Nat
  offset : Nat
  range : Nat
  deriving DecidableEq, Repr

/-- Regions that a transfer keeps up to date. -/
structure DynamicData where
  regions : List Region := []
  deriving DecidableEq, Repr, Inhabited

/-- Whether there is nothing to keep up to date. -/
def DynamicData.isEmpty (data : DynamicData) : Bool := data.regions.isEmpty

end FramesInFlight

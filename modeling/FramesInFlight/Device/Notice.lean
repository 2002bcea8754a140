import FramesInFlight.Device.Status
import FramesInFlight.Light.Basic
import FramesInFlight.Number.Shortest

/-!
# Notices

What the library reports about its own doing, each with a level of importance and a wording.
-/

namespace FramesInFlight

/-- Levels of importance. -/
inductive Level where
  | trace
  | debug
  | info
  | warn
  deriving DecidableEq, Repr

/-- The name of a level. -/
def Level.text : Level → String
  | trace => "trace"
  | debug => "debug"
  | info => "info"
  | warn => "warn"

/-- Things reported. -/
inductive Notice where
  /-- A frame loop with this many slots was made. -/
  | loopCreated (slots : Nat)
  /-- The loop moved on to a slot. -/
  | advanced (slot : Nat)
  /-- The loop is about to wait for a slot's fence. -/
  | waitingOnFence (fence slot : Nat)
  /-- A frame recorded nothing. -/
  | nothingRecorded
  /-- A batch is about to be submitted. -/
  | submitting (slot primary recorded waits signals : Nat)
  /-- Paged content appeared and no pager exists yet. -/
  | pagerStarting
  /-- A view gets a bin. -/
  | addingBin (number : Int)
  /-- Light state was made for these capacities. -/
  | lightsCreated (records viewports : Nat)
  /-- The descriptor set of the light state is about to be made. -/
  | compilingLights
  /-- Some lights do not fit. -/
  | capacityExceeded (capacity dropped : Nat) (first : LightKind)
  /-- Some viewports do not fit. -/
  | viewportsExceeded (supplied capacity : Nat)
  /-- A light's direction could not be taken to eye space. -/
  | singularModelView
  /-- How many lights were collected. -/
  | lightCounts (counts : PerKind Nat)
  /-- Eye direction of a directional light. -/
  | directionalAt (direction : Vec3)
  /-- Eye position of a point light. -/
  | pointAt (position : Vec3)
  /-- Eye geometry of a spot light. -/
  | spotAt (position direction : Vec3)

namespace Notice

/-- Components are written positionally from a ten-thousandth up to sixteen digits, always with a
fraction, and scientifically elsewhere. -/
def componentStyle : Decimal.Style where
  leastPositional := -4
  leastScientific := 16
  exponentMark := "e"
  wholeMark := ".0"
  notANumber := "NaN"
  infinity := "inf"

/-- The text of a vector. -/
def vectorText (v : Vec3) : String :=
  let component (x : Float) := componentStyle.text x.toBits.toNat
  "[" ++ component v.x ++ ", " ++ component v.y ++ ", " ++ component v.z ++ "]"

/-- The level of a notice. -/
def level : Notice → Level
  | advanced _ | nothingRecorded | submitting .. => .trace
  | loopCreated _ | waitingOnFence .. | addingBin _ => .debug
  | lightCounts _ | directionalAt _ | pointAt _ | spotAt .. => .debug
  | pagerStarting | lightsCreated .. | compilingLights => .info
  | capacityExceeded .. | viewportsExceeded .. | singularModelView => .warn

/-- The wording of a notice. -/
def message : Notice → String
  | loopCreated slots => s!"Created FrameTask with {slots} buffered frames"
  | advanced slot => s!"FrameTask advanced to slot {slot}"
  | waitingOnFence fence slot =>
    "Waiting on fence " ++ handleText fence ++ s!" for frame slot {slot}"
  | nothingRecorded => "Nothing recorded, skipping submission"
  | submitting slot primary recorded waits signals =>
    s!"Submitting slot {slot}: {primary} command buffers ({recorded} recorded), " ++
      s!"{waits} waits, {signals} signals"
  | pagerStarting => "Paged content compiled, starting database pager"
  | addingBin number => s!"Adding bin {number} to view"
  | lightsCreated records viewports =>
    s!"Creating view dependent state: {records} light records, {viewports} viewports"
  | compilingLights => "Compiling view dependent state"
  | capacityExceeded capacity dropped first =>
    s!"Light data capacity of {capacity} records exceeded, {dropped} lights from the first " ++
      first.text ++ " light on are not packed"
  | viewportsExceeded supplied capacity =>
    s!"{supplied} viewports supplied, only {capacity} fit in the viewport data"
  | singularModelView => "Singular model-view matrix, light direction left untransformed"
  | lightCounts counts =>
    s!"View dependent lights: {counts.ambient} ambient, {counts.directional} directional, " ++
      s!"{counts.point} point, {counts.spot} spot"
  | directionalAt direction => "   directional light: direction = " ++ vectorText direction
  | pointAt position => "   point light: position = " ++ vectorText position
  | spotAt position direction =>
    "   spot light: position = " ++ vectorText position ++ ", direction = " ++
      vectorText direction

end Notice

end FramesInFlight

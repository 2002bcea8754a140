/-!
# Settings

The settings of a renderer, in two groups, with the values they have when nothing is said.  Every
setting is a 64-bit count.
-/

namespace FramesInFlight

/-- Settings of a frame loop. -/
structure FrameSettings where
  /-- Number of frame slots, each with a fence. -/
  numBuffers : UInt64 := 3
  /-- Timeout of the wait at the start of a frame, in nanoseconds. -/
  fenceTimeout : UInt64 := 18446744073709551615
  /-- How long a frame that recorded nothing yields, in milliseconds. -/
  idleSleep : UInt64 := 16
  deriving DecidableEq, Repr, Inhabited

/-- Capacities of a view's light state. -/
structure LightSettings where
  /-- Records of the light buffer. -/
  maxLights : UInt64 := 64
  /-- Records of the viewport buffer. -/
  maxViewports : UInt64 := 1
  deriving DecidableEq, Repr, Inhabited

/-- All settings. -/
structure Settings where
  frame : FrameSettings := {}
  light : LightSettings := {}
  deriving DecidableEq, Repr, Inhabited

/-- Causes for which settings cannot be read, written or used. -/
inductive SettingsError where
  /-- The file cannot be read or written. -/
  | inaccessible
  /-- The text is no document of its format, or its values have other types. -/
  | malformed
  /-- A value lies outside what the format can hold. -/
  | outOfRange
  /-- The path names no known format. -/
  | unknownFormat (path : String)
  /-- A loop without slots cannot run. -/
  | noSlots
  deriving DecidableEq, Repr

/-- The wording of an error, where it is the library's own. -/
def SettingsError.message? : SettingsError → Option String
  | .inaccessible => none
  | .malformed => none
  | .outOfRange => some "Serialization error: out-of-range value for u64 type"
  | .unknownFormat path => some ("Unsupported format: " ++ path)
  | .noSlots => some "Invalid configuration: num_buffers must be at least 1"

namespace FrameSettings

/-- The settings with `n` slots. -/
def ofSlots (n : UInt64) : FrameSettings := { numBuffers := n }

/-- The settings with another timeout. -/
def withFenceTimeout (s : FrameSettings) (nanos : UInt64) : FrameSettings :=
  { s with fenceTimeout := nanos }

/-- The settings with another idle sleep. -/
def withIdleSleep (s : FrameSettings) (millis : UInt64) : FrameSettings :=
  { s with idleSleep := millis }

/-- Whether a frame loop can run with these settings. -/
def validate (s : FrameSettings) : Except SettingsError Unit :=
  if s.numBuffers = 0 then .error .noSlots else .ok ()

/-- The settings shown as a value. -/
def description (s : FrameSettings) : String :=
  "FrameTaskConfig \x7b num_buffers: " ++ toString s.numBuffers ++ ", fence_timeout_ns: " ++
    toString s.fenceTimeout ++ ", idle_sleep_ms: " ++ toString s.idleSleep ++ " \x7d"

end FrameSettings

end FramesInFlight

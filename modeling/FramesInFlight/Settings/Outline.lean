import FramesInFlight.Settings.Basic

/-!
# Outlines

An outline lists groups of settings and, in each group, some settings with their values, in any
order.  It is what a document says, whatever its format: `Outline.settings` lays it over the
settings that hold when nothing is said, and `Outline.ofSettings` says everything there is to say.
-/

namespace FramesInFlight

namespace Settings

/-- The groups of settings. -/
inductive Group where
  | frame
  | light
  deriving DecidableEq, Repr

/-- The single settings. -/
inductive Key where
  | numBuffers
  | fenceTimeout
  | idleSleep
  | maxLights
  | maxViewports
  deriving DecidableEq, Repr

namespace Group

/-- All groups, in the order they are written. -/
def all : List Group := [frame, light]

/-- The name of a group in documents. -/
def name : Group → String
  | frame => "frame_task"
  | light => "lighting"

/-- The settings of a group, in the order they are written. -/
def keys : Group → List Key
  | frame => [.numBuffers, .fenceTimeout, .idleSleep]
  | light => [.maxLights, .maxViewports]

end Group

/-- The name of a setting in documents. -/
def Key.name : Key → String
  | numBuffers => "num_buffers"
  | fenceTimeout => "fence_timeout_ns"
  | idleSleep => "idle_sleep_ms"
  | maxLights => "max_number_lights"
  | maxViewports => "max_viewports"

/-- The value of a setting. -/
def get (s : Settings) : Key → UInt64
  | .numBuffers => s.frame.numBuffers
  | .fenceTimeout => s.frame.fenceTimeout
  | .idleSleep => s.frame.idleSleep
  | .maxLights => s.light.maxLights
  | .maxViewports => s.light.maxViewports

/-- The settings with another value of one of them. -/
def set (s : Settings) (key : Key) (value : UInt64) : Settings :=
  match key with
  | .numBuffers => { s with frame := { s.frame with numBuffers := value } }
  | .fenceTimeout => { s with frame := { s.frame with fenceTimeout := value } }
  | .idleSleep => { s with frame := { s.frame with idleSleep := value } }
  | .maxLights => { s with light := { s.light with maxLights := value } }
  | .maxViewports => { s with light := { s.light with maxViewports := value } }

/-- The settings with other values of some of them, the last of which counts. -/
def overlay (s : Settings) (given : List (Key × UInt64)) : Settings :=
  given.foldl (fun s (key, value) => s.set key value) s

end Settings

/-- A group of settings with some of its values. -/
structure Outline.Part where
  group : Settings.Group
  entries : List (Settings.Key × UInt64)
  deriving DecidableEq, Repr

/-- What a document says. -/
abbrev Outline : Type := List Outline.Part

namespace Outline

/-- The values given, in order. -/
def given (outline : Outline) : List (Settings.Key × UInt64) := outline.flatMap (·.entries)

/-- The settings that an outline stands for. -/
def settings (outline : Outline) : Settings := Settings.overlay {} outline.given

/-- The outline that says everything. -/
def ofSettings (s : Settings) : Outline :=
  Settings.Group.all.map fun group => ⟨group, group.keys.map fun key => (key, s.get key)⟩

end Outline

end FramesInFlight

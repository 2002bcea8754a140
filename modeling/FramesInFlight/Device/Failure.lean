import FramesInFlight.Device.Status
import FramesInFlight.Text.Quoted

/-!
# Failures

Why an operation on the device, or one that needs it, did not go through.  `Failure.message` words
each cause for a reader, `Failure.description` shows it as a value.
-/

namespace FramesInFlight

/-- Causes of failure. -/
inductive Failure where
  /-- A device call reported this status. -/
  | device (status : Status)
  /-- An object could not be made, although no device call failed. -/
  | initialization (detail : String)
  /-- The named object was used before it was compiled. -/
  | notCompiled (what : String)
  /-- The settings cannot drive a working object. -/
  | invalidConfiguration (detail : String)
  /-- A frame phase ran before the first advance. -/
  | noCurrentFrame
  deriving DecidableEq, Repr

namespace Failure

/-- The wording of a failure. -/
def message : Failure → String
  | .device status => "Vulkan API error: " ++ status.text
  | .initialization detail => "Initialization failed: " ++ detail
  | .notCompiled what => what ++ " has not been compiled"
  | .invalidConfiguration detail => "Invalid configuration: " ++ detail
  | .noCurrentFrame => "no current frame: advance() has not been called"

/-- A failure shown as a value. -/
def description : Failure → String
  | .device status => "Api(" ++ status.text ++ ")"
  | .initialization detail => "InitializationFailed(" ++ Quoted.quote detail ++ ")"
  | .notCompiled what => "NotCompiled(" ++ Quoted.quote what ++ ")"
  | .invalidConfiguration detail => "InvalidConfiguration(" ++ Quoted.quote detail ++ ")"
  | .noCurrentFrame => "NoCurrentFrame"

/-- Whether the device is gone, which no retry mends. -/
def isDeviceLost (f : Failure) : Bool := f == .device .deviceLost

/-- Whether a wait ran out of time. -/
def isTimeout (f : Failure) : Bool := f == .device .timeout

end Failure

end FramesInFlight

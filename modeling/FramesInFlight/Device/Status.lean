/-!
# Status codes and stage masks

What the device reports is an integer; the known ones have names.  A pipeline stage mask is a set of
bits, shown by the names of its bits.
-/

namespace FramesInFlight

/-- A status code reported by the device. -/
structure Status where
  code : Int
  deriving DecidableEq, Repr, Inhabited

namespace Status

/-- A call that went through. -/
def success : Status := ⟨0⟩

/-- A wait that ran out of time. -/
def timeout : Status := ⟨2⟩

/-- The device is gone. -/
def deviceLost : Status := ⟨-4⟩

/-- The codes that have names. -/
def names : List (Int × String) :=
  [(0, "SUCCESS"), (1, "NOT_READY"), (2, "TIMEOUT"), (3, "EVENT_SET"), (4, "EVENT_RESET"),
   (5, "INCOMPLETE"), (-1, "ERROR_OUT_OF_HOST_MEMORY"), (-2, "ERROR_OUT_OF_DEVICE_MEMORY"),
   (-3, "ERROR_INITIALIZATION_FAILED"), (-4, "ERROR_DEVICE_LOST"), (-5, "ERROR_MEMORY_MAP_FAILED"),
   (-6, "ERROR_LAYER_NOT_PRESENT"), (-7, "ERROR_EXTENSION_NOT_PRESENT"),
   (-8, "ERROR_FEATURE_NOT_PRESENT"), (-9, "ERROR_INCOMPATIBLE_DRIVER"),
   (-10, "ERROR_TOO_MANY_OBJECTS"), (-11, "ERROR_FORMAT_NOT_SUPPORTED"),
   (-12, "ERROR_FRAGMENTED_POOL"), (-13, "ERROR_UNKNOWN"),
   (-1000069000, "ERROR_OUT_OF_POOL_MEMORY"), (-1000072003, "ERROR_INVALID_EXTERNAL_HANDLE"),
   (-1000000000, "ERROR_SURFACE_LOST_KHR"), (-1000000001, "ERROR_NATIVE_WINDOW_IN_USE_KHR"),
   (1000001003, "SUBOPTIMAL_KHR"), (-1000001004, "ERROR_OUT_OF_DATE_KHR")]

/-- The name of a code, or the code itself. -/
def text (s : Status) : String :=
  (names.lookup s.code).getD (toString s.code)

end Status

/-- A set of pipeline stages, one bit each. -/
abbrev StageMask := Nat

namespace StageMask

/-- Copies between host and device. -/
def transfer : StageMask := 0x1000

/-- Every stage. -/
def allCommands : StageMask := 0x10000

/-- The stages that have names, from the lowest bit on. -/
def names : List String :=
  ["TOP_OF_PIPE", "DRAW_INDIRECT", "VERTEX_INPUT", "VERTEX_SHADER", "TESSELLATION_CONTROL_SHADER",
   "TESSELLATION_EVALUATION_SHADER", "GEOMETRY_SHADER", "FRAGMENT_SHADER", "EARLY_FRAGMENT_TESTS",
   "LATE_FRAGMENT_TESTS", "COLOR_ATTACHMENT_OUTPUT", "COMPUTE_SHADER", "TRANSFER",
   "BOTTOM_OF_PIPE", "HOST", "ALL_GRAPHICS", "ALL_COMMANDS"]

/-- The names of the bits of `mask`, then its bits without a name as one binary number. -/
def text (mask : StageMask) : String :=
  let named := names.zipIdx.filterMap fun (name, bit) => if mask.testBit bit then some name else none
  let rest := (mask >>> names.length) <<< names.length
  let unnamed := if rest = 0 then [] else [String.ofList (Nat.toDigits 2 rest)]
  String.intercalate " | " (named ++ unnamed)

end StageMask

/-- The text of a handle: its number in base sixteen. -/
def handleText (handle : Nat) : String :=
  "0x" ++ String.ofList (Nat.toDigits 16 handle)

end FramesInFlight

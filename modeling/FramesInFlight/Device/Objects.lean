import FramesInFlight.Device.Status

/-!
# Objects of the device

Semaphores, command buffers, fences and the batches handed to a queue.

A fence holds what the batches it guards still use: command buffers and semaphores.  They are let
go when the fence was reset, and not before.
-/

namespace FramesInFlight

/-- Who stands behind an object: the device itself, which has to destroy it in the end, or a bench
that only answers in its place. -/
inductive Provider where
  | device
  | bench
  deriving DecidableEq, Repr, Inhabited

/-- A semaphore and the stage at which a batch that lists it waits. -/
structure Semaphore where
  handle : Nat
  stage : StageMask
  provider : Provider := .bench
  deriving DecidableEq, Repr, Inhabited

/-- Levels of command buffers: primary ones are submitted, secondary ones run through a primary. -/
inductive CommandLevel where
  | primary
  | secondary
  | other (code : Int)
  deriving DecidableEq, Repr

namespace CommandLevel

/-- The level with number `code`. -/
def ofCode (code : Int) : CommandLevel :=
  if code = 0 then primary else if code = 1 then secondary else other code

/-- The number of a level. -/
def code : CommandLevel → Int
  | primary => 0
  | secondary => 1
  | other code => code

/-- The name of a level, or its number. -/
def text : CommandLevel → String
  | primary => "PRIMARY"
  | secondary => "SECONDARY"
  | other code => toString code

end CommandLevel

/-- A recorded command buffer. -/
structure CommandBuffer where
  handle : Nat
  level : CommandLevel
  deriving DecidableEq, Repr

/-- A fence and what it holds. -/
structure Fence where
  handle : Nat
  buffers : List CommandBuffer := []
  semaphores : List Semaphore := []
  provider : Provider := .bench
  deriving DecidableEq, Repr, Inhabited

namespace Fence

/-- Whether a batch left objects with the fence that may still be in use. -/
def isHolding (fence : Fence) : Bool := !fence.buffers.isEmpty || !fence.semaphores.isEmpty

/-- The fence with nothing held. -/
def release (fence : Fence) : Fence := { fence with buffers := [], semaphores := [] }

/-- The fence after a batch was accepted: its buffers join those held, and its semaphores take the
place of those held. -/
def hold (fence : Fence) (buffers : List CommandBuffer) (semaphores : List Semaphore) : Fence :=
  { fence with buffers := fence.buffers ++ buffers, semaphores := semaphores }

/-- A fence shown as a value. -/
def description (fence : Fence) : String :=
  "Fence \x7b handle: " ++ handleText fence.handle ++ ", dependent_command_buffers: " ++
    toString fence.buffers.length ++ ", dependent_semaphores: " ++
    toString fence.semaphores.length ++ " \x7d"

/-- The device's fence behind a fence, shown as a value; a bench shows none. -/
def primitiveDescription (fence : Fence) : Option String :=
  match fence.provider with
  | .device => some ("VulkanFence \x7b fence: " ++ handleText fence.handle ++ " \x7d")
  | .bench => none

end Fence

/-- A semaphore of the device shown as a value. -/
def Semaphore.description (semaphore : Semaphore) : String :=
  "VulkanSemaphore \x7b semaphore: " ++ handleText semaphore.handle ++ ", stage_flags: " ++
    StageMask.text semaphore.stage ++ " \x7d"

/-- A command buffer shown as a value. -/
def CommandBuffer.description (buffer : CommandBuffer) : String :=
  "VulkanCommandBuffer \x7b command_buffer: " ++ handleText buffer.handle ++ ", level: " ++
    buffer.level.text ++ " \x7d"

/-- A queue of the device shown as a value. -/
def queueDescription (queue : Nat) : String :=
  "VulkanQueue \x7b queue: " ++ handleText queue ++ " \x7d"

/-- A command encoder shown as a value. -/
def encoderDescription (buffer : Nat) : String :=
  "VulkanCommandEncoder \x7b command_buffer: " ++ handleText buffer ++ " \x7d"

/-- One unit of work for a queue.  Each semaphore waited on comes with the stage that waits. -/
structure Batch where
  waits : List Semaphore := []
  buffers : List Nat := []
  signals : List Nat := []
  deriving DecidableEq, Repr

namespace Batch

/-- Handles of the semaphores waited on. -/
def waitHandles (batch : Batch) : List Nat := batch.waits.map (·.handle)

/-- Stage at which each of them is waited on. -/
def waitStages (batch : Batch) : List StageMask := batch.waits.map (·.stage)

end Batch

end FramesInFlight

import FramesInFlight.Device.Descriptor
import FramesInFlight.Device.Failure
import FramesInFlight.Device.Notice
import FramesInFlight.Device.Objects
import FramesInFlight.Frame.Collaborator
import FramesInFlight.Frame.DynamicData
import FramesInFlight.Frame.Time

/-!
# The world around the library

Everything the library asks of others is an `Event`, noted together with the answer it got, in the
order of asking.  A `World` is the state of the others, the events so far and the notices so far.

A `Device` is how the device answers.  It is given as functions on the state of the others, so that
a statement about every device is a statement about every such record: each call may succeed or
fail, in any pattern.
-/

namespace FramesInFlight

/-- What a transfer that went through did. -/
structure TransferReport where
  /-- Semaphore the copy signals, when anything was copied. -/
  published : Option Semaphore := none
  /-- Light records copied, when light data was due. -/
  uploaded : Option (List Record) := none

/-- Something asked of the device or of a collaborator, with its answer. -/
inductive Event where
  | fenceCreated (provider : Provider) (signaled : Bool) (answer : Except Status Nat)
  | fenceDestroyed (fence : Nat)
  | fenceWaited (provider : Provider) (fence timeout : Nat) (answer : Except Failure Unit)
  | fenceReset (provider : Provider) (fence : Nat) (answer : Except Failure Unit)
  | semaphoreCreated (provider : Provider) (stage : StageMask) (answer : Except Status Nat)
  | semaphoreDestroyed (semaphore : Nat)
  | submitted (provider : Provider) (queue : Nat) (batch : Batch) (fence : Nat)
      (answer : Except Failure Unit)
  | layoutCreated (bindings : List LayoutBinding) (answer : Except Status Nat)
  | layoutDestroyed (layout : Nat)
  | poolCreated (shape : PoolShape) (answer : Except Status Nat)
  | poolDestroyed (pool : Nat)
  | setsAllocated (pool : Nat) (layouts : List Nat) (answer : Except Status (List Nat))
  | setWritten (set : Nat) (writes : List BufferWrite)
  | setsBound (encoder : Option Nat) (binding : SetBinding) (answer : Except Failure Unit)
  | transferAdvanced (task : Collaborator)
  | transferCleared (task : Collaborator)
  | transferred (task : Collaborator) (answer : Except Failure TransferReport)
  | waitGiven (task : Collaborator) (semaphore : Semaphore)
  | dataAssigned (task : Collaborator) (data : DynamicData)
  | recorded (graph : Collaborator) (time : FrameTime) (pager : Option Nat)
      (answer : Except Failure (List CommandBuffer))
  | slotsRaised (graph : Collaborator) (maxSlot : Nat)
  | pagerCreated (pager : Nat)
  | pagerStarted (pager : Nat)

/-- The state of everything outside the library, what was asked of it, and what was reported. -/
structure World (σ : Type) where
  state : σ
  events : List Event := []
  notices : List Notice := []

namespace World

variable {σ ε α : Type}

/-- Note an event. -/
def emit (world : World σ) (event : Event) : World σ :=
  { world with events := world.events ++ [event] }

/-- Report something. -/
def notice (world : World σ) (notice : Notice) : World σ :=
  { world with notices := world.notices ++ [notice] }

/-- Report several things. -/
def report (world : World σ) (notices : List Notice) : World σ :=
  { world with notices := world.notices ++ notices }

/-- Ask, and note what was asked with its answer. -/
def ask (world : World σ) (act : σ → Except ε α × σ) (event : Except ε α → Event) :
    Except ε α × World σ :=
  let (answer, state) := act world.state
  (answer, { world with state := state }.emit (event answer))

end World

/-- How the device answers.  It makes objects itself and refuses with a status.  Fences in use and
the queue are called through interfaces, behind which any failure can arise. -/
structure Device (σ : Type) where
  provider : Provider
  createFence : σ → Except Status Nat × σ
  createSemaphore : σ → Except Status Nat × σ
  waitFence (fence timeout : Nat) : σ → Except Failure Unit × σ
  resetFence (fence : Nat) : σ → Except Failure Unit × σ
  submit (batch : Batch) (fence : Nat) : σ → Except Failure Unit × σ
  createLayout : σ → Except Status Nat × σ
  createPool : σ → Except Status Nat × σ
  allocateSets (pool : Nat) (layouts : List Nat) : σ → Except Status (List Nat) × σ

namespace Device

variable {σ : Type}

/-- Create a fence. -/
def fence (device : Device σ) (signaled : Bool) (world : World σ) :
    Except Status Fence × World σ :=
  let (answer, world) := world.ask device.createFence (.fenceCreated device.provider signaled)
  (answer.map fun handle => { handle, provider := device.provider }, world)

/-- Create a semaphore waited on at `stage`. -/
def semaphore (device : Device σ) (stage : StageMask) (world : World σ) :
    Except Status Semaphore × World σ :=
  let (answer, world) :=
    world.ask device.createSemaphore (.semaphoreCreated device.provider stage)
  (answer.map fun handle => { handle, stage, provider := device.provider }, world)

/-- Wait for a fence. -/
def wait (device : Device σ) (fence : Fence) (timeout : Nat) (world : World σ) :
    Except Failure Unit × World σ :=
  world.ask (device.waitFence fence.handle timeout)
    (.fenceWaited fence.provider fence.handle timeout)

/-- Reset a fence. -/
def reset (device : Device σ) (fence : Fence) (world : World σ) : Except Failure Unit × World σ :=
  world.ask (device.resetFence fence.handle) (.fenceReset fence.provider fence.handle)

/-- Hand a batch to a queue, to be guarded by a fence. -/
def enqueue (device : Device σ) (queue : Nat) (batch : Batch) (fence : Nat) (world : World σ) :
    Except Failure Unit × World σ :=
  world.ask (device.submit batch fence) (.submitted device.provider queue batch fence)

/-- Create a descriptor set layout. -/
def layout (device : Device σ) (bindings : List LayoutBinding) (world : World σ) :
    Except Status Nat × World σ :=
  world.ask device.createLayout (.layoutCreated bindings)

/-- Create a descriptor pool. -/
def pool (device : Device σ) (shape : PoolShape) (world : World σ) :
    Except Status Nat × World σ :=
  world.ask device.createPool (.poolCreated shape)

/-- Allocate one descriptor set for each layout. -/
def sets (device : Device σ) (pool : Nat) (layouts : List Nat) (world : World σ) :
    Except Status (List Nat) × World σ :=
  world.ask (device.allocateSets pool layouts) (.setsAllocated pool layouts)

end Device

namespace World

variable {σ : Type}

/-- A fence goes: one of the device's own is destroyed. -/
def dropFence (world : World σ) (fence : Fence) : World σ :=
  match fence.provider with
  | .device => world.emit (.fenceDestroyed fence.handle)
  | .bench => world

/-- A semaphore goes: one of the device's own is destroyed. -/
def dropSemaphore (world : World σ) (semaphore : Semaphore) : World σ :=
  match semaphore.provider with
  | .device => world.emit (.semaphoreDestroyed semaphore.handle)
  | .bench => world

end World

end FramesInFlight

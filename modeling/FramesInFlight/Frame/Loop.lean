import FramesInFlight.Device.World
import FramesInFlight.Frame.SlotRing
import FramesInFlight.Settings.Basic

/-!
# Frame loops

A frame loop owns a ring of slots, one fence for each slot, and what is attached to it: two transfer
lanes, command graphs, windows, semaphores of the application and a pager.

A lane carries the transfer task of one side of recording, early or late, and the semaphore that
tells that task when a batch has consumed what it copied.
-/

namespace FramesInFlight

/-- A task that copies dynamic data to the device once in a frame. -/
structure Transfer extends Collaborator where
  /-- Semaphore that this frame's copy signals, if one was issued. -/
  completed : Option Semaphore := none
  /-- Semaphores the next copy waits on before it reuses its memory. -/
  waits : List Semaphore := []
  /-- Dynamic data to keep up to date, oldest first. -/
  assigned : List DynamicData := []
  deriving DecidableEq, Repr

/-- The sides of recording a transfer can be on. -/
inductive Phase where
  | early
  | late
  deriving DecidableEq, Repr

/-- A transfer task, if there is one, and the semaphore that tells it what was consumed. -/
structure Lane where
  task : Option Transfer := none
  consumed : Semaphore
  deriving DecidableEq, Repr

/-- Semaphore of this frame's copy on a lane. -/
def Lane.completed (lane : Lane) : Option Semaphore := lane.task.bind (·.completed)

/-- Semaphore that a batch signals for a lane: the consumed one, if there is a copy to consume. -/
def Lane.signal (lane : Lane) : Option Semaphore := lane.completed.map fun _ => lane.consumed

/-- A source of command buffers, and the number of state slots it keeps track of. -/
structure Graph extends Collaborator where
  maxSlot : Nat := 0
  deriving DecidableEq, Repr

/-- Records and submits the frames of one queue. -/
structure FrameLoop where
  ring : SlotRing
  fences : List Fence
  queue : Nat
  early : Lane
  late : Lane
  graphs : List Graph := []
  windows : List String := []
  waits : List Semaphore := []
  signals : List Semaphore := []
  pager : Option Nat := none
  timeout : Nat
  idleSleep : Nat
  deriving DecidableEq, Repr

namespace FrameLoop

/-! ## Slots and fences -/

/-- Number of slots. -/
def slots (loop : FrameLoop) : Nat := loop.ring.size

/-- Slot used `k` frames ago. -/
def slot? (loop : FrameLoop) (k : Nat) : Option Nat := loop.ring.slot? k

/-- Fence of the frame `k` frames ago. -/
def fence? (loop : FrameLoop) (k : Nat) : Option Fence :=
  (loop.slot? k).bind fun slot => loop.fences[slot]?

/-- Slot and fence of the current frame. -/
def current? (loop : FrameLoop) : Option (Nat × Fence) :=
  (loop.slot? 0).bind fun slot => (loop.fences[slot]?).map fun fence => (slot, fence)

/-- Change the fence of a slot. -/
def mapFence (loop : FrameLoop) (slot : Nat) (f : Fence → Fence) : FrameLoop :=
  { loop with fences := loop.fences.modify slot f }

/-! ## Lanes -/

/-- The lane of a phase. -/
def lane (loop : FrameLoop) : Phase → Lane
  | .early => loop.early
  | .late => loop.late

/-- Change the transfer task of a phase, if there is one. -/
def mapTask (loop : FrameLoop) (phase : Phase) (f : Transfer → Transfer) : FrameLoop :=
  match phase with
  | .early => { loop with early := { loop.early with task := loop.early.task.map f } }
  | .late => { loop with late := { loop.late with task := loop.late.task.map f } }

/-- Attach a transfer task. -/
def attach (loop : FrameLoop) (phase : Phase) (task : Transfer) : FrameLoop :=
  match phase with
  | .early => { loop with early := { loop.early with task := some task } }
  | .late => { loop with late := { loop.late with task := some task } }

/-! ## What else is attached -/

/-- Add a graph; graphs record in the order they were added. -/
def addGraph (loop : FrameLoop) (graph : Graph) : FrameLoop :=
  { loop with graphs := loop.graphs ++ [graph] }

/-- Wait for a window's image in every batch. -/
def addWindow (loop : FrameLoop) (window : String) : FrameLoop :=
  { loop with windows := loop.windows ++ [window] }

/-- Wait on a semaphore in every batch. -/
def addWait (loop : FrameLoop) (semaphore : Semaphore) : FrameLoop :=
  { loop with waits := loop.waits ++ [semaphore] }

/-- Signal a semaphore from every batch. -/
def addSignal (loop : FrameLoop) (semaphore : Semaphore) : FrameLoop :=
  { loop with signals := loop.signals ++ [semaphore] }

/-- Set the pager that graphs are given. -/
def setPager (loop : FrameLoop) (pager : Nat) : FrameLoop := { loop with pager := some pager }

/-! ## Batches -/

/-- The batch for what was recorded.  It waits for both copies, for the windows' `images` and for the
application's semaphores, and signals in the same order. -/
def batch (loop : FrameLoop) (images : List Semaphore) (recorded : List CommandBuffer) : Batch where
  waits := loop.early.completed.toList ++ loop.late.completed.toList ++ images ++ loop.waits
  buffers := (recorded.filter (·.level == .primary)).map (·.handle)
  signals := (loop.early.signal.toList ++ loop.late.signal.toList ++ loop.signals).map (·.handle)

/-! ## Making a loop -/

/-- Create `n` fences after those `made`.  When one cannot be created, all made so far are dropped,
oldest first. -/
def makeFences {σ : Type} (device : Device σ) (made : List Fence) :
    Nat → World σ → Except Status (List Fence) × World σ
  | 0, world => (.ok made, world)
  | n + 1, world =>
    match device.fence false world with
    | (.ok fence, world) => makeFences device (made ++ [fence]) n world
    | (.error status, world) => (.error status, made.foldl World.dropFence world)

/-- Create a loop: a fence for each slot, then the two semaphores of the lanes.  The first call that
fails ends it, and what was made by then is dropped. -/
def create {σ : Type} (device : Device σ) (queue : Nat) (settings : FrameSettings)
    (world : World σ) : Except Failure FrameLoop × World σ :=
  match settings.validate with
  | .error cause => (.error (.invalidConfiguration (cause.message?.getD "")), world)
  | .ok () =>
    let slots := settings.numBuffers.toNat
    match makeFences device [] slots world with
    | (.error status, world) => (.error (.device status), world)
    | (.ok fences, world) =>
      match device.semaphore .transfer world with
      | (.error status, world) =>
        (.error (.device status), fences.foldl World.dropFence world)
      | (.ok early, world) =>
        match device.semaphore .transfer world with
        | (.error status, world) =>
          (.error (.device status), fences.foldl World.dropFence (world.dropSemaphore early))
        | (.ok late, world) =>
          let loop : FrameLoop :=
            { ring := .ofSize slots
              fences
              queue
              early := { consumed := early }
              late := { consumed := late }
              timeout := settings.fenceTimeout.toNat
              idleSleep := settings.idleSleep.toNat }
          (.ok loop, world.notice (.loopCreated slots))

end FrameLoop

end FramesInFlight

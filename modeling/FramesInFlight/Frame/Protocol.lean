import FramesInFlight.Frame.Loop

/-!
# The frame protocol

Each frame goes through fixed phases:

* start: wait for the slot's previous batch and release what it held;
* early transfer: copy what the recorded draws will read;
* record: every graph, in the order added;
* late transfer: copy what recording produced;
* finish: one batch, guarded by the slot's fence.

The first call that fails ends the frame with its failure, and what was done by then stays done.
The wait at the start is the only one, and it keeps the host from running ahead of the device by
more frames than there are slots.
-/

namespace FramesInFlight

/-- What a graph did when it recorded. -/
structure Recording where
  buffers : List CommandBuffer := []
  notices : List Notice := []

/-- Everything around a frame loop: the device, transfers, graphs and windows. -/
structure Surroundings (σ : Type) extends Device σ where
  transfer (task : Collaborator) : σ → Except Failure TransferReport × σ
  record (graph : Collaborator) (time : FrameTime) (pager : Option Nat) :
    σ → Except Failure Recording × σ
  /-- Semaphore of the image acquired by a window. -/
  image (window : String) : σ → Option Semaphore
  pause (millis : Nat) : σ → σ

/-- A frame loop at work in its world, and the command buffers recorded so far. -/
structure Stage (σ : Type) where
  loop : FrameLoop
  world : World σ
  recorded : List CommandBuffer := []

/-- What became of a frame. -/
inductive FrameOutcome where
  /-- A batch was handed to the queue. -/
  | submitted
  /-- Nothing was recorded, and nothing submitted. -/
  | idle
  deriving DecidableEq, Repr

/-- A piece of the protocol.  It ends with a value or with a failure, and leaves a stage behind in
either case. -/
def Frame (σ α : Type) : Type := Stage σ → Except Failure α × Stage σ

namespace Frame

variable {σ α β : Type}

/-- End with a value. -/
protected def pure (a : α) : Frame σ α := fun stage => (.ok a, stage)

/-- One piece after another; a failure ends both. -/
protected def bind (piece : Frame σ α) (next : α → Frame σ β) : Frame σ β := fun stage =>
  match piece stage with
  | (.ok a, stage) => next a stage
  | (.error failure, stage) => (.error failure, stage)

instance : Monad (Frame σ) where
  pure := Frame.pure
  bind := Frame.bind

/-- End with a failure. -/
def fail (failure : Failure) : Frame σ α := fun stage => (.error failure, stage)

/-- The stage as it is. -/
def stage : Frame σ (Stage σ) := fun stage => (.ok stage, stage)

/-- Change the stage. -/
def change (f : Stage σ → Stage σ) : Frame σ Unit := fun stage => (.ok (), f stage)

/-- Report something. -/
def notice (notice : Notice) : Frame σ Unit :=
  change fun stage => { stage with world := stage.world.notice notice }

/-- Ask something of the world; a failure that it answers with is passed on as it is. -/
def ask (act : World σ → Except Failure α × World σ) : Frame σ α := fun stage =>
  let (answer, world) := act stage.world
  (answer, { stage with world := world })

end Frame

namespace Stage

variable {σ : Type}

/-- Change the transfer task of a phase and note an event about it, if there is such a task. -/
def onTask (stage : Stage σ) (phase : Phase) (f : Transfer → Transfer) (event : Collaborator → Event) :
    Stage σ :=
  match (stage.loop.lane phase).task with
  | none => stage
  | some task =>
    { stage with loop := stage.loop.mapTask phase f, world := stage.world.emit (event task.toCollaborator) }

/-- Move on to the next slot, together with the transfer tasks. -/
def advance (stage : Stage σ) : Stage σ :=
  let ring := stage.loop.ring.advance
  let moved : Stage σ :=
    { stage with
      loop := { stage.loop with ring := ring }
      world := stage.world.notice (.advanced stage.loop.ring.nextSlot) }
  (moved.onTask .early id .transferAdvanced).onTask .late id .transferAdvanced

/-- Forget the copies of the previous frame. -/
def clearCompleted (stage : Stage σ) : Stage σ :=
  let clear (task : Transfer) : Transfer := { task with completed := none }
  (stage.onTask .early clear .transferCleared).onTask .late clear .transferCleared

/-- Tell the transfer task of a phase that its copy is consumed, if the batch waits for one. -/
def giveConsumed (stage : Stage σ) (phase : Phase) : Stage σ :=
  match (stage.loop.lane phase).signal with
  | none => stage
  | some consumed =>
    stage.onTask phase (fun task => { task with waits := task.waits ++ [consumed] })
      (.waitGiven · consumed)

end Stage

/-- Yield for a while after a frame without work, if the settings say so. -/
def Stage.rest {σ : Type} (env : Surroundings σ) (stage : Stage σ) : Stage σ :=
  if stage.loop.idleSleep = 0 then stage
  else
    let state := env.pause stage.loop.idleSleep stage.world.state
    { stage with world := { stage.world with state := state } }

namespace FrameLoop

variable {σ : Type}

/-- Run the transfer task of a phase.  One that fails leaves its semaphore as it was. -/
def transfer (env : Surroundings σ) (phase : Phase) : Frame σ Unit := do
  let stage ← Frame.stage
  match (stage.loop.lane phase).task with
  | none => pure ()
  | some task =>
    let report ← Frame.ask fun world =>
      world.ask (env.transfer task.toCollaborator) (.transferred task.toCollaborator)
    Frame.change fun stage =>
      { stage with
        loop := stage.loop.mapTask phase fun task => { task with completed := report.published } }

/-- Wait until the slot's previous batch is done, and release what it held.  A fence that holds
nothing guards no batch and is not waited for. -/
def start (env : Surroundings σ) : Frame σ Unit := do
  Frame.change Stage.clearCompleted
  let stage ← Frame.stage
  match stage.loop.current? with
  | none => Frame.fail .noCurrentFrame
  | some (slot, fence) =>
    if fence.isHolding then
      Frame.notice (.waitingOnFence fence.handle slot)
      Frame.ask (env.wait fence stage.loop.timeout)
      Frame.ask (env.reset fence)
      Frame.change fun stage => { stage with loop := stage.loop.mapFence slot Fence.release }
    else
      pure ()

/-- Record graphs, one after the other. -/
def recordGraphs (env : Surroundings σ) (time : FrameTime) (pager : Option Nat) :
    List Graph → Frame σ Unit
  | [] => pure ()
  | graph :: later => do
    let recording ← Frame.ask fun world =>
      world.ask (env.record graph.toCollaborator time pager) fun answer =>
        .recorded graph.toCollaborator time pager (answer.map (·.buffers))
    Frame.change fun stage =>
      { stage with
        recorded := stage.recorded ++ recording.buffers
        world := stage.world.report recording.notices }
    recordGraphs env time pager later

/-- Record every graph of the loop. -/
def record (env : Surroundings σ) (time : FrameTime) : Frame σ Unit := do
  let stage ← Frame.stage
  recordGraphs env time stage.loop.pager stage.loop.graphs

/-- Run the late transfer and submit what was recorded.  Only a batch that the queue accepted may
hold objects and be waited for. -/
def finish (env : Surroundings σ) (recorded : List CommandBuffer) : Frame σ FrameOutcome := do
  transfer env .late
  let stage ← Frame.stage
  if recorded.isEmpty then
    Frame.notice .nothingRecorded
    Frame.change (·.rest env)
    pure .idle
  else
    match stage.loop.current? with
    | none => Frame.fail .noCurrentFrame
    | some (slot, fence) =>
      let loop := stage.loop
      let images := loop.windows.filterMap fun window => env.image window stage.world.state
      let batch := loop.batch images recorded
      Frame.notice (.submitting slot batch.buffers.length recorded.length batch.waits.length
        batch.signals.length)
      Frame.ask (env.enqueue loop.queue batch fence.handle)
      Frame.change fun stage =>
        let held : Stage σ :=
          { stage with loop := stage.loop.mapFence slot (·.hold recorded loop.signals) }
        (held.giveConsumed .early).giveConsumed .late
      pure .submitted

/-- Run a whole frame. -/
def submit (env : Surroundings σ) (time : FrameTime) : Frame σ FrameOutcome := do
  start env
  transfer env .early
  Frame.change fun stage => { stage with recorded := [] }
  record env time
  let stage ← Frame.stage
  finish env stage.recorded

end FrameLoop

end FramesInFlight

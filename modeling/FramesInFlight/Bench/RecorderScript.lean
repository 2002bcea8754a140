import FramesInFlight.Bench.Basic
import FramesInFlight.Light.Descriptors
import FramesInFlight.Scene.Change

/-!
# Recorded calls

A recorder keeps every event of a bench and can be asked afterwards what happened to one fence, one
transfer, one graph, the queue or a pager: how often it was called, and what was seen last.

A script drives frame loops under a recorder, beside one light state, one binder and one fence of
its own.
-/

namespace FramesInFlight

/-! ## Views of the events -/

namespace Recorder

/-- What a fence was asked. -/
structure FenceLog where
  waits : Nat
  resets : Nat
  lastTimeout : Option Nat
  deriving DecidableEq, Repr

/-- Every wait counts, and only the resets that went through do. -/
def fenceLog (events : List Event) (fence : Nat) : FenceLog :=
  let timeouts := events.filterMap fun
    | .fenceWaited _ handle timeout _ => if handle = fence then some timeout else none
    | _ => none
  let resets := events.filter fun
    | .fenceReset _ handle (.ok ()) => handle == fence
    | _ => false
  ⟨timeouts.length, resets.length, timeouts.getLast?⟩

/-- Fences made. -/
def fences (events : List Event) : List Nat :=
  events.filterMap fun
    | .fenceCreated _ _ (.ok handle) => some handle
    | _ => none

/-- Number of semaphores made. -/
def semaphoreCount (events : List Event) : Nat :=
  (events.filter fun
    | .semaphoreCreated _ _ (.ok _) => true
    | _ => false).length

/-- Batches accepted, each with its fence. -/
def accepted (events : List Event) : List (Batch × Nat) :=
  events.filterMap fun
    | .submitted _ _ batch fence (.ok ()) => some (batch, fence)
    | _ => none

/-- What a transfer was asked. -/
structure TransferLog where
  advances : Nat
  transfers : Nat
  clears : Nat
  assigned : List DynamicData
  waits : List Semaphore
  completed : Option Semaphore
  deriving DecidableEq, Repr

/-- The transfer's log after one more event; a transfer that failed leaves no trace. -/
def TransferLog.see (task : Collaborator) (log : TransferLog) : Event → TransferLog
  | .transferAdvanced asked =>
    if asked = task then { log with advances := log.advances + 1 } else log
  | .transferCleared asked =>
    if asked = task then { log with clears := log.clears + 1, completed := none } else log
  | .transferred asked (.ok report) =>
    if asked = task then { log with transfers := log.transfers + 1, completed := report.published }
    else log
  | .waitGiven asked semaphore =>
    if asked = task then { log with waits := log.waits ++ [semaphore] } else log
  | .dataAssigned asked data =>
    if asked = task then { log with assigned := log.assigned ++ [data] } else log
  | _ => log

/-- What a transfer was asked, over all events. -/
def transferLog (events : List Event) (task : Collaborator) : TransferLog :=
  events.foldl (TransferLog.see task) ⟨0, 0, 0, [], [], none⟩

/-- What a graph was asked. -/
structure GraphLog where
  records : Nat
  lastFrame : Option Nat
  sawPager : Bool
  deriving DecidableEq, Repr

/-- Only recordings that went through count. -/
def graphLog (events : List Event) (graph : Collaborator) : GraphLog :=
  let seen := events.filterMap fun
    | .recorded asked time pager (.ok _) => if asked = graph then some (time.count, pager) else none
    | _ => none
  ⟨seen.length, seen.getLast?.map (·.1), (seen.getLast?.map (·.2.isSome)).getD false⟩

/-- How often a pager was started. -/
def starts (events : List Event) (pager : Nat) : Nat :=
  (events.filter fun
    | .pagerStarted started => started == pager
    | _ => false).length

/-- Calls that take part in the frame protocol, as a line of text. -/
def line : Event → Option String
  | .transferred task _ => some (task.name ++ ".transfer")
  | .recorded graph .. => some (graph.name ++ ".record")
  | .submitted .. => some "queue.submit"
  | _ => none

end Recorder

/-! ## Scripts -/

namespace RecorderScript

open Recorder

/-- A transfer task to make. -/
structure TransferSpec where
  name : String
  produces : Option Semaphore := none

/-- Things done to the fence of the script's own, in the order of the fields. -/
structure FenceStep where
  buffers : List CommandBuffer := []
  semaphore : Option Semaphore := none
  failWait : Option Status := none
  failReset : Option Status := none
  wait : Option Nat := none
  reset : Bool := false

/-- Steps of a script. -/
inductive Step where
  | newLoop (settings : FrameSettings) (early late : Option TransferSpec)
  | advance (loop : Nat)
  | start (loop : Nat)
  | submit (loop : Nat)
  | addGraph (loop : Nat) (name : String) (buffers : List CommandBuffer) (maxSlot : Nat)
  | addWindow (loop : Nat) (image : Option Semaphore)
  | addWait (loop : Nat) (semaphore : Semaphore)
  | addSignal (loop : Nat) (semaphore : Semaphore)
  | setPager (loop pager : Nat)
  | fault (call : Bench.CallName) (status : Option Status)
  | breakTransfer (task : String) (status : Option Status)
  | breakGraph (graph : String) (status : Option Status)
  | setProduces (task : String) (produces : Option Semaphore)
  | tick (clock : Nat)
  | update (change : SceneChange) (fresh : Nat)
  | create (stage : StageMask)
  | recorded (buffers : List CommandBuffer)
  | ownFence (handle : Nat)
  | onOwnFence (step : FenceStep)
  | compile
  | bind (command : BindLights)

/-- Answers to steps. -/
inductive Answer where
  | done
  | failed (failure : Failure)
  | index (loop : Nat)
  | outcome (outcome : FrameOutcome)
  | count (n : Nat)
  | pager (pager : Option Nat)
  | semaphore (semaphore : Semaphore)
  | recorded (length : Nat) (sameHandles : Bool)
  | flag (b : Bool)
  | ownFence (wait reset : Option (Except Failure Unit)) (log : FenceLog) (fence : Fence)
  | bound (result : Except Failure Unit) (calls : List SetBinding)

/-- State of a script. -/
structure Session where
  world : World Bench
  loops : List FrameLoop := []
  time : FrameTime := .first 0
  shared : Option Nat := none
  /-- The latest transfer and the latest graph of each name. -/
  transfers : List (String × Collaborator) := []
  graphs : List (String × Collaborator) := []
  /-- Pagers named so far. -/
  pagers : List Nat := []
  lights : ViewLights
  pool : Option Nat := none
  bound : List SetBinding := []
  own : Fence := { handle := 0 }
  ownWorld : World Bench := { state := {} }
  /-- Events of the steps before. -/
  past : List Event := []

namespace Session

/-- The state that scripts start in. -/
def initial : Session where
  world := { state := {}, notices := ViewLights.creationNotices 4 1 }
  lights := .ofCapacities 4 1

/-- Everything around the loops. -/
def surroundings : Surroundings Bench := Bench.surroundings .bench

/-- Every event so far. -/
def events (session : Session) : List Event := session.past ++ session.world.events

/-- Change the bench. -/
def onBench (session : Session) (f : Bench → Bench) : Session :=
  { session with world := session.world.onBench f }

/-- Change a loop. -/
def onLoop (session : Session) (loop : Nat) (f : FrameLoop → FrameLoop) : Session :=
  { session with loops := session.loops.modify loop f }

/-- The session with a pager named, if it was not named before. -/
def notePager (session : Session) (pager : Nat) : Session :=
  if session.pagers.contains pager then session
  else { session with pagers := session.pagers ++ [pager] }

/-- Run a piece of the protocol on a loop. -/
def run {α : Type} (session : Session) (loop : Nat) (piece : Frame Bench α) (answer : α → Answer) :
    Answer × Session :=
  match session.loops[loop]? with
  | none => (.failed .noCurrentFrame, session)
  | some running =>
    let (result, stage) := piece { loop := running, world := session.world }
    let session := { session with loops := session.loops.set loop stage.loop, world := stage.world }
    match result with
    | .ok a => (answer a, session)
    | .error failure => (.failed failure, session)

/-- Put a transfer task on the bench. -/
def rig (session : Session) (spec : Option TransferSpec) : Option Collaborator × Session :=
  match spec with
  | none => (none, session)
  | some spec =>
    let (task, bench) := session.world.state.addTransfer spec.name { produces := spec.produces }
    (some task, { session with transfers := Keyed.put spec.name task session.transfers }.onBench
      fun _ => bench)

/-- Attach a transfer task to a loop. -/
def attach (phase : Phase) (task : Option Collaborator) (loop : FrameLoop) : FrameLoop :=
  match task with
  | none => loop
  | some task => loop.attach phase { toCollaborator := task }

/-- Make a loop with its transfer tasks. -/
def makeLoop (session : Session) (settings : FrameSettings) (early late : Option TransferSpec) :
    Answer × Session :=
  let (early, session) := session.rig early
  let (late, session) := session.rig late
  match FrameLoop.create surroundings.toDevice 0 settings session.world with
  | (.error failure, world) => (.failed failure, { session with world })
  | (.ok loop, world) =>
    let loop := attach .late late (attach .early early loop)
    (.index session.loops.length, { session with world, loops := session.loops ++ [loop] })

/-- Do things to the script's own fence. -/
def onOwn (session : Session) (step : FenceStep) : Answer × Session :=
  let fence :=
    { session.own with
      buffers := session.own.buffers ++ step.buffers
      semaphores := session.own.semaphores ++ step.semaphore.toList }
  let fail (call : Bench.CallName) (status : Option Status) (bench : Bench) : Bench :=
    match status with
    | none => bench
    | some status => bench.setFault call (some { status })
  let device := Bench.device .bench
  let world := session.ownWorld.onBench fun bench =>
    fail (.reset fence.handle) step.failReset (fail (.wait fence.handle) step.failWait bench)
  let (waited, world) : Option (Except Failure Unit) × World Bench := match step.wait with
    | none => (none, world)
    | some timeout =>
      let (answer, world) := device.wait fence timeout world
      (some answer, world)
  let (result, fence, world) : Option (Except Failure Unit) × Fence × World Bench :=
    if step.reset then
      match device.reset fence world with
      | (.ok (), world) => (some (.ok ()), fence.release, world)
      | (.error failure, world) => (some (.error failure), fence, world)
    else (none, fence, world)
  (.ownFence waited result (fenceLog world.events fence.handle) fence,
    { session with own := fence, ownWorld := world })

/-- Compile the light state, making a pool first if there is none. -/
def compile (session : Session) : Answer × Session :=
  let device := Bench.device .device
  let (pool, world) : Except Status Nat × World Bench := match session.pool with
    | some pool => (.ok pool, session.world)
    | none => device.pool (.ofSets 1 2) session.world
  match pool with
  | .error status => (.failed (.device status), { session with world })
  | .ok pool =>
    let (result, lights, world) := session.lights.compile device pool 5 6 world
    let session := { session with lights, world, pool := some pool }
    match result with
    | .ok () => (.done, session)
    | .error failure => (.failed failure, session)

/-- Take a step. -/
def step (session : Session) : Step → Answer × Session
  | .newLoop settings early late => session.makeLoop settings early late
  | .advance loop => session.run loop (Frame.change Stage.advance) fun _ => .done
  | .start loop => session.run loop (FrameLoop.start surroundings) fun _ => .done
  | .submit loop => session.run loop (FrameLoop.submit surroundings session.time) .outcome
  | .addGraph loop name buffers maxSlot =>
    let (graph, bench) := session.world.state.addGraph name { buffers }
    let session := { session with graphs := Keyed.put name graph session.graphs }.onLoop loop
      (·.addGraph { toCollaborator := graph, maxSlot })
    (.done, session.onBench fun _ => bench)
  | .addWindow loop image =>
    let name := toString session.world.state.windows.length
    (.done, (session.onLoop loop (·.addWindow name)).onBench fun bench =>
      { bench with windows := Keyed.put name image bench.windows })
  | .addWait loop semaphore => (.done, session.onLoop loop (·.addWait semaphore))
  | .addSignal loop semaphore => (.done, session.onLoop loop (·.addSignal semaphore))
  | .setPager loop pager =>
    (.done, (session.notePager pager).onLoop loop (·.setPager pager))
  | .fault call status =>
    (.done, session.onBench (·.setFault call (status.map fun status => { status })))
  | .setProduces task produces =>
    (.done, session.onBench (·.changeTransfer task fun rig => { rig with produces }))
  | .breakTransfer task broken =>
    (.done, session.onBench (·.changeTransfer task fun rig => { rig with broken }))
  | .breakGraph graph broken =>
    (.done, session.onBench (·.changeGraph graph fun rig => { rig with broken }))
  | .tick clock =>
    let time := session.time.next clock
    (.count time.count, { session with time })
  | .update change fresh =>
    let target := change.apply fresh ⟨session.loops, session.shared, [], session.world⟩
    (.pager target.shared,
      { session with
        loops := target.loops, shared := target.shared, world := target.world }.notePager fresh)
  | .create stage =>
    match surroundings.toDevice.semaphore stage session.world with
    | (.ok semaphore, world) => (.semaphore semaphore, { session with world })
    | (.error status, world) => (.failed (.device status), { session with world })
  | .recorded buffers => (.recorded buffers.length true, session)
  | .ownFence handle =>
    (.flag true, { session with own := { handle }, ownWorld := { state := {} } })
  | .onOwnFence step => session.onOwn step
  | .compile => session.compile
  | .bind command =>
    match command.setBinding? session.lights with
    | .error failure => (.bound (.error failure) session.bound, session)
    | .ok binding =>
      let bound := session.bound ++ [binding]
      (.bound (.ok ()) bound, { session with bound })

/-- Begin a new step: what was noted becomes past. -/
def settle (session : Session) : Session :=
  { session with past := session.events, world := session.world.quiet }

end Session

end RecorderScript

end FramesInFlight

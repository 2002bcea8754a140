import FramesInFlight.Bench.Basic
import FramesInFlight.Scene.Change

/-!
# Scripts for frame loops

A script drives any number of frame loops on one bench, step by step, and gets an answer for each
step.  Loops are named by position; transfers, graphs, windows and collections of recorded buffers
by name.
-/

namespace FramesInFlight

namespace FrameScript

/-- A transfer task to make. -/
structure TransferSpec where
  name : String
  produces : Option Semaphore := none
  uploads : Bool := false

/-- Steps of a script. -/
inductive Step where
  | fault (call : Bench.CallName) (fault : Option Bench.Fault)
  | newLoop (settings : FrameSettings) (early late : Option TransferSpec)
  | advance (loop : Nat)
  | start (loop : Nat)
  | submit (loop : Nat)
  | record (loop : Nat) (collection : String)
  | finish (loop : Nat) (collection : String)
  | query (loop k : Nat)
  | transfer (loop : Nat) (phase : Phase)
  | addGraph (loop : Nat) (name : String) (buffers : List CommandBuffer) (maxSlot : Nat)
      (lights : List (Light × ModelView)) (pack : Bool)
  | addWindow (loop : Nat) (name : String) (image : Option Semaphore)
  | addWait (loop : Nat) (semaphore : Semaphore)
  | addSignal (loop : Nat) (semaphore : Semaphore)
  | setPager (loop pager : Nat)
  | setBuffers (graph : String) (buffers : List CommandBuffer)
  | setProduces (task : String) (produces : Option Semaphore)
  | setWindow (window : String) (image : Option Semaphore)
  | newCollection (collection : String)
  | collect (collection : String) (buffers : List CommandBuffer)
  | tick (clock : Nat)
  | newLights (records viewports : Nat)
  | clearLights
  | newView (bins : List Bin)
  | newShared (pager : Option Nat)
  | update (change : SceneChange) (fresh : Nat) (range : Option (Nat × Nat))

/-- Answers to steps. -/
inductive Answer where
  | done
  | failed (failure : Failure)
  | made (loop slots : Nat)
  | outcome (outcome : FrameOutcome)
  | place (slot : Option Nat) (fence : Option Fence)
  | handle (handle : Option Nat)
  | count (n : Nat)
  | collected (buffers : List CommandBuffer)
  | time (time : FrameTime)
  | updated (shared : Option Nat) (pagers : List (Option Nat)) (maxSlots : List (List Nat))
      (views : List (List Bin))

/-- State of a script. -/
structure Session where
  provider : Provider
  queue : Nat
  world : World Bench := { state := {} }
  loops : List FrameLoop := []
  collections : List (String × List CommandBuffer) := []
  time : FrameTime := .first 0
  views : List View := []
  shared : Option Nat := none

namespace Session

/-- Everything around the loops. -/
def surroundings (session : Session) : Surroundings Bench := Bench.surroundings session.provider

/-- Change the bench. -/
def onBench (session : Session) (f : Bench → Bench) : Session :=
  { session with world := session.world.onBench f }

/-- Change a loop. -/
def onLoop (session : Session) (loop : Nat) (f : FrameLoop → FrameLoop) : Session :=
  { session with loops := session.loops.modify loop f }

/-- Buffers of a collection. -/
def collection (session : Session) (name : String) : List CommandBuffer :=
  (session.collections.lookup name).getD []

/-- Run a piece of the protocol on a loop.  Beside the answer and the session it gives the buffers
recorded, which follow those of `recorded`. -/
def run {α : Type} (session : Session) (loop : Nat) (recorded : List CommandBuffer)
    (piece : Frame Bench α) (answer : α → Answer) : Answer × Session × List CommandBuffer :=
  match session.loops[loop]? with
  | none => (.failed .noCurrentFrame, session, recorded)
  | some running =>
    let (result, stage) := piece ⟨running, session.world, recorded⟩
    let session :=
      { session with loops := session.loops.set loop stage.loop, world := stage.world }
    match result with
    | .ok a => (answer a, session, stage.recorded)
    | .error failure => (.failed failure, session, stage.recorded)

/-- Run a piece of the protocol that records into no collection. -/
def perform {α : Type} (session : Session) (loop : Nat) (piece : Frame Bench α)
    (answer : α → Answer) : Answer × Session :=
  let (answer, session, _) := session.run loop [] piece answer
  (answer, session)

/-- Record the graphs of a loop into a collection. -/
def recordInto (session : Session) (loop : Nat) (collection : String) : Answer × Session :=
  let (answer, session, recorded) := session.run loop (session.collection collection)
    (FrameLoop.record session.surroundings session.time) fun _ => .done
  (answer, { session with collections := Keyed.put collection recorded session.collections })

/-- The light state that is filled now. -/
def currentLights (session : Session) : Option Nat :=
  let states := session.world.state.views.length
  if states = 0 then none else some (states - 1)

/-- Put a transfer task on the bench and on a loop. -/
def attach (session : Session) (phase : Phase) (spec : Option TransferSpec) (loop : FrameLoop) :
    FrameLoop × Session :=
  match spec with
  | none => (loop, session)
  | some spec =>
    let rig : Bench.TransferRig :=
      { produces := spec.produces
        uploads := if spec.uploads then session.currentLights else none }
    let (task, bench) := session.world.state.addTransfer spec.name rig
    (loop.attach phase { toCollaborator := task }, session.onBench fun _ => bench)

/-- Make a loop with its transfer tasks. -/
def makeLoop (session : Session) (settings : FrameSettings) (early late : Option TransferSpec) :
    Answer × Session :=
  match FrameLoop.create session.surroundings.toDevice session.queue settings session.world with
  | (.error failure, world) => (.failed failure, { session with world })
  | (.ok loop, world) =>
    let (loop, session) := { session with world }.attach .early early loop
    let (loop, session) := session.attach .late late loop
    (.made session.loops.length loop.slots, { session with loops := session.loops ++ [loop] })

/-- Apply a scene change to the loops of a range, or to all. -/
def applyChange (session : Session) (change : SceneChange) (fresh : Nat)
    (range : Option (Nat × Nat)) : Answer × Session :=
  let (first, last) := range.getD (0, session.loops.length)
  let chosen := (session.loops.take last).drop first
  let target := change.apply fresh ⟨chosen, session.shared, session.views, session.world⟩
  let loops := session.loops.take first ++ target.loops ++ session.loops.drop (max first last)
  (.updated target.shared (loops.map (·.pager))
      (loops.map fun loop => loop.graphs.map (·.maxSlot)) (target.views.map (·.bins)),
    { session with
      loops, shared := target.shared, views := target.views, world := target.world })

/-- Take a step. -/
def step (session : Session) : Step → Answer × Session
  | .fault call fault => (.done, session.onBench (·.setReport call fault))
  | .newLoop settings early late => session.makeLoop settings early late
  | .advance loop =>
    session.perform loop (Frame.change Stage.advance) fun _ => .done
  | .start loop => session.perform loop (FrameLoop.start session.surroundings) fun _ => .done
  | .submit loop =>
    session.perform loop (FrameLoop.submit session.surroundings session.time) .outcome
  | .record loop collection => session.recordInto loop collection
  | .finish loop collection =>
    session.perform loop
      (FrameLoop.finish session.surroundings (session.collection collection)) .outcome
  | .query loop k =>
    let loop := session.loops[loop]?
    (.place (loop.bind (·.slot? k)) (loop.bind (·.fence? k)), session)
  | .transfer loop phase =>
    let piece : Frame Bench (Option Nat) := do
      FrameLoop.transfer session.surroundings phase
      let stage ← Frame.stage
      pure ((stage.loop.lane phase).completed.map (·.handle))
    session.perform loop piece .handle
  | .addGraph loop name buffers maxSlot lights pack =>
    let rig : Bench.GraphRig :=
      { buffers, lit := session.currentLights.map fun state => ⟨state, lights, pack⟩ }
    let (graph, bench) := session.world.state.addGraph name rig
    let session := (session.onLoop loop (·.addGraph { toCollaborator := graph, maxSlot })).onBench
      fun _ => bench
    (.count ((session.loops[loop]?.map (·.graphs.length)).getD 0), session)
  | .addWindow loop name image =>
    (.done, (session.onLoop loop (·.addWindow name)).onBench fun bench =>
      if (bench.windows.lookup name).isSome then bench
      else { bench with windows := Keyed.put name image bench.windows })
  | .addWait loop semaphore => (.done, session.onLoop loop (·.addWait semaphore))
  | .addSignal loop semaphore => (.done, session.onLoop loop (·.addSignal semaphore))
  | .setPager loop pager =>
    let session := session.onLoop loop (·.setPager pager)
    (.handle (session.loops[loop]?.bind (·.pager)), session)
  | .setBuffers graph buffers =>
    (.done, session.onBench (·.changeGraph graph fun rig => { rig with buffers }))
  | .setProduces task produces =>
    (.done, session.onBench (·.changeTransfer task fun rig => { rig with produces }))
  | .setWindow window image =>
    (.done, session.onBench fun bench =>
      { bench with windows := Keyed.put window image bench.windows })
  | .newCollection collection =>
    (.done, { session with collections := Keyed.put collection [] session.collections })
  | .collect collection buffers =>
    let all := session.collection collection ++ buffers
    (.collected all, { session with collections := Keyed.put collection all session.collections })
  | .tick clock =>
    let time := session.time.next clock
    (.time time, { session with time })
  | .newLights records viewports =>
    let world := session.world.report (ViewLights.creationNotices records viewports)
    (.done, { session with world }.onBench fun bench =>
      { bench with views := bench.views ++ [ViewLights.ofCapacities records viewports] })
  | .clearLights =>
    (.done, match session.currentLights with
      | none => session
      | some state => session.onBench fun bench =>
        { bench with views := bench.views.modify state ViewLights.clear })
  | .newView bins => (.done, { session with views := session.views ++ [⟨bins⟩] })
  | .newShared pager => (.handle pager, { session with shared := pager })
  | .update change fresh range => session.applyChange change fresh range

/-- The loop whose state is shown after a step. -/
def shown (session : Session) : Step → Option FrameLoop
  | .advance loop | .start loop | .submit loop | .record loop _ | .finish loop _ =>
    session.loops[loop]?
  | _ => none

end Session

end FrameScript

end FramesInFlight

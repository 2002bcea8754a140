import FramesInFlight.Bench.Basic
import FramesInFlight.Light.Descriptors

/-!
# Scripts for light states

A script drives one light state and one descriptor pool on a bench.  A new state or pool takes the
place of the old one, which goes first.
-/

namespace FramesInFlight

namespace LightScript

/-- Steps of a script. -/
inductive Step where
  | fault (call : Bench.CallName) (fault : Option Bench.Fault)
  | new (records viewports : Nat)
  | drop
  | add (light : Light) (matrix : ModelView)
  | pack
  | clear
  | viewports (list : List Record)
  | takeDirty
  | log
  | data
  | bytes
  | describe
  | pool (shape : PoolShape)
  | compile (lightBuffer viewportBuffer : Nat)
  | bind (command : BindLights) (encoder : Option Nat)

/-- Answers to steps. -/
inductive Answer where
  | done
  | failed (failure : Failure)
  | absent
  | records (records : List Record)
  | flag (b : Bool)
  | data (light viewport : List Record)
  | bytes (light viewport : List UInt8) (lightRange viewportRange : Nat)
  | text (text : String)
  | handle (handle : Nat)

/-- State of a script. -/
structure Session where
  world : World Bench := { state := {} }
  lights : Option ViewLights := none
  pool : Option Nat := none

namespace Session

/-- The device of the bench. -/
def device : Device Bench := Bench.device .device

/-- The light state goes. -/
def dropLights (session : Session) : Session :=
  match session.lights with
  | none => session
  | some lights => { session with lights := none, world := lights.dispose session.world }

/-- Replace the pool. -/
def newPool (session : Session) (shape : PoolShape) : Answer × Session :=
  let world := match session.pool with
    | none => session.world
    | some pool => session.world.emit (.poolDestroyed pool)
  match device.pool shape world with
  | (.ok pool, world) => (.handle pool, { session with world, pool := some pool })
  | (.error status, world) => (.failed (.device status), { session with world, pool := none })

/-- Bind sets through a command encoder, which cannot fail, or through the bench's binder. -/
def bindSets (encoder : Option Nat) (binding : SetBinding) (world : World Bench) :
    Except Failure Unit × World Bench :=
  world.ask
    (match encoder with
      | some _ => fun bench => (.ok (), bench)
      | none => Bench.attempt .device .bind fun bench => ((), bench))
    (.setsBound encoder binding)

/-- The viewport whose corner and size a script gives. -/
def viewportOf (r : Record) : Viewport := ⟨r.x, r.y, r.z, r.w⟩

/-- Change the light state and report something about the state before. -/
def onLights (session : Session) (lights : ViewLights) (notices : List Notice) : Session :=
  { session with lights := some lights, world := session.world.report notices }

/-- Take a step that works on the light state `lights`. -/
def stepOn (session : Session) (lights : ViewLights) : Step → Answer × Session
  | .add light matrix => (.done, session.onLights (lights.add light matrix) [])
  | .pack =>
    (.records lights.pack.lightData, session.onLights lights.pack lights.packNotices)
  | .clear => (.done, session.onLights lights.clear [])
  | .viewports list =>
    let viewports := list.map viewportOf
    let stored := lights.setViewports viewports
    (.records stored.viewportData, session.onLights stored (lights.viewportNotices viewports))
  | .takeDirty => (.flag lights.dirty, session.onLights lights.takeDirty [])
  | .log => (.done, session.onLights lights lights.geometryNotices)
  | .data => (.data lights.lightData lights.viewportData, session)
  | .bytes =>
    (.bytes lights.lightBytes lights.viewportBytes lights.lightRange lights.viewportRange, session)
  | .describe => (.text lights.description, session)
  | .compile lightBuffer viewportBuffer =>
    match lights.compile device (session.pool.getD 0) lightBuffer viewportBuffer session.world with
    | (.ok (), lights, world) => (.done, { session with lights := some lights, world })
    | (.error failure, lights, world) =>
      (.failed failure, { session with lights := some lights, world })
  | .bind command encoder =>
    match command.record lights (bindSets encoder) session.world with
    | (.ok (), world) => (.done, { session with world })
    | (.error failure, world) => (.failed failure, { session with world })
  | _ => (.done, session)

/-- Take a step. -/
def step (session : Session) : Step → Answer × Session
  | .fault call fault =>
    (.done, { session with world := session.world.onBench (·.setReport call fault) })
  | .new records viewports =>
    (.done, session.dropLights.onLights (.ofCapacities records viewports)
      (ViewLights.creationNotices records viewports))
  | .drop => (.done, session.dropLights)
  | .pool shape => session.newPool shape
  | other =>
    match session.lights with
    | none => (.absent, session)
    | some lights => session.stepOn lights other

end Session

end LightScript

end FramesInFlight

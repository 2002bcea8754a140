import FramesInFlight.Bench.Basic

/-!
# Scripts for single objects

A script makes fences, semaphores, layouts and pools on a bench and keeps them by name.  A name that
is used again gets the new object, and the old one goes after that.

A semaphore may have several holders: the script under its name, and fences.  A semaphore of the
device is destroyed when its last holder lets go.
-/

namespace FramesInFlight

namespace ObjectScript

/-- Kinds of objects kept by name. -/
inductive ObjectKind where
  | fence
  | semaphore
  | layout
  | pool
  deriving DecidableEq, Repr

/-- Steps of a script. -/
inductive Step where
  | fault (call : Bench.CallName) (fault : Option Bench.Fault)
  | newFence (id : String) (provider : Provider) (signaled : Bool)
  | newSemaphore (id : String) (stage : StageMask)
  | holdBuffers (id : String) (buffers : List CommandBuffer)
  | holdNamed (id semaphore : String)
  | hold (id : String) (semaphore : Semaphore)
  | wait (id : String) (timeout : Nat)
  | reset (id : String)
  | show (id : String)
  | layout (id : String) (bindings : List LayoutBinding) (build : Bool)
  | newPool (id : String) (shape : PoolShape)
  | allocate (id : String) (layouts : List String)
  | write (set : Nat) (writes : List BufferWrite) (update : Bool)
  | bind (buffer : Nat) (binding : SetBinding)
  | commandBuffer (buffer : CommandBuffer)
  | submit (queue : Nat) (batch : Batch) (fence : String)
  | drop (kind : ObjectKind) (id : String)

/-- Answers to steps. -/
inductive Answer where
  | done
  | failed (failure : Failure)
  | absent
  | fence (fence : Fence)
  | semaphore (semaphore : Semaphore)
  | held (fence : Fence)
  | layout (bindings : List LayoutBinding) (handle : Option Nat)
  | handle (handle : Nat)
  | sets (sets : List Nat)
  | pending (writes : List BufferWrite)
  | encoder (buffer : Nat)
  | commandBuffer (buffer : CommandBuffer)
  | submitted (queue : Nat) (batch : Batch)
  | existed (existed : Bool)

/-- State of a script. -/
structure Session where
  world : World Bench := { state := {} }
  fences : List (String × Fence) := []
  semaphores : List (String × Semaphore) := []
  layouts : List (String × Nat) := []
  pools : List (String × Nat) := []

namespace Session

/-- The device of the bench. -/
def device : Device Bench := Bench.device .device

/-! ## Holders -/

/-- Whether a semaphore is kept under a name or held by a fence. -/
def holds (session : Session) (semaphore : Semaphore) : Bool :=
  session.semaphores.any (·.2 == semaphore) ||
    session.fences.any fun entry => entry.2.semaphores.contains semaphore

/-- Holders let go of semaphores, one after the other; each is destroyed with its last holder. -/
def letGo (session : Session) : List Semaphore → Session
  | [] => session
  | semaphore :: rest =>
    if rest.contains semaphore || session.holds semaphore then session.letGo rest
    else { session with world := session.world.dropSemaphore semaphore }.letGo rest

/-- A fence goes, and lets go of what it held. -/
def dropFence (session : Session) (fence : Fence) : Session :=
  { session with world := session.world.dropFence fence }.letGo fence.semaphores

/-- Note that objects without holders go. -/
def dropHandle (session : Session) (handle : Option Nat) (event : Nat → Event) : Session :=
  match handle with
  | none => session
  | some handle => { session with world := session.world.emit (event handle) }

/-! ## Objects by name -/

/-- Keep a fence under a name. -/
def keepFence (session : Session) (id : String) (fence : Fence) : Session :=
  let kept := { session with fences := Keyed.put id fence session.fences }
  match session.fences.lookup id with
  | none => kept
  | some old => kept.dropFence old

/-- Keep a semaphore under a name. -/
def keepSemaphore (session : Session) (id : String) (semaphore : Semaphore) : Session :=
  let kept := { session with semaphores := Keyed.put id semaphore session.semaphores }
  kept.letGo (session.semaphores.lookup id).toList

/-- Keep a layout under a name. -/
def keepLayout (session : Session) (id : String) (layout : Nat) : Session :=
  { session with layouts := Keyed.put id layout session.layouts }.dropHandle
    (session.layouts.lookup id) .layoutDestroyed

/-- Keep a pool under a name. -/
def keepPool (session : Session) (id : String) (pool : Nat) : Session :=
  { session with pools := Keyed.put id pool session.pools }.dropHandle
    (session.pools.lookup id) .poolDestroyed

/-- Drop what is kept under a name. -/
def dropNamed (session : Session) (kind : ObjectKind) (id : String) : Answer × Session :=
  match kind with
  | .fence =>
    match session.fences.lookup id with
    | none => (.existed false, session)
    | some fence =>
      (.existed true, { session with fences := Keyed.remove id session.fences }.dropFence fence)
  | .semaphore =>
    match session.semaphores.lookup id with
    | none => (.existed false, session)
    | some semaphore =>
      (.existed true,
        { session with semaphores := Keyed.remove id session.semaphores }.letGo [semaphore])
  | .layout =>
    let layout := session.layouts.lookup id
    (.existed layout.isSome,
      { session with layouts := Keyed.remove id session.layouts }.dropHandle layout .layoutDestroyed)
  | .pool =>
    let pool := session.pools.lookup id
    (.existed pool.isSome,
      { session with pools := Keyed.remove id session.pools }.dropHandle pool .poolDestroyed)

/-- Go on with the answer of a call, in the world it left. -/
def after {α : Type} (session : Session) (call : Except Failure α × World Bench)
    (next : α → Session → Answer × Session) : Answer × Session :=
  let session := { session with world := call.2 }
  match call.1 with
  | .ok a => next a session
  | .error failure => (.failed failure, session)

/-- Go on with the answer of the device itself, for which a status is a failure. -/
def afterDriver {α : Type} (session : Session) (call : Except Status α × World Bench) :
    (α → Session → Answer × Session) → Answer × Session :=
  session.after (call.1.mapError .device, call.2)

/-- Work on the fence under a name. -/
def withFence (session : Session) (id : String) (f : Fence → Answer × Session) :
    Answer × Session :=
  match session.fences.lookup id with
  | none => (.absent, session)
  | some fence => f fence

/-- Change the fence under a name. -/
def setFence (session : Session) (id : String) (fence : Fence) : Answer × Session :=
  (.done, { session with fences := Keyed.put id fence session.fences })

/-- Take a step. -/
def step (session : Session) : Step → Answer × Session
  | .fault call fault =>
    (.done, { session with world := session.world.onBench (·.setReport call fault) })
  | .newFence id provider signaled =>
    session.afterDriver ((Bench.device provider).fence signaled session.world) fun fence session =>
      (.fence fence, session.keepFence id fence)
  | .newSemaphore id stage =>
    session.afterDriver (device.semaphore stage session.world) fun semaphore session =>
      (.semaphore semaphore, session.keepSemaphore id semaphore)
  | .holdBuffers id buffers =>
    session.withFence id fun fence =>
      session.setFence id { fence with buffers := fence.buffers ++ buffers }
  | .holdNamed id name =>
    session.withFence id fun fence =>
      let named := (session.semaphores.lookup name).toList
      session.setFence id { fence with semaphores := fence.semaphores ++ named }
  | .hold id semaphore =>
    session.withFence id fun fence =>
      session.setFence id { fence with semaphores := fence.semaphores ++ [semaphore] }
  | .wait id timeout =>
    session.withFence id fun fence =>
      session.after (device.wait fence timeout session.world) fun _ session => (.done, session)
  | .reset id =>
    session.withFence id fun fence =>
      session.after (device.reset fence session.world) fun _ session =>
        (.done, (session.setFence id fence.release).2.letGo fence.semaphores)
  | .show id => session.withFence id fun fence => (.held fence, session)
  | .layout id bindings build =>
    if build then
      session.afterDriver (device.layout bindings session.world) fun layout session =>
        (.layout bindings (some layout), session.keepLayout id layout)
    else (.layout bindings none, session)
  | .newPool id shape =>
    session.afterDriver (device.pool shape session.world) fun pool session =>
      (.handle pool, session.keepPool id pool)
  | .allocate id names =>
    let layouts := names.filterMap fun name => session.layouts.lookup name
    session.afterDriver (device.sets ((session.pools.lookup id).getD 0) layouts session.world)
      fun sets session => (.sets sets, session)
  | .write set writes update =>
    let world := if update then session.world.emit (.setWritten set writes) else session.world
    (.pending writes, { session with world })
  | .bind buffer binding =>
    (.encoder buffer,
      { session with world := session.world.emit (.setsBound (some buffer) binding (.ok ())) })
  | .commandBuffer buffer => (.commandBuffer buffer, session)
  | .submit queue batch id =>
    session.withFence id fun fence =>
      session.after (device.enqueue queue batch fence.handle session.world) fun _ session =>
        (.submitted queue batch, session)
  | .drop kind id => session.dropNamed kind id

end Session

end ObjectScript

end FramesInFlight

import FramesInFlight.Frame.Protocol
import FramesInFlight.Keyed
import FramesInFlight.Light.ViewLights

/-!
# The bench

A bench stands in for everything around the library.  Its device hands out handles in order, its
transfers, graphs and windows do what their rigs say, and any call can be made to fail: at once or
after it has gone through some more times, and until told otherwise.

Transfers and graphs are numbered in the order they were made.  A name that was given again stands
for the latest of its kind when a rig is to be changed, and for all of them when a call is to fail.

Light states live on the bench too, since graphs fill them while recording and transfers upload from
them.
-/

namespace FramesInFlight

namespace Bench

/-- Calls that can be made to fail. -/
inductive CallName where
  | createFence
  | createSemaphore
  | createLayout
  | createPool
  | allocateSets
  | submit
  | bind
  | wait (fence : Nat)
  | reset (fence : Nat)
  | transfer (name : String)
  | record (name : String)
  /-- A name that no call has. -/
  | unused (name : String)
  deriving DecidableEq, Repr

/-- The status a call fails with, once it has gone through `skip` more times. -/
structure Fault where
  status : Status
  skip : Nat := 0
  deriving DecidableEq, Repr

/-- What a transfer publishes, the light state it uploads from, and the status it fails with, if it
is broken. -/
structure TransferRig where
  produces : Option Semaphore := none
  uploads : Option Nat := none
  broken : Option Status := none

/-- Lights that a graph reports to a light state while recording. -/
structure LitScene where
  state : Nat
  lights : List (Light × ModelView)
  pack : Bool

/-- What a graph records, and the status it fails with, if it is broken. -/
structure GraphRig where
  buffers : List CommandBuffer := []
  lit : Option LitScene := none
  broken : Option Status := none

end Bench

/-- State of a bench. -/
structure Bench where
  faults : List (Bench.CallName × Bench.Fault) := []
  nextFence : Nat := 1
  nextSemaphore : Nat := 1000
  nextLayout : Nat := 2000
  nextPool : Nat := 3000
  nextSet : Nat := 4000
  transfers : List (Collaborator × Bench.TransferRig) := []
  graphs : List (Collaborator × Bench.GraphRig) := []
  windows : List (String × Option Semaphore) := []
  views : List ViewLights := []

namespace Bench

/-! ## Faults -/

/-- Make a call fail, or let it go through again. -/
def setFault (bench : Bench) (call : CallName) (fault : Option Fault) : Bench :=
  match fault with
  | none => { bench with faults := Keyed.remove call bench.faults }
  | some fault => { bench with faults := Keyed.put call fault bench.faults }

/-- Make a call report a status.  A call that reports success goes through. -/
def setReport (bench : Bench) (call : CallName) (report : Option Fault) : Bench :=
  bench.setFault call (report.filter fun fault => fault.status != .success)

/-- Whether a call fails this time, and with what. -/
def consult (bench : Bench) (call : CallName) : Option Status × Bench :=
  match bench.faults.lookup call with
  | none => (none, bench)
  | some ⟨status, 0⟩ => (some status, bench)
  | some ⟨status, skip + 1⟩ =>
    (none, { bench with faults := Keyed.put call ⟨status, skip⟩ bench.faults })

/-- Try something unless the call fails; `failure` is what it fails with for a status. -/
def attemptTo {ε α : Type} (failure : Status → ε) (call : CallName)
    (act : Bench → Except ε α × Bench) (bench : Bench) : Except ε α × Bench :=
  match bench.consult call with
  | (some status, bench) => (.error (failure status), bench)
  | (none, bench) => act bench

/-- Do something unless the call fails. -/
def attempt {ε α : Type} (failure : Status → ε) (call : CallName) (act : Bench → α × Bench) :
    Bench → Except ε α × Bench :=
  attemptTo failure call fun bench =>
    let (a, bench) := act bench
    (.ok a, bench)

/-! ## Transfers and graphs -/

/-- Change the rig of the latest collaborator of a name. -/
def changeLatest {α : Type} (name : String) (f : α → α) (rigs : List (Collaborator × α)) :
    List (Collaborator × α) :=
  match (rigs.filter fun entry => entry.1.name == name).getLast? with
  | none => rigs
  | some (collaborator, rig) => Keyed.put collaborator (f rig) rigs

/-- Make a transfer. -/
def addTransfer (bench : Bench) (name : String) (rig : TransferRig) : Collaborator × Bench :=
  let task : Collaborator := ⟨bench.transfers.length, name⟩
  (task, { bench with transfers := bench.transfers ++ [(task, rig)] })

/-- Make a graph. -/
def addGraph (bench : Bench) (name : String) (rig : GraphRig) : Collaborator × Bench :=
  let graph : Collaborator := ⟨bench.graphs.length, name⟩
  (graph, { bench with graphs := bench.graphs ++ [(graph, rig)] })

/-- Change the rig of the latest transfer of a name. -/
def changeTransfer (bench : Bench) (name : String) (f : TransferRig → TransferRig) : Bench :=
  { bench with transfers := changeLatest name f bench.transfers }

/-- Change the rig of the latest graph of a name. -/
def changeGraph (bench : Bench) (name : String) (f : GraphRig → GraphRig) : Bench :=
  { bench with graphs := changeLatest name f bench.graphs }

/-- Take the packed records of a light state, if its data changed. -/
def upload (state : Option Nat) (bench : Bench) : Option (List Record) × Bench :=
  match state.bind fun i => bench.views[i]?.map fun view => (i, view) with
  | none => (none, bench)
  | some (i, view) =>
    if view.dirty then
      (some view.packed, { bench with views := bench.views.set i view.takeDirty })
    else (none, bench)

/-- What a transfer does. -/
def runTransfer (task : Collaborator) (bench : Bench) : Except Failure TransferReport × Bench :=
  let rig := (bench.transfers.lookup task).getD {}
  match rig.broken with
  | some status => (.error (.device status), bench)
  | none =>
    let (uploaded, bench) := bench.upload rig.uploads
    (.ok ⟨rig.produces, uploaded⟩, bench)

/-- Report lights to their state, and pack it if the scene says so. -/
def illuminate (lit : LitScene) (bench : Bench) : List Notice × Bench :=
  match bench.views[lit.state]? with
  | none => ([], bench)
  | some view =>
    let filled := lit.lights.foldl (fun view (light, matrix) => view.add light matrix) view
    let (notices, filled) := if lit.pack then (filled.packNotices, filled.pack) else ([], filled)
    (notices, { bench with views := bench.views.set lit.state filled })

/-- What a graph does. -/
def runGraph (graph : Collaborator) (bench : Bench) : Except Failure Recording × Bench :=
  let rig := (bench.graphs.lookup graph).getD {}
  match rig.broken with
  | some status => (.error (.device status), bench)
  | none =>
    let (notices, bench) := match rig.lit with
      | none => ([], bench)
      | some lit => bench.illuminate lit
    (.ok ⟨rig.buffers, notices⟩, bench)

/-! ## The bench as surroundings -/

/-- The device of a bench; `provider` says in whose name it answers. -/
def device (provider : Provider) : Device Bench where
  provider := provider
  createFence := attempt id .createFence fun bench =>
    (bench.nextFence, { bench with nextFence := bench.nextFence + 1 })
  createSemaphore := attempt id .createSemaphore fun bench =>
    (bench.nextSemaphore, { bench with nextSemaphore := bench.nextSemaphore + 1 })
  waitFence fence _ := attempt .device (.wait fence) fun bench => ((), bench)
  resetFence fence := attempt .device (.reset fence) fun bench => ((), bench)
  submit _ _ := attempt .device .submit fun bench => ((), bench)
  createLayout := attempt id .createLayout fun bench =>
    (bench.nextLayout, { bench with nextLayout := bench.nextLayout + 1 })
  createPool := attempt id .createPool fun bench =>
    (bench.nextPool, { bench with nextPool := bench.nextPool + 1 })
  allocateSets _ layouts := attempt id .allocateSets fun bench =>
    (List.range' bench.nextSet layouts.length,
      { bench with nextSet := bench.nextSet + layouts.length })

/-- A bench as everything around a frame loop. -/
def surroundings (provider : Provider) : Surroundings Bench where
  toDevice := device provider
  transfer task := attemptTo .device (.transfer task.name) (runTransfer task)
  record graph _ _ := attemptTo .device (.record graph.name) (runGraph graph)
  image window bench := (bench.windows.lookup window).join
  pause _ bench := bench

end Bench

namespace World

/-- Change the bench of a world. -/
def onBench (world : World Bench) (f : Bench → Bench) : World Bench :=
  { world with state := f world.state }

/-- The world with nothing noted. -/
def quiet {σ : Type} (world : World σ) : World σ := { world with events := [], notices := [] }

end World

end FramesInFlight

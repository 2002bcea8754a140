import FramesInFlight.Frame.Loop
import FramesInFlight.Scene.View

/-!
# Scene changes

When new content was compiled, the loops that record it may need more state slots, more dynamic data
to keep up to date, the shared pager, and the views more bins.  `SceneChange.apply` does all of that
in one pass.  Nothing in it can fail.
-/

namespace FramesInFlight

/-- Summary of newly compiled content. -/
structure SceneChange where
  /-- Highest state slot in use. -/
  maxSlot : Nat := 0
  /-- Whether some of the content is paged. -/
  paged : Bool := false
  /-- Data to copy before recording. -/
  early : Option DynamicData := none
  /-- Data to copy after recording. -/
  late : Option DynamicData := none
  /-- Bin numbers needed, by position of the view. -/
  bins : List (Nat × List Int) := []

namespace SceneChange

/-- The data for a phase. -/
def data (change : SceneChange) : Phase → Option DynamicData
  | .early => change.early
  | .late => change.late

/-- Assign the data of a phase to the loop's task of that phase. -/
def assignPhase (change : SceneChange) (phase : Phase) (loop : FrameLoop) : FrameLoop :=
  match change.data phase with
  | none => loop
  | some data => loop.mapTask phase fun task => { task with assigned := task.assigned ++ [data] }

/-- Assign the data of both phases. -/
def assign (change : SceneChange) (loop : FrameLoop) : FrameLoop :=
  change.assignPhase .late (change.assignPhase .early loop)

/-- What assigning asks of the loop's task of a phase. -/
def assignPhaseEvents (change : SceneChange) (phase : Phase) (loop : FrameLoop) : List Event :=
  match change.data phase, (loop.lane phase).task with
  | some data, some task => [.dataAssigned task.toCollaborator data]
  | _, _ => []

/-- What assigning asks of the loop's tasks. -/
def assignEvents (change : SceneChange) (loop : FrameLoop) : List Event :=
  change.assignPhaseEvents .early loop ++ change.assignPhaseEvents .late loop

/-- Raise a graph's slot count to the change's, never lowering it. -/
def raiseGraph (change : SceneChange) (graph : Graph) : Graph :=
  if graph.maxSlot < change.maxSlot then { graph with maxSlot := change.maxSlot } else graph

/-- Raise the slot counts of all graphs of a loop. -/
def raise (change : SceneChange) (loop : FrameLoop) : FrameLoop :=
  { loop with graphs := loop.graphs.map change.raiseGraph }

/-- What raising asks of the loop's graphs. -/
def raiseEvents (change : SceneChange) (loop : FrameLoop) : List Event :=
  (loop.graphs.filter fun graph => graph.maxSlot < change.maxSlot).map fun graph =>
    .slotsRaised graph.toCollaborator change.maxSlot

/-- The pager that exists already: the shared one, else the first that a loop has. -/
def existingPager (shared : Option Nat) (loops : List FrameLoop) : Option Nat :=
  shared.or (loops.findSome? (·.pager))

/-- Give a loop the pager, unless it has one. -/
def givePager (pager : Nat) (loop : FrameLoop) : FrameLoop :=
  if loop.pager.isNone then loop.setPager pager else loop

/-- Everything a scene change acts on. -/
structure Target (σ : Type) where
  loops : List FrameLoop
  /-- The pager that loops share, once there is one. -/
  shared : Option Nat
  views : List View
  world : World σ

variable {σ : Type}

/-- Make sure that every loop has a pager.  `fresh` is the one to create and start when there is
none yet. -/
def applyPager (fresh : Nat) (target : Target σ) : Target σ :=
  match existingPager target.shared target.loops with
  | some pager =>
    { target with shared := some pager, loops := target.loops.map (givePager pager) }
  | none =>
    let world := ((target.world.notice .pagerStarting).emit (.pagerCreated fresh)).emit
      (.pagerStarted fresh)
    { target with
      shared := some fresh, loops := target.loops.map (givePager fresh), world := world }

/-- Add the missing bins of one view. -/
def applyBins (target : Target σ) (entry : Nat × List Int) : Target σ :=
  let numbers := ascendingSet entry.2
  match target.views[entry.1]? with
  | none => target
  | some view =>
    { target with
      views := target.views.set entry.1 (view.requireAll numbers)
      world := target.world.report ((view.missing numbers).map .addingBin) }

/-- Apply a change: assign data, raise slot counts, provide the pager if content is paged, add
bins. -/
def apply (change : SceneChange) (fresh : Nat) (target : Target σ) : Target σ :=
  let assigned := target.loops.map change.assign
  let events := target.loops.flatMap change.assignEvents ++ assigned.flatMap change.raiseEvents
  let raised : Target σ :=
    { target with
      loops := assigned.map change.raise
      world := events.foldl World.emit target.world }
  let supplied := if change.paged then applyPager fresh raised else raised
  change.bins.foldl applyBins supplied

end SceneChange

end FramesInFlight

import Mathlib.Data.List.Induction
import FramesInFlight.Light.Descriptors

/-!
# Runs of a light state

What an application can do with the lights of a view is a `LightOperation`.  A run performs
operations one after the other, in surroundings that may answer every call as they like, and leaves
a history with a `LightTurn` for each operation: the operation and the lights that it found.

* `LightStage.run_induction` is the one induction over runs.
* `LightOperation.perform_sameData` says that all operations but two leave the data of a light state
  alone: a pack, and storing viewports.
-/

namespace FramesInFlight

variable {σ : Type}

/-! ## Operations -/

/-- Everything around a light state: the device and the binder of descriptor sets. -/
structure LightSurroundings (σ : Type) extends Device σ where
  bind (encoder : Option Nat) (binding : SetBinding) : σ → Except Failure Unit × σ

/-- A light state at work in its world. -/
structure LightStage (σ : Type) where
  lights : ViewLights
  world : World σ

/-- What an application does with a light state. -/
inductive LightOperation where
  | add (light : Light) (matrix : ModelView)
  | addAmbient (light : AmbientLight)
  | addDirectional (matrix : ModelView) (light : DirectionalLight)
  | addPoint (matrix : ModelView) (light : PointLight)
  | addSpot (matrix : ModelView) (light : SpotLight)
  | clear
  | pack
  | setViewports (viewports : List Viewport)
  | takeDirty
  | compile (pool lightBuffer viewportBuffer : Nat)
  | bind (command : BindLights) (encoder : Option Nat)
  /-- Report the lights collected. -/
  | log

/-- Perform an operation.  What it answers does not matter to the ones after it. -/
def LightOperation.perform (env : LightSurroundings σ) (stage : LightStage σ) :
    LightOperation → LightStage σ
  | add light matrix => { stage with lights := stage.lights.add light matrix }
  | addAmbient light => { stage with lights := stage.lights.addAmbient light }
  | addDirectional matrix light => { stage with lights := stage.lights.addDirectional matrix light }
  | addPoint matrix light => { stage with lights := stage.lights.addPoint matrix light }
  | addSpot matrix light => { stage with lights := stage.lights.addSpot matrix light }
  | clear => { stage with lights := stage.lights.clear }
  | pack =>
    { lights := stage.lights.pack, world := stage.world.report stage.lights.packNotices }
  | setViewports viewports =>
    { lights := stage.lights.setViewports viewports
      world := stage.world.report (stage.lights.viewportNotices viewports) }
  | takeDirty => { stage with lights := stage.lights.takeDirty }
  | compile pool lightBuffer viewportBuffer =>
    let (_, lights, world) :=
      stage.lights.compile env.toDevice pool lightBuffer viewportBuffer stage.world
    { lights, world }
  | bind command encoder =>
    match command.setBinding? stage.lights with
    | .error _ => stage
    | .ok binding =>
      { stage with
        world := (stage.world.ask (env.bind encoder binding) (.setsBound encoder binding)).2 }
  | log => { stage with world := stage.world.report stage.lights.geometryNotices }

/-! ## Histories -/

/-- One operation of a run and the lights that it found. -/
structure LightTurn where
  operation : LightOperation
  lights : ViewLights

namespace LightStage

/-- The stage after some operations. -/
def run (env : LightSurroundings σ) (stage : LightStage σ) (operations : List LightOperation) :
    LightStage σ :=
  operations.foldl (LightOperation.perform env) stage

/-- The turns that some operations take. -/
def history (env : LightSurroundings σ) (stage : LightStage σ) :
    List LightOperation → List LightTurn
  | [] => []
  | operation :: later =>
    ⟨operation, stage.lights⟩ :: history env (operation.perform env stage) later

theorem run_concat (env : LightSurroundings σ) (stage : LightStage σ)
    (operations : List LightOperation) (last : LightOperation) :
    stage.run env (operations ++ [last]) = last.perform env (stage.run env operations) := by
  rw [run, List.foldl_append]
  rfl

theorem history_concat (env : LightSurroundings σ) (stage : LightStage σ)
    (operations : List LightOperation) (last : LightOperation) :
    stage.history env (operations ++ [last]) =
      stage.history env operations ++ [⟨last, (stage.run env operations).lights⟩] := by
  induction operations generalizing stage with
  | nil => rfl
  | cons operation later ih =>
    rw [List.cons_append, history, ih, history]
    rfl

/-- What holds at first and is kept by each operation holds after every run. -/
theorem run_induction {env : LightSurroundings σ} {first : LightStage σ}
    {motive : List LightTurn → LightStage σ → Prop} (nil : motive [] first)
    (step : ∀ turns stage operation, motive turns stage →
      motive (turns ++ [⟨operation, stage.lights⟩]) (operation.perform env stage))
    (operations : List LightOperation) :
    motive (first.history env operations) (first.run env operations) := by
  induction operations using List.reverseRecOn with
  | nil => exact nil
  | append_singleton operations last ih =>
    rw [run_concat, history_concat]
    exact step _ _ last ih

end LightStage

/-! ## What changes the data -/

/-- The data of a light state and what it reports of its last pack are those of another. -/
structure ViewLights.SameData (v w : ViewLights) : Prop where
  lightData : v.lightData = w.lightData
  viewportData : v.viewportData = w.viewportData
  packedRecords : v.packedRecords = w.packedRecords
  packedCounts : v.packedCounts = w.packedCounts

theorem ViewLights.compile_sameData (v : ViewLights) (device : Device σ)
    (pool lightBuffer viewportBuffer : Nat) (world : World σ) :
    (v.compile device pool lightBuffer viewportBuffer world).2.1.SameData v := by
  rw [compile]
  split
  · exact ⟨rfl, rfl, rfl, rfl⟩
  split
  · exact ⟨rfl, rfl, rfl, rfl⟩
  split <;> exact ⟨rfl, rfl, rfl, rfl⟩

namespace LightOperation

/-- Operations that collect lights, take the data, or ask something of the surroundings. -/
def keepsData : LightOperation → Bool
  | pack | setViewports _ => false
  | _ => true

/-- They leave the data of a light state alone. -/
theorem perform_sameData (env : LightSurroundings σ) (stage : LightStage σ)
    {operation : LightOperation} (hkeeps : operation.keepsData = true) :
    (operation.perform env stage).lights.SameData stage.lights := by
  cases operation with
  | pack | setViewports _ => cases hkeeps
  | add light _ => cases light <;> exact ⟨rfl, rfl, rfl, rfl⟩
  | compile pool lightBuffer viewportBuffer =>
    exact stage.lights.compile_sameData env.toDevice pool lightBuffer viewportBuffer stage.world
  | bind command encoder =>
    rw [perform]
    split <;> exact ⟨rfl, rfl, rfl, rfl⟩
  | addAmbient | addDirectional | addPoint | addSpot | clear | takeDirty | log =>
    exact ⟨rfl, rfl, rfl, rfl⟩

end LightOperation

end FramesInFlight

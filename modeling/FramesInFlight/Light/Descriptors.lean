import FramesInFlight.Device.World
import FramesInFlight.Light.ViewLights

/-!
# The descriptor set of a view's lights

Compiling the light state creates a layout, allocates one set from it and points the set at the
light and viewport buffers, once.  A compiled state can be bound; the layout lives as long as the
state.
-/

namespace FramesInFlight

namespace ViewLights

/-- Binding of the light buffer. -/
def lightBinding : Nat := 0

/-- Binding of the viewport buffer. -/
def viewportBinding : Nat := 1

/-- State slot that binding the set occupies while recording. -/
def bindSlot : Nat := 2

/-- Stages that read the buffers: vertex and fragment. -/
def shaderStages : Nat := 0x1 + 0x10

/-- Bindings of the set's layout. -/
def layoutBindings : List LayoutBinding :=
  [{ binding := lightBinding, stages := shaderStages },
    { binding := viewportBinding, stages := shaderStages }]

variable {σ : Type}

/-- Make the descriptor set.  A compiled state stays as it is.  When no set can be had, the layout
made for it is destroyed and the state stays uncompiled. -/
def compile (v : ViewLights) (device : Device σ) (pool lightBuffer viewportBuffer : Nat)
    (world : World σ) : Except Failure Unit × ViewLights × World σ :=
  if v.compiled.isSome then (.ok (), v, world)
  else
    match device.layout layoutBindings (world.notice .compilingLights) with
    | (.error status, world) => (.error (.device status), v, world)
    | (.ok layout, world) =>
      match device.sets pool [layout] world with
      | (.error status, world) => (.error (.device status), v, world.emit (.layoutDestroyed layout))
      | (.ok [], world) =>
        (.error (.initialization "no view descriptor set allocated"), v,
          world.emit (.layoutDestroyed layout))
      | (.ok (set :: _), world) =>
        let world := world.emit (.setWritten set
          [⟨lightBinding, lightBuffer, 0, v.lightRange⟩,
            ⟨viewportBinding, viewportBuffer, 0, v.viewportRange⟩])
        (.ok (), { v with compiled := some ⟨layout, set⟩ }, world)

/-- What a binder has to bind for a compiled state. -/
def setBinding? (v : ViewLights) (bindPoint : Int) (layout firstSet : Nat) :
    Except Failure SetBinding :=
  match v.compiled with
  | none => .error (.notCompiled "ViewDependentState")
  | some descriptors => .ok ⟨bindPoint, layout, firstSet, [descriptors.set]⟩

/-- The state goes, and its layout with it. -/
def dispose (v : ViewLights) (world : World σ) : World σ :=
  match v.compiled with
  | none => world
  | some descriptors => world.emit (.layoutDestroyed descriptors.layout)

end ViewLights

/-- The command that binds a view's descriptor set while recording: at set 0 of the graphics bind
point, unless said otherwise. -/
structure BindLights where
  layout : Nat
  bindPoint : Int := 0
  firstSet : Nat := 0
  deriving DecidableEq, Repr

/-- What a binder has to bind for the command. -/
def BindLights.setBinding? (command : BindLights) (v : ViewLights) : Except Failure SetBinding :=
  v.setBinding? command.bindPoint command.layout command.firstSet

/-- Record the command for a state with a binder, which may refuse. -/
def BindLights.record {σ : Type} (command : BindLights) (v : ViewLights)
    (bind : SetBinding → World σ → Except Failure Unit × World σ) (world : World σ) :
    Except Failure Unit × World σ :=
  match command.setBinding? v with
  | .error failure => (.error failure, world)
  | .ok binding => bind binding world

end FramesInFlight

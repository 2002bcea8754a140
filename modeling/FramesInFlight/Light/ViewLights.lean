import FramesInFlight.Device.Notice
import FramesInFlight.Light.Fitting
import FramesInFlight.Settings.Basic

/-!
# The lights of a view

Traversing a view collects lights, each with the model-view matrix active where it was found.  They
are packed into an array of records that a uniform buffer is filled from:

* record 0 has the numbers of ambient, directional, point and spot lights;
* an ambient light has its emission;
* a directional light has its emission, and its eye direction with a zero;
* a point light has its emission, and its eye position with a zero;
* a spot light has its emission, its eye position with the cosine of the inner angle, and its eye
  direction with the cosine of the outer angle.

Arrays keep their length, and slots that a pack does not reach keep what they have.
-/

namespace FramesInFlight

/-- A light and the model-view matrix active where it was found. -/
structure Placed (α : Type) where
  modelView : ModelView
  light : α

/-! ## Records of one light -/

/-- A direction in eye space.  Under a singular matrix it is only scaled to length one. -/
def ModelView.eyeDirection (m : ModelView) (direction : Vec3) : Vec3 :=
  (m.direction? direction).getD direction.normalize

/-- Reports of taking a direction to eye space. -/
def ModelView.directionNotices (m : ModelView) (direction : Vec3) : List Notice :=
  if (m.direction? direction).isNone then [.singularModelView] else []

/-- Records of an ambient light. -/
def AmbientLight.records (light : AmbientLight) : List Record := [light.emission.record]

namespace Placed

/-- Records of a directional light. -/
def directionalRecords (p : Placed DirectionalLight) : List Record :=
  [p.light.emission.record, (p.modelView.eyeDirection p.light.direction).toRecord .zero]

/-- Records of a point light. -/
def pointRecords (p : Placed PointLight) : List Record :=
  [p.light.emission.record, (p.modelView.position p.light.position).toRecord .zero]

/-- Records of a spot light. -/
def spotRecords (p : Placed SpotLight) : List Record :=
  [p.light.emission.record,
    (p.modelView.position p.light.position).toRecord (.ofFloat p.light.innerAngle.cos),
    (p.modelView.eyeDirection p.light.direction).toRecord (.ofFloat p.light.outerAngle.cos)]

end Placed

/-! ## Viewports -/

/-- A rectangle of the target that a view is drawn to. -/
structure Viewport where
  x : Single
  y : Single
  width : Single
  height : Single
  deriving DecidableEq, Repr

/-- The record of a viewport: its corner and its size. -/
def Viewport.record (p : Viewport) : Record := ⟨p.x, p.y, p.width, p.height⟩

/-! ## The state -/

/-- The descriptor set of a view's lights, with the layout it was made from. -/
structure LightDescriptors where
  layout : Nat
  set : Nat
  deriving DecidableEq, Repr

/-- Light and viewport data of one view. -/
structure ViewLights where
  lightData : List Record
  viewportData : List Record
  /-- Records that the last pack wrote. -/
  packedRecords : Nat := 0
  /-- Lights that the last pack wrote. -/
  packedCounts : PerKind Nat := .replicate 0
  /-- Whether data changed since it was last taken. -/
  dirty : Bool := false
  ambient : List AmbientLight := []
  directional : List (Placed DirectionalLight) := []
  point : List (Placed PointLight) := []
  spot : List (Placed SpotLight) := []
  compiled : Option LightDescriptors := none

namespace ViewLights

/-- The state with room for these numbers of light records and viewports, and for one of each in any
case. -/
def ofCapacities (records viewports : Nat) : ViewLights where
  lightData := List.replicate (max records 1) .zero
  viewportData := List.replicate (max viewports 1) .zero

/-- Report of making the state. -/
def creationNotices (records viewports : Nat) : List Notice := [.lightsCreated records viewports]

/-- The state sized by settings. -/
def ofSettings (settings : LightSettings) : ViewLights :=
  ofCapacities settings.maxLights.toNat settings.maxViewports.toNat

/-! ## Collecting -/

/-- Forget the lights collected; the data stays. -/
def clear (v : ViewLights) : ViewLights :=
  { v with ambient := [], directional := [], point := [], spot := [] }

/-- Collect an ambient light. -/
def addAmbient (v : ViewLights) (light : AmbientLight) : ViewLights :=
  { v with ambient := v.ambient ++ [light] }

/-- Collect a directional light. -/
def addDirectional (v : ViewLights) (m : ModelView) (light : DirectionalLight) : ViewLights :=
  { v with directional := v.directional ++ [⟨m, light⟩] }

/-- Collect a point light. -/
def addPoint (v : ViewLights) (m : ModelView) (light : PointLight) : ViewLights :=
  { v with point := v.point ++ [⟨m, light⟩] }

/-- Collect a spot light. -/
def addSpot (v : ViewLights) (m : ModelView) (light : SpotLight) : ViewLights :=
  { v with spot := v.spot ++ [⟨m, light⟩] }

/-- Collect a light of any kind. -/
def add (v : ViewLights) (light : Light) (m : ModelView) : ViewLights :=
  match light with
  | .ambient light => v.addAmbient light
  | .directional light => v.addDirectional m light
  | .point light => v.addPoint m light
  | .spot light => v.addSpot m light

/-- Numbers of lights collected. -/
def counts (v : ViewLights) : PerKind Nat :=
  ⟨v.ambient.length, v.directional.length, v.point.length, v.spot.length⟩

/-! ## Packing -/

/-- The lights that the light array has room for. -/
def fitting (v : ViewLights) : Fitting := .ofCapacity v.lightData.length v.counts

/-- The record of counts. -/
def countsRecord (counts : PerKind Nat) : Record :=
  ⟨.ofNat counts.ambient, .ofNat counts.directional, .ofNat counts.point, .ofNat counts.spot⟩

/-- Records of the first lights of each kind, as many as `counts` says. -/
def recordsOf (v : ViewLights) (counts : PerKind Nat) : List Record :=
  countsRecord counts ::
    ((v.ambient.take counts.ambient).flatMap AmbientLight.records ++
      (v.directional.take counts.directional).flatMap Placed.directionalRecords ++
      (v.point.take counts.point).flatMap Placed.pointRecords ++
      (v.spot.take counts.spot).flatMap Placed.spotRecords)

/-- Pack the lights that fit.  Only the slots in use are written. -/
def pack (v : ViewLights) : ViewLights :=
  let counts := v.fitting.counts
  let records := v.recordsOf counts
  { v with
    lightData := records ++ v.lightData.drop records.length
    packedRecords := records.length
    packedCounts := counts
    dirty := true }

/-- Reports of packing: first what does not fit, then each direction left in its frame. -/
def packNotices (v : ViewLights) : List Notice :=
  let counts := v.fitting.counts
  let capacity :=
    match v.fitting.overflow with
    | none => []
    | some (kind, dropped) => [.capacityExceeded v.lightData.length dropped kind]
  capacity ++
    ((v.directional.take counts.directional).flatMap fun p =>
      p.modelView.directionNotices p.light.direction) ++
    (v.spot.take counts.spot).flatMap fun p => p.modelView.directionNotices p.light.direction

/-! ## Storing viewports and taking data -/

/-- Store the records of viewports, as far as there is room. -/
def setViewports (v : ViewLights) (viewports : List Viewport) : ViewLights :=
  let stored := (viewports.take v.viewportData.length).map Viewport.record
  { v with viewportData := stored ++ v.viewportData.drop stored.length, dirty := true }

/-- Report of storing viewports. -/
def viewportNotices (v : ViewLights) (viewports : List Viewport) : List Notice :=
  if v.viewportData.length < viewports.length then
    [.viewportsExceeded viewports.length v.viewportData.length]
  else []

/-- The state after its data was taken. -/
def takeDirty (v : ViewLights) : ViewLights := { v with dirty := false }

/-- The packed records. -/
def packed (v : ViewLights) : List Record := v.lightData.take v.packedRecords

/-! ## Views of the data -/

/-- Size of the light data in bytes. -/
def lightRange (v : ViewLights) : Nat := v.lightData.length * Record.size

/-- Size of the viewport data in bytes. -/
def viewportRange (v : ViewLights) : Nat := v.viewportData.length * Record.size

/-- Light data as bytes. -/
def lightBytes (v : ViewLights) : List UInt8 := v.lightData.flatMap Record.bytes

/-- Viewport data as bytes. -/
def viewportBytes (v : ViewLights) : List UInt8 := v.viewportData.flatMap Record.bytes

/-- Reports of the eye-space geometry of every light collected. -/
def geometryNotices (v : ViewLights) : List Notice :=
  [.lightCounts v.counts] ++
    (v.directional.flatMap fun p =>
      p.modelView.directionNotices p.light.direction ++
        [.directionalAt (p.modelView.eyeDirection p.light.direction)]) ++
    (v.point.map fun p => .pointAt (p.modelView.position p.light.position)) ++
    (v.spot.flatMap fun p =>
      p.modelView.directionNotices p.light.direction ++
        [.spotAt (p.modelView.position p.light.position)
          (p.modelView.eyeDirection p.light.direction)])

/-- The state shown as a value. -/
def description (v : ViewLights) : String :=
  "ViewDependentState \x7b light_capacity: " ++ toString v.lightData.length ++
    ", viewport_capacity: " ++ toString v.viewportData.length ++ ", packed_records: " ++
    toString v.packedRecords ++ ", compiled: " ++ toString v.compiled.isSome ++ " \x7d"

end ViewLights

end FramesInFlight

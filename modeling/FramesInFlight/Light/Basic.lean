import FramesInFlight.Light.Geometry

/-!
# Light sources

The four kinds of light a traversal can find.  Color and intensity go to the device unchanged and
are single precision; positions, directions and cone angles are taken to eye space first and are
double precision.
-/

namespace FramesInFlight

/-- Kinds of light, in the order they are packed. -/
inductive LightKind where
  | ambient
  | directional
  | point
  | spot
  deriving DecidableEq, Repr

namespace LightKind

/-- All kinds, in packing order. -/
def all : List LightKind := [.ambient, .directional, .point, .spot]

/-- Records that one light of the kind takes. -/
def recordCount : LightKind → Nat
  | ambient => 1
  | directional => 2
  | point => 2
  | spot => 3

/-- The kind's name. -/
def text : LightKind → String
  | ambient => "ambient"
  | directional => "directional"
  | point => "point"
  | spot => "spot"

end LightKind

/-- One value for each kind of light. -/
structure PerKind (α : Type) where
  ambient : α
  directional : α
  point : α
  spot : α
  deriving DecidableEq, Repr

namespace PerKind

/-- The value of a kind. -/
def get {α : Type} (p : PerKind α) : LightKind → α
  | .ambient => p.ambient
  | .directional => p.directional
  | .point => p.point
  | .spot => p.spot

/-- The values in packing order. -/
def toList {α : Type} (p : PerKind α) : List α := [p.ambient, p.directional, p.point, p.spot]

end PerKind

/-- Color and intensity of a light. -/
structure Emission where
  red : Single
  green : Single
  blue : Single
  intensity : Single
  deriving DecidableEq, Repr, Inhabited

/-- The record that carries an emission. -/
def Emission.record (e : Emission) : Record := ⟨e.red, e.green, e.blue, e.intensity⟩

/-- Componentwise numeric equality. -/
def Emission.same (a b : Emission) : Bool :=
  a.red.same b.red && a.green.same b.green && a.blue.same b.blue && a.intensity.same b.intensity

/-- A light that shines from everywhere, whatever the view. -/
structure AmbientLight where
  emission : Emission

/-- A light from far away; `direction` is the way it travels, in the local frame. -/
structure DirectionalLight where
  emission : Emission
  direction : Vec3

/-- A light that shines from one place to all sides. -/
structure PointLight where
  emission : Emission
  position : Vec3

/-- A light that shines from one place into a cone; angles are in radians. -/
structure SpotLight where
  emission : Emission
  position : Vec3
  direction : Vec3
  innerAngle : Float
  outerAngle : Float

/-- A light of any kind. -/
inductive Light where
  | ambient (light : AmbientLight)
  | directional (light : DirectionalLight)
  | point (light : PointLight)
  | spot (light : SpotLight)

namespace Light

/-- The kind of a light. -/
def kind : Light → LightKind
  | ambient _ => .ambient
  | directional _ => .directional
  | point _ => .point
  | spot _ => .spot

/-- Numeric equality: of one kind, and equal in every component. -/
def same : Light → Light → Bool
  | ambient a, ambient b => a.emission.same b.emission
  | directional a, directional b => a.emission.same b.emission && a.direction.same b.direction
  | point a, point b => a.emission.same b.emission && a.position.same b.position
  | spot a, spot b =>
    a.emission.same b.emission && a.position.same b.position && a.direction.same b.direction &&
      a.innerAngle == b.innerAngle && a.outerAngle == b.outerAngle
  | _, _ => false

end Light

end FramesInFlight

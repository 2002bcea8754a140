import FramesInFlight.Number.Single

/-!
# Eye-space geometry

Positions and directions in double precision, and the two ways a model-view matrix acts on them.
A position goes through the whole matrix, the projective division included.  A direction goes
through the inverse transpose of the upper 3×3 block alone and is then scaled to length one.

Every sum is formed in the order written, since rounding makes order visible.
-/

namespace FramesInFlight

/-- Three double precision components. -/
structure Vec3 where
  x : Float
  y : Float
  z : Float
  deriving Inhabited

/-- Four single precision components, the unit of a uniform buffer. -/
structure Record where
  x : Single
  y : Single
  z : Single
  w : Single
  deriving DecidableEq, Repr, Inhabited

/-- The record of zeros that buffers start with. -/
def Record.zero : Record := ⟨.zero, .zero, .zero, .zero⟩

/-- Size of a record in bytes. -/
def Record.size : Nat := 16

/-- The bytes of a record, each component least significant byte first. -/
def Record.bytes (r : Record) : List UInt8 := r.x.bytes ++ r.y.bytes ++ r.z.bytes ++ r.w.bytes

/-- A 3×3 matrix, by rows. -/
structure Mat3 where
  row1 : Vec3
  row2 : Vec3
  row3 : Vec3
  deriving Inhabited

/-- A 4×4 matrix in blocks: the upper 3×3 block, the translation column beside it, the first three
entries of the bottom row and the corner. -/
structure ModelView where
  linear : Mat3
  translation : Vec3
  perspective : Vec3
  corner : Float
  deriving Inhabited

/-- The matrix that changes nothing. -/
def ModelView.identity : ModelView where
  linear := ⟨⟨1, 0, 0⟩, ⟨0, 1, 0⟩, ⟨0, 0, 1⟩⟩
  translation := ⟨0, 0, 0⟩
  perspective := ⟨0, 0, 0⟩
  corner := 1

namespace Vec3

/-- Sum of products, from the first component on. -/
def dot (a b : Vec3) : Float := a.x * b.x + a.y * b.y + a.z * b.z

/-- Every component divided by `d`. -/
def scaleDown (v : Vec3) (d : Float) : Vec3 := ⟨v.x / d, v.y / d, v.z / d⟩

/-- The vector scaled to length one.  The zero vector has no direction and gives no numbers. -/
def normalize (v : Vec3) : Vec3 := v.scaleDown (v.dot v).sqrt

/-- Narrow a vector into a record with fourth component `w`. -/
def toRecord (v : Vec3) (w : Single) : Record :=
  ⟨.ofFloat v.x, .ofFloat v.y, .ofFloat v.z, w⟩

/-- Componentwise numeric equality: no NaN equals anything. -/
def same (a b : Vec3) : Bool := a.x == b.x && a.y == b.y && a.z == b.z

end Vec3

namespace Mat3

/-- The three minors of the first row. -/
def minors (m : Mat3) : Vec3 where
  x := m.row2.y * m.row3.z - m.row3.y * m.row2.z
  y := m.row2.x * m.row3.z - m.row3.x * m.row2.z
  z := m.row2.x * m.row3.y - m.row3.x * m.row2.y

/-- The determinant, along the first row. -/
def determinant (m : Mat3) : Float :=
  m.row1.x * m.minors.x - m.row1.y * m.minors.y + m.row1.z * m.minors.z

/-- The inverse matrix, if the determinant is not exactly zero. -/
def inverse? (m : Mat3) : Option Mat3 :=
  let det := m.determinant
  if det == 0 then none
  else some
    { row1 := Vec3.scaleDown
        ⟨m.minors.x, m.row1.z * m.row3.y - m.row3.z * m.row1.y,
          m.row1.y * m.row2.z - m.row2.y * m.row1.z⟩ det
      row2 := Vec3.scaleDown
        ⟨-m.minors.y, m.row1.x * m.row3.z - m.row3.x * m.row1.z,
          m.row1.z * m.row2.x - m.row2.z * m.row1.x⟩ det
      row3 := Vec3.scaleDown
        ⟨m.minors.z, m.row1.y * m.row3.x - m.row3.y * m.row1.x,
          m.row1.x * m.row2.y - m.row2.x * m.row1.y⟩ det }

/-- The transpose applied to `v`. -/
def transposeApply (m : Mat3) (v : Vec3) : Vec3 where
  x := m.row1.x * v.x + m.row2.x * v.y + m.row3.x * v.z
  y := m.row1.y * v.x + m.row2.y * v.y + m.row3.y * v.z
  z := m.row1.z * v.x + m.row2.z * v.y + m.row3.z * v.z

/-- The unit direction of `direction` under the inverse transpose, unless the matrix is singular. -/
def direction? (m : Mat3) (direction : Vec3) : Option Vec3 :=
  m.inverse?.map fun inverse => (inverse.transposeApply direction).normalize

end Mat3

namespace ModelView

/-- A position under the whole matrix, divided by its fourth coordinate unless that is zero. -/
def position (m : ModelView) (p : Vec3) : Vec3 :=
  let scale := 0 + m.perspective.x * p.x + m.perspective.y * p.y + m.perspective.z * p.z + m.corner
  let moved : Vec3 :=
    ⟨m.linear.row1.dot p + m.translation.x, m.linear.row2.dot p + m.translation.y,
      m.linear.row3.dot p + m.translation.z⟩
  if scale == 0 then moved else moved.scaleDown scale

/-- The unit direction of `direction`, unless the upper block is singular. -/
def direction? (m : ModelView) (direction : Vec3) : Option Vec3 := m.linear.direction? direction

end ModelView

end FramesInFlight

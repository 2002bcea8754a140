import Mathlib.LinearAlgebra.Matrix.Notation
import Mathlib.LinearAlgebra.Matrix.NonsingularInverse
import Mathlib.Tactic.Ring
import FramesInFlight.Light.ViewLights

/-!
# Eye space, entry by entry

A position goes to eye space by the product with the whole matrix and the projective division.  A
direction goes there by the inverse transpose of the upper block, and has length one then.  This
module writes both out in the entries of the matrix, and no function that the light state computes
with has a part in it.

* The formulas in `EyeSpace` are for numbers of any type.  In double precision they are sums in the
  order in which they are formed, since rounding makes order visible.  Over a field they are the
  product and the inverse that they are called, by `coordinate_eq`, `fourth_eq`, `determinant_eq`
  and `inverseTranspose_eq`.
* `ModelView.TakesPosition` and `ModelView.TakesDirection` are what a model-view matrix does, and
  `position_takes` and `eyeDirection_takes` say that the light state computes just that.
-/

namespace FramesInFlight

namespace EyeSpace

section Formulas

variable {K : Type} [Add K] [Sub K] [Mul K] [Neg K] [Div K] [OfNat K 0]

/-- A coordinate of the product of a matrix with a point, whose own fourth coordinate is one. -/
def coordinate (a : Matrix (Fin 4) (Fin 4) K) (p : Fin 3 → K) (i : Fin 4) : K :=
  a i 0 * p 0 + a i 1 * p 1 + a i 2 * p 2 + a i 3

/-- The fourth coordinate of the product, summed up from zero. -/
def fourth (a : Matrix (Fin 4) (Fin 4) K) (p : Fin 3 → K) : K :=
  0 + a 3 0 * p 0 + a 3 1 * p 1 + a 3 2 * p 2 + a 3 3

/-- The determinant, along the first row. -/
def determinant (a : Matrix (Fin 3) (Fin 3) K) : K :=
  a 0 0 * (a 1 1 * a 2 2 - a 2 1 * a 1 2) - a 0 1 * (a 1 0 * a 2 2 - a 2 0 * a 1 2) +
    a 0 2 * (a 1 0 * a 2 1 - a 2 0 * a 1 1)

/-- The cofactors, each in the place of its entry. -/
def cofactors (a : Matrix (Fin 3) (Fin 3) K) : Matrix (Fin 3) (Fin 3) K :=
  !![a 1 1 * a 2 2 - a 2 1 * a 1 2, -(a 1 0 * a 2 2 - a 2 0 * a 1 2),
      a 1 0 * a 2 1 - a 2 0 * a 1 1;
    a 0 2 * a 2 1 - a 2 2 * a 0 1, a 0 0 * a 2 2 - a 2 0 * a 0 2,
      a 0 1 * a 2 0 - a 2 1 * a 0 0;
    a 0 1 * a 1 2 - a 1 1 * a 0 2, a 0 2 * a 1 0 - a 1 2 * a 0 0,
      a 0 0 * a 1 1 - a 1 0 * a 0 1]

/-- A coordinate of the product of the inverse transpose with a direction. -/
def inverseTranspose (a : Matrix (Fin 3) (Fin 3) K) (d : Fin 3 → K) (i : Fin 3) : K :=
  cofactors a i 0 / determinant a * d 0 + cofactors a i 1 / determinant a * d 1 +
    cofactors a i 2 / determinant a * d 2

end Formulas

/-! ## In exact arithmetic -/

section Exact

open Matrix

variable {K : Type} [Field K]

theorem coordinate_eq (a : Matrix (Fin 4) (Fin 4) K) (p : Fin 3 → K) :
    coordinate a p = a *ᵥ ![p 0, p 1, p 2, 1] := by
  funext i
  simp [coordinate, mulVec, dotProduct, Fin.sum_univ_four]

theorem fourth_eq (a : Matrix (Fin 4) (Fin 4) K) (p : Fin 3 → K) :
    fourth a p = (a *ᵥ ![p 0, p 1, p 2, 1]) 3 := by
  rw [← coordinate_eq, fourth, coordinate, zero_add]

theorem determinant_eq (a : Matrix (Fin 3) (Fin 3) K) : determinant a = a.det := by
  rw [det_fin_three, determinant]
  ring

theorem cofactors_eq (a : Matrix (Fin 3) (Fin 3) K) : cofactors a = a.adjugateᵀ := by
  rw [adjugate_fin_three, cofactors]
  ext i j
  fin_cases i <;> fin_cases j <;> simp <;> ring

theorem inverseTranspose_eq (a : Matrix (Fin 3) (Fin 3) K) (d : Fin 3 → K) :
    inverseTranspose a d = a⁻¹ᵀ *ᵥ d := by
  have hentry : ∀ i j, cofactors a i j / determinant a = a⁻¹ᵀ i j := by
    intro i j
    rw [cofactors_eq, determinant_eq, inv_def, Ring.inverse_eq_inv', div_eq_inv_mul]
    rfl
  funext i
  simp only [inverseTranspose, hentry, mulVec, dotProduct, Fin.sum_univ_three]

end Exact

/-- A direction scaled to length one. -/
def unit (d : Fin 3 → Float) : Vec3 where
  x := d 0 / (d 0 * d 0 + d 1 * d 1 + d 2 * d 2).sqrt
  y := d 1 / (d 0 * d 0 + d 1 * d 1 + d 2 * d 2).sqrt
  z := d 2 / (d 0 * d 0 + d 1 * d 1 + d 2 * d 2).sqrt

end EyeSpace

/-! ## Under a model-view matrix -/

/-- The coordinates of a vector. -/
def Vec3.coordinates (v : Vec3) : Fin 3 → Float := ![v.x, v.y, v.z]

namespace ModelView

/-- The entries of a matrix. -/
def entries (m : ModelView) : Matrix (Fin 4) (Fin 4) Float :=
  !![m.linear.row1.x, m.linear.row1.y, m.linear.row1.z, m.translation.x;
    m.linear.row2.x, m.linear.row2.y, m.linear.row2.z, m.translation.y;
    m.linear.row3.x, m.linear.row3.y, m.linear.row3.z, m.translation.z;
    m.perspective.x, m.perspective.y, m.perspective.z, m.corner]

/-- The entries of the upper 3×3 block. -/
def upperBlock (m : ModelView) : Matrix (Fin 3) (Fin 3) Float :=
  m.entries.submatrix Fin.castSucc Fin.castSucc

/-- Where a matrix takes a position. -/
inductive TakesPosition (m : ModelView) (p : Vec3) : Vec3 → Prop
  /-- The first three coordinates of the product, divided by the fourth. -/
  | projected (hfourth : (EyeSpace.fourth m.entries p.coordinates == 0) = false) :
    TakesPosition m p
      ⟨EyeSpace.coordinate m.entries p.coordinates 0 / EyeSpace.fourth m.entries p.coordinates,
        EyeSpace.coordinate m.entries p.coordinates 1 / EyeSpace.fourth m.entries p.coordinates,
        EyeSpace.coordinate m.entries p.coordinates 2 / EyeSpace.fourth m.entries p.coordinates⟩
  /-- Nothing is divided by zero. -/
  | undivided (hfourth : (EyeSpace.fourth m.entries p.coordinates == 0) = true) :
    TakesPosition m p
      ⟨EyeSpace.coordinate m.entries p.coordinates 0,
        EyeSpace.coordinate m.entries p.coordinates 1,
        EyeSpace.coordinate m.entries p.coordinates 2⟩

/-- How a matrix takes a direction to eye space. -/
inductive TakesDirection (m : ModelView) (direction : Vec3) : Vec3 → Prop
  /-- Through the inverse transpose of the upper block, and then to length one. -/
  | inverted (hregular : (EyeSpace.determinant m.upperBlock == 0) = false) :
    TakesDirection m direction
      (EyeSpace.unit (EyeSpace.inverseTranspose m.upperBlock direction.coordinates))
  /-- The upper block is singular, and the direction is only scaled to length one. -/
  | singular (hsingular : (EyeSpace.determinant m.upperBlock == 0) = true) :
    TakesDirection m direction (EyeSpace.unit direction.coordinates)

theorem position_takes (m : ModelView) (p : Vec3) : m.TakesPosition p (m.position p) := by
  simp only [position]
  split
  · rename_i hzero
    exact .undivided hzero
  · rename_i hfourth
    exact .projected (Bool.eq_false_iff.mpr hfourth)

theorem eyeDirection_takes (m : ModelView) (direction : Vec3) :
    m.TakesDirection direction (m.eyeDirection direction) := by
  rw [eyeDirection, direction?, Mat3.direction?, Mat3.inverse?]
  split
  · rename_i hsingular
    exact .singular hsingular
  · rename_i hregular
    exact .inverted (Bool.eq_false_iff.mpr hregular)

end ModelView

end FramesInFlight

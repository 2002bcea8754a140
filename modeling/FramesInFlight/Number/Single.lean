import FramesInFlight.Number.Binary

/-!
# Single precision components

What the device reads is single precision, and nothing is computed in it: components are narrowed
from double precision, counted into, compared and written as bytes.  A component is therefore kept
as its bit pattern, and equality of components is equality of bits.  `Single.same` is the numeric
comparison, under which a NaN differs from itself and the two zeros agree.
-/

namespace FramesInFlight

/-- A single precision component, as its bit pattern. -/
structure Single where
  bits : UInt32
  deriving DecidableEq, Repr

namespace Single

/-- Positive zero. -/
def zero : Single := ⟨0⟩

instance : Inhabited Single := ⟨zero⟩

/-- The pattern with the low 32 bits of `n`. -/
def ofBits (n : Nat) : Single := ⟨UInt32.ofNat n⟩

/-- What the component stands for. -/
def datum (x : Single) : Binary.Datum := Binary.single.decode x.bits.toNat

/-- The component nearest to a count. -/
def ofNat (n : Nat) : Single := ofBits (Binary.single.round false n 0)

/-- The count that a component stands for, if it is a whole number. -/
def toNat? (x : Single) : Option Nat :=
  match x.datum with
  | .finite false m e =>
    if 0 ≤ e then some (m <<< e.toNat)
    else if m % (1 <<< (-e).toNat) = 0 then some (m >>> (-e).toNat)
    else none
  | _ => none

/-- Narrow the double with the pattern `bits` to the nearest component.  A NaN stays one: it keeps
its sign and the leading bits of its payload, and becomes quiet. -/
def ofDoubleBits (bits : Nat) : Single :=
  match Binary.double.decode bits with
  | .finite negative m e => ofBits (Binary.single.round negative m e)
  | .infinite negative => ofBits (Binary.single.signed negative Binary.single.infinity)
  | .notANumber =>
    let quiet := 1 <<< 22
    let payload := (bits >>> 29) % quiet
    ofBits (Binary.single.signed (bits.testBit 63) (Binary.single.infinity + quiet + payload))

/-- Narrow a double to the nearest component. -/
def ofFloat (x : Float) : Single := ofDoubleBits x.toBits.toNat

/-- Whether the component is a NaN. -/
def isNaN (x : Single) : Bool := x.datum == .notANumber

/-- Whether the component is one of the two zeros. -/
def isZero (x : Single) : Bool := x.bits.toNat % Binary.single.signBit == 0

/-- Numeric equality: no NaN equals anything, and the zeros are equal. -/
def same (x y : Single) : Bool :=
  !x.isNaN && !y.isNaN && (x == y || (x.isZero && y.isZero))

/-- The four bytes of a component, least significant first. -/
def bytes (x : Single) : List UInt8 :=
  [x.bits.toUInt8, (x.bits >>> 8).toUInt8, (x.bits >>> 16).toUInt8, (x.bits >>> 24).toUInt8]

end Single

end FramesInFlight

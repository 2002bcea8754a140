/-!
# Binary floating-point formats

A bit pattern of a binary format stands for a sign and an exact magnitude `m * 2 ^ e`, for an
infinity, or for no number.  `Format.decode` reads a pattern, `Format.round` writes the pattern
nearest to an exact magnitude, a half going to the even neighbour, and too large a magnitude going
to infinity.

The patterns of one sign are ordered like the magnitudes they stand for, which is why rounding can
be done on the pattern itself: a carry out of the fraction runs into the exponent field.
-/

namespace FramesInFlight

namespace Binary

/-- A binary interchange format: bits of significand, the leading one included, and bits of
exponent. -/
structure Format where
  precision : Nat
  exponentWidth : Nat
  deriving DecidableEq, Repr

/-- The single format, 32 bits. -/
def single : Format := ⟨24, 8⟩

/-- The double format, 64 bits. -/
def double : Format := ⟨53, 11⟩

/-- What a bit pattern stands for.  A finite magnitude is `significand * 2 ^ exponent`. -/
inductive Datum where
  | finite (negative : Bool) (significand : Nat) (exponent : Int)
  | infinite (negative : Bool)
  | notANumber
  deriving DecidableEq, Repr

namespace Format

/-- Number of fraction bits. -/
def fractionWidth (f : Format) : Nat := f.precision - 1

/-- The largest exponent field, kept for infinities and for what is not a number. -/
def topField (f : Format) : Nat := (1 <<< f.exponentWidth) - 1

/-- Exponent of the smallest positive magnitude, in powers of two. -/
def leastExponent (f : Format) : Int :=
  3 - (1 <<< (f.exponentWidth - 1) : Nat) - f.precision

/-- The pattern of positive infinity. -/
def infinity (f : Format) : Nat := f.topField <<< f.fractionWidth

/-- The sign bit's place value. -/
def signBit (f : Format) : Nat := 1 <<< (f.fractionWidth + f.exponentWidth)

/-- What the pattern `bits` stands for. -/
def decode (f : Format) (bits : Nat) : Datum :=
  let negative := bits.testBit (f.fractionWidth + f.exponentWidth)
  let field := (bits >>> f.fractionWidth) % (1 <<< f.exponentWidth)
  let fraction := bits % (1 <<< f.fractionWidth)
  if field = f.topField then
    if fraction = 0 then .infinite negative else .notANumber
  else if field = 0 then
    .finite negative fraction f.leastExponent
  else
    .finite negative ((1 <<< f.fractionWidth) + fraction) (f.leastExponent + field - 1)

end Format

/-- The quotient `m / 2 ^ k` rounded to the nearest integer, a half to the even neighbour. -/
def roundHalfEven (m k : Nat) : Nat :=
  let quotient := m >>> k
  let unit := 1 <<< k
  let twice := 2 * (m % unit)
  if unit < twice ∨ (twice = unit ∧ quotient % 2 = 1) then quotient + 1 else quotient

/-- Number of binary digits. -/
def bitLength (m : Nat) : Nat := if m = 0 then 0 else m.log2 + 1

/-- The pattern of the magnitude nearest to `m * 2 ^ e`, or the pattern of infinity when that
magnitude lies above the format. -/
def Format.roundMagnitude (f : Format) (m : Nat) (e : Int) : Nat :=
  let exponent := max f.leastExponent (e + bitLength m - f.precision)
  let significand :=
    if exponent ≤ e then m <<< (e - exponent).toNat
    else roundHalfEven m (exponent - e).toNat
  if m = 0 then 0
  else min f.infinity (((exponent - f.leastExponent).toNat <<< f.fractionWidth) + significand)

/-- The pattern of a magnitude with a sign. -/
def Format.signed (f : Format) (negative : Bool) (pattern : Nat) : Nat :=
  (if negative then f.signBit else 0) + pattern

/-- The pattern nearest to the signed number `± m * 2 ^ e`. -/
def Format.round (f : Format) (negative : Bool) (m : Nat) (e : Int) : Nat :=
  f.signed negative (f.roundMagnitude m e)

end Binary

end FramesInFlight

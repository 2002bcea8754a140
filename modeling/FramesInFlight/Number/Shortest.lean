import FramesInFlight.Number.Binary

/-!
# Shortest decimals

A double is written with the fewest decimal digits that read back as the same double, and among
those with the digits nearest to its value.

The numbers that round to a double form an interval around it, whose ends belong to it exactly when
the significand is even.  For one digit, two digits and so on, the two neighbours of the value on
that decimal grid are tested against the interval; the first grid with a hit gives the digits.  All
arithmetic is on natural numbers.

* `Decimal.shortest` finds the digits.
* `Decimal.Style` is the decision record of a notation, and `Decimal.Style.text` writes with it.
-/

namespace FramesInFlight

/-- The positive decimal number `digits * 10 ^ exponent`. -/
structure Decimal where
  digits : Nat
  exponent : Int
  deriving DecidableEq, Repr

namespace Decimal

/-- Digits of the shortest decimal of a double are never more than these. -/
def mostDigits : Nat := 17

/-- A power of ten. -/
def tenTo (n : Nat) : Nat := Nat.pow 10 n

/-- Number of decimal digits of `n`; at least one. -/
def digitCount (n : Nat) : Nat := (Nat.toDigits 10 n).length

/-- The least `j` at or above `start` with `den ≤ num * tenTo j`, sought for `fuel` steps. -/
def leadingShift (num den start : Nat) : Nat → Nat
  | 0 => start
  | fuel + 1 => if den ≤ num * tenTo start then start else leadingShift num den (start + 1) fuel

/-- The power of ten of the leading digit of `num / den`. -/
def leadingExponent (num den : Nat) : Int :=
  if den ≤ num then (digitCount (num / den) : Int) - 1
  else -(leadingShift num den 1 400 : Nat)

/-- A magnitude and the interval of magnitudes that round to it, over one denominator. -/
structure Interval where
  low : Nat
  value : Nat
  high : Nat
  den : Nat
  closed : Bool
  deriving Repr

/-- The interval of the positive double magnitude `m * 2 ^ e`.  Below a power of two the next
double is half as far as above it, save at the bottom of the range. -/
def Interval.ofDouble (m : Nat) (e : Int) : Interval :=
  let narrow := m == 1 <<< 52 && decide (Binary.double.leastExponent < e)
  let scale := 1 <<< (e - 2).toNat
  { low := (if narrow then 4 * m - 1 else 4 * m - 2) * scale
    value := 4 * m * scale
    high := (4 * m + 2) * scale
    den := 1 <<< (2 - e).toNat
    closed := m % 2 == 0 }

/-- Whether `c / unit` lies in the interval scaled by `scale / unit`. -/
def Interval.holds (i : Interval) (scale unit c : Nat) : Bool :=
  let x := c * i.den * unit
  if i.closed then decide (i.low * scale ≤ x) && decide (x ≤ i.high * scale)
  else decide (i.low * scale < x) && decide (x < i.high * scale)

/-- The number with `n` digits nearest to the value among those in the interval, if there is one; of
two equally near the larger.  `lead` is the power of ten of the value's leading digit. -/
def Interval.onGrid (i : Interval) (lead : Int) (n : Nat) : Option Decimal :=
  let exponent := lead - n + 1
  let scale := tenTo (-exponent).toNat
  let unit := tenTo exponent.toNat
  let below := i.value * scale / (i.den * unit)
  let twice := 2 * (i.value * scale - below * (i.den * unit))
  let lower := i.holds scale unit below
  let upper := i.holds scale unit (below + 1)
  if lower && (!upper || decide (twice < i.den * unit)) then some ⟨below, exponent⟩
  else if upper then some ⟨below + 1, exponent⟩
  else none

/-- Drop trailing zeros, at most `fuel` of them. -/
def trim (d : Decimal) : Nat → Decimal
  | 0 => d
  | fuel + 1 =>
    if d.digits ≠ 0 ∧ d.digits % 10 = 0 then trim ⟨d.digits / 10, d.exponent + 1⟩ fuel else d

/-- The first hit among the grids with `n`, `n + 1`, … digits. -/
def Interval.firstHit (i : Interval) (lead : Int) (n : Nat) : Nat → Option Decimal
  | 0 => none
  | fuel + 1 => (i.onGrid lead n).or (i.firstHit lead (n + 1) fuel)

/-- The shortest decimal of the positive double magnitude `m * 2 ^ e`. -/
def shortest (m : Nat) (e : Int) : Decimal :=
  let i := Interval.ofDouble m e
  let lead := leadingExponent i.value i.den
  ((i.firstHit lead 1 mostDigits).getD ⟨0, 0⟩).trim mostDigits

/-- How a double is written.  Positional notation is used for zero and when the leading digit's
power of ten lies in `[leastPositional, leastScientific)`. -/
structure Style where
  leastPositional : Int
  leastScientific : Int
  exponentMark : String
  /-- Written after a whole number in positional notation. -/
  wholeMark : String
  notANumber : String
  infinity : String
  deriving Repr

/-- The digits with a point after the first, if there is more than one. -/
def pointed (cs : List Char) : List Char :=
  match cs with
  | [] => []
  | [c] => [c]
  | c :: rest => c :: '.' :: rest

/-- Write a decimal in the notation of `style`. -/
def Style.magnitude (style : Style) (d : Decimal) : String :=
  let cs := Nat.toDigits 10 d.digits
  let lead := d.exponent + cs.length - 1
  if style.leastPositional ≤ lead ∧ lead < style.leastScientific then
    if 0 ≤ d.exponent then
      String.ofList (cs ++ List.replicate d.exponent.toNat '0') ++ style.wholeMark
    else if 0 ≤ lead then
      let whole := (lead + 1).toNat
      String.ofList (cs.take whole ++ '.' :: cs.drop whole)
    else
      String.ofList ('0' :: '.' :: List.replicate (-lead - 1).toNat '0' ++ cs)
  else
    String.ofList (pointed cs) ++ style.exponentMark ++ toString lead

/-- Write the double with the pattern `bits`. -/
def Style.text (style : Style) (bits : Nat) : String :=
  match Binary.double.decode bits with
  | .notANumber => style.notANumber
  | .infinite negative => (if negative then "-" else "") ++ style.infinity
  | .finite negative m e =>
    (if negative then "-" else "") ++
      (if m = 0 then "0" ++ style.wholeMark else style.magnitude (shortest m e))

end Decimal

end FramesInFlight

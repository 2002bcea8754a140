/-!
# Digits

Numbers as they are read: digits of a base up to sixteen, most significant first.
-/

namespace FramesInFlight

namespace Digits

/-- What a digit of any base up to sixteen stands for. -/
def value? (c : Char) : Option Nat :=
  if c.isDigit then some (c.toNat - 48)
  else if 'a' ≤ c ∧ c ≤ 'f' then some (c.toNat - 87)
  else if 'A' ≤ c ∧ c ≤ 'F' then some (c.toNat - 55)
  else none

/-- What a digit of a base stands for. -/
def ofBase? (base : Nat) (c : Char) : Option Nat := (value? c).filter (· < base)

/-- The number that digits stand for; a character that is no digit counts as zero. -/
def toNat (base : Nat) (digits : List Char) : Nat :=
  digits.foldl (fun n c => base * n + (value? c).getD 0) 0

/-- Digits of a base with single underscores between them; gives the digits alone. -/
def grouped? (base : Nat) : List Char → Option (List Char)
  | [] => none
  | [c] => if (ofBase? base c).isSome then some [c] else none
  | c :: '_' :: rest =>
    if (ofBase? base c).isSome then (grouped? base rest).map (c :: ·) else none
  | c :: rest => if (ofBase? base c).isSome then (grouped? base rest).map (c :: ·) else none

/-- The character with the number that hexadecimal digits stand for, if that is a character. -/
def toChar? (digits : List Char) : Option Char :=
  let n := toNat 16 digits
  if digits.all (fun c => (value? c).isSome) && decide n.isValidChar then some (Char.ofNat n)
  else none

end Digits

end FramesInFlight

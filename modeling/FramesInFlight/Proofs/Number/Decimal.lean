import Mathlib.Data.List.Basic
import FramesInFlight.Number.Digits

/-!
# Decimal digits

Numbers are written by `Nat.toDigits 10`, and read back by `Digits.grouped?` and `Digits.toNat`.

* `ofBase?_ten` and `grouped?_of_isDigit` say that a run of decimal digits is read as it stands.
* `toDigits_eq_zero_cons` excludes leading zeros, which some formats refuse.
* `toNat_toDigits` is the round trip.
-/

namespace FramesInFlight

namespace Digits

theorem isDigit_bounds {c : Char} (hc : c.isDigit = true) : 48 ≤ c.toNat ∧ c.toNat ≤ 57 :=
  Char.isDigit_iff_toNat.mp hc

/-- A character that is no digit differs from every digit. -/
theorem ne_of_isDigit {c d : Char} (hc : c.isDigit = true) (hd : d.isDigit = false) : c ≠ d := by
  rintro rfl
  rw [hc] at hd
  cases hd

theorem value?_of_isDigit {c : Char} (hc : c.isDigit = true) : value? c = some (c.toNat - 48) :=
  if_pos hc

theorem ofBase?_ten {c : Char} (hc : c.isDigit = true) : ofBase? 10 c = some (c.toNat - 48) := by
  have hbounds := isDigit_bounds hc
  rw [ofBase?, value?_of_isDigit hc, Option.filter_some, if_pos (by simp; omega)]

/-- Digits without underscores between them stay as they are. -/
theorem grouped?_of_isDigit {digits : List Char} (hne : digits ≠ [])
    (hdigits : ∀ c ∈ digits, c.isDigit = true) : grouped? 10 digits = some digits := by
  have hread (c : Char) (hc : c ∈ digits) : (ofBase? 10 c).isSome = true := by
    rw [ofBase?_ten (hdigits c hc)]
    rfl
  fun_induction grouped? 10 digits with
  | case1 => exact absurd rfl hne
  | case2 => rfl
  | case3 c hc | case5 c _ hc | case7 c _ _ _ hc => exact absurd (hread c List.mem_cons_self) hc
  | case4 c rest =>
    have hunderscore := hdigits '_' (by simp)
    cases hunderscore
  | case6 c rest hrest _ _ ih =>
    rw [ih hrest (fun d hd => hdigits d (List.mem_cons_of_mem c hd))
      (fun d hd => hread d (List.mem_cons_of_mem c hd))]
    rfl

theorem toNat_eq_ofDigitChars {digits : List Char} (hdigits : ∀ c ∈ digits, c.isDigit = true) :
    toNat 10 digits = Nat.ofDigitChars 10 digits 0 := by
  rw [toNat, Nat.ofDigitChars_eq_foldl]
  refine List.foldl_ext _ _ _ fun n c hc => ?_
  rw [value?_of_isDigit (hdigits c hc)]
  rfl

/-! ## The digits of a number -/

theorem isDigit_of_mem_toDigits {n : Nat} {c : Char} (hc : c ∈ Nat.toDigits 10 n) :
    c.isDigit = true :=
  Nat.isDigit_of_mem_toDigits (by decide) (by decide) hc

/-- A number has a first digit. -/
theorem exists_toDigits (n : Nat) :
    ∃ c more, Nat.toDigits 10 n = c :: more ∧ c.isDigit = true := by
  cases h : Nat.toDigits 10 n with
  | nil => exact absurd h Nat.toDigits_ne_nil
  | cons c more => exact ⟨c, more, rfl, isDigit_of_mem_toDigits (h ▸ List.mem_cons_self)⟩

theorem toNat_toDigits (n : Nat) : toNat 10 (Nat.toDigits 10 n) = n := by
  rw [toNat_eq_ofDigitChars fun _ => isDigit_of_mem_toDigits, Nat.ofDigitChars_ten_toDigits]

theorem grouped?_toDigits (n : Nat) : grouped? 10 (Nat.toDigits 10 n) = some (Nat.toDigits 10 n) :=
  grouped?_of_isDigit Nat.toDigits_ne_nil fun _ => isDigit_of_mem_toDigits

/-- Only zero begins with a zero, and has no more digits then. -/
theorem toDigits_eq_zero_cons {n : Nat} {rest : List Char} (h : Nat.toDigits 10 n = '0' :: rest) :
    rest = [] := by
  induction n using Nat.strongRecOn generalizing rest with
  | ind n ih =>
    rw [Nat.toDigits_eq_if (by decide)] at h
    split at h
    · exact (List.cons.inj h).2.symm
    · -- What stands before the last digit would be zero, and the number below ten.
      exfalso
      cases hfirst : Nat.toDigits 10 (n / 10) with
      | nil => exact Nat.toDigits_ne_nil hfirst
      | cons c more =>
        rw [hfirst] at h
        obtain ⟨rfl, -⟩ := List.cons.inj h
        have hmore := ih (n / 10) (by omega) hfirst
        have hvalue := toNat_toDigits (n / 10)
        rw [hfirst, hmore] at hvalue
        have hzero : toNat 10 ['0'] = 0 := by decide
        omega

end Digits

end FramesInFlight

import Mathlib.Algebra.Group.Nat.Defs
import FramesInFlight.Number.Single

/-!
# Counts in single precision

A component that was made from a count stands for the count nearest to it among those that have at
most 24 binary digits up to a power of two.

* `Single.Exact` are these counts, up to the largest that is finite.
* `exact_of_toNat?` says that no component stands for another count.
* `decode_normal` and `roundMagnitude_of_dvd` are the two halves of the other direction: what the
  pattern of a normal magnitude stands for, and that rounding gives this pattern when there is
  nothing to round.
* `toNat?_ofNat_eq_some_iff` puts both together.
-/

namespace FramesInFlight

open Binary

/-- The count has at most 24 binary digits up to a power of two, and is no larger than the largest
finite magnitude. -/
def Single.Exact (n : Nat) : Prop := ∃ m e, m < 2 ^ 24 ∧ e ≤ 104 ∧ n = m * 2 ^ e

namespace Binary

theorem roundHalfEven_of_dvd {m k : Nat} (hdvd : 2 ^ k ∣ m) : roundHalfEven m k = m / 2 ^ k := by
  have hpos : 0 < 2 ^ k := Nat.two_pow_pos k
  simp only [roundHalfEven, Nat.shiftRight_eq_div_pow, Nat.one_shiftLeft,
    Nat.mod_eq_zero_of_dvd hdvd]
  rw [if_neg (by omega)]

/-- The magnitude of a count with `log2 n + 1` binary digits, cut to the 24 that there are. -/
def significand (n : Nat) : Nat := n * 2 ^ (23 - n.log2) / 2 ^ (n.log2 - 23)

theorem significand_mul {n : Nat} (hdvd : 2 ^ (n.log2 - 23) ∣ n) :
    significand n * 2 ^ (n.log2 - 23) = n * 2 ^ (23 - n.log2) :=
  Nat.div_mul_cancel (Nat.dvd_mul_right_of_dvd hdvd _)

theorem significand_bounds {n : Nat} (hpos : 0 < n) :
    2 ^ 23 ≤ significand n ∧ significand n < 2 ^ 24 := by
  have hlow : 2 ^ n.log2 ≤ n := Nat.log2_self_le (Nat.ne_of_gt hpos)
  have hhigh : n < 2 ^ (n.log2 + 1) := Nat.lt_log2_self
  unfold significand
  constructor
  · rw [Nat.le_div_iff_mul_le (Nat.two_pow_pos _), ← Nat.pow_add]
    calc 2 ^ (23 + (n.log2 - 23)) = 2 ^ n.log2 * 2 ^ (23 - n.log2) := by
          rw [← Nat.pow_add]; congr 1; omega
      _ ≤ n * 2 ^ (23 - n.log2) := Nat.mul_le_mul_right _ hlow
  · rw [Nat.div_lt_iff_lt_mul (Nat.two_pow_pos _), ← Nat.pow_add]
    calc n * 2 ^ (23 - n.log2) < 2 ^ (n.log2 + 1) * 2 ^ (23 - n.log2) :=
          Nat.mul_lt_mul_of_pos_right hhigh (Nat.two_pow_pos _)
      _ = 2 ^ (24 + (n.log2 - 23)) := by rw [← Nat.pow_add]; congr 1; omega

/-- A finite magnitude has at most 24 binary digits, and is not too large. -/
theorem single_decode_bounds {bits m : Nat} {negative : Bool} {e : Int}
    (hfinite : single.decode bits = .finite negative m e) : m < 2 ^ 24 ∧ e ≤ 104 := by
  have hfraction : bits % 2 ^ 23 < 2 ^ 23 := Nat.mod_lt _ (Nat.two_pow_pos _)
  have hfield : bits >>> 23 % 2 ^ 8 < 2 ^ 8 := Nat.mod_lt _ (Nat.two_pow_pos _)
  simp only [Format.decode, Format.fractionWidth, Format.topField, Format.leastExponent, single,
    Nat.one_shiftLeft, Nat.reduceAdd, Nat.reduceSub] at hfinite
  split at hfinite
  · split at hfinite <;> cases hfinite
  split at hfinite
  · cases hfinite
    exact ⟨by omega, by decide⟩
  · cases hfinite
    exact ⟨by omega, by omega⟩

/-- The pattern of a normal magnitude. -/
theorem decode_normal {field fraction : Nat} (hfield : 0 < field ∧ field < 255)
    (hfraction : fraction < 2 ^ 23) :
    single.decode (field * 2 ^ 23 + fraction) =
      .finite false (2 ^ 23 + fraction) (field - 150) := by
  have hquotient : (field * 2 ^ 23 + fraction) >>> 23 % 2 ^ 8 = field := by
    rw [Nat.shiftRight_eq_div_pow]
    omega
  have hremainder : (field * 2 ^ 23 + fraction) % 2 ^ 23 = fraction := by omega
  have hsign : (field * 2 ^ 23 + fraction).testBit 31 = false :=
    Nat.testBit_lt_two_pow (by omega)
  simp only [Format.decode, Format.fractionWidth, Format.topField, Format.leastExponent, single,
    Nat.one_shiftLeft, Nat.reduceAdd, Nat.reduceSub, hsign]
  rw [hquotient, hremainder, if_neg (by omega), if_neg (by omega)]
  congr 1
  omega

/-- A count that has no more digits than there are is not changed by rounding. -/
theorem roundMagnitude_of_dvd {n : Nat} (hpos : 0 < n) (hsmall : n.log2 < 128)
    (hdvd : 2 ^ (n.log2 - 23) ∣ n) :
    single.roundMagnitude n 0 = (n.log2 + 127) * 2 ^ 23 + (significand n - 2 ^ 23) := by
  have hbounds := significand_bounds hpos
  have hlength : bitLength n = n.log2 + 1 := if_neg (Nat.ne_of_gt hpos)
  have hexponent : max (-149 : Int) (0 + (n.log2 + 1 : Nat) - 24) = n.log2 - 23 := by omega
  have hsignificand : (if (n.log2 - 23 : Int) ≤ 0 then n <<< (0 - (n.log2 - 23 : Int)).toNat
      else roundHalfEven n ((n.log2 - 23 : Int) - 0).toNat) = significand n := by
    split
    · rename_i hshort
      have hshift : (0 - (n.log2 - 23 : Int)).toNat = 23 - n.log2 := by omega
      have hnone : n.log2 - 23 = 0 := by omega
      rw [hshift, Nat.shiftLeft_eq, significand, hnone, Nat.pow_zero, Nat.div_one]
    · rename_i hlong
      have hshift : ((n.log2 - 23 : Int) - 0).toNat = n.log2 - 23 := by omega
      have hnone : 23 - n.log2 = 0 := by omega
      rw [hshift, roundHalfEven_of_dvd hdvd, significand, hnone, Nat.pow_zero, Nat.mul_one]
  have hfield : ((n.log2 - 23 : Int) - -149).toNat = n.log2 + 126 := by omega
  have hleast : single.leastExponent = -149 := rfl
  have hinfinity : single.infinity = 255 * 2 ^ 23 := rfl
  have hwidth : single.fractionWidth = 23 := rfl
  have hprecision : (single.precision : Int) = 24 := rfl
  simp only [Format.roundMagnitude, hlength, hleast, hprecision, hexponent]
  rw [if_neg (Nat.ne_of_gt hpos), hsignificand, hfield, hinfinity, hwidth, Nat.shiftLeft_eq,
    Nat.min_eq_right (by omega)]
  omega

end Binary

namespace Single

theorem exact_of_le {n : Nat} (hle : n ≤ 2 ^ 24) : Exact n := by
  rcases Nat.lt_or_eq_of_le hle with hlt | rfl
  · exact ⟨n, 0, hlt, by decide, (Nat.mul_one n).symm⟩
  · exact ⟨1, 24, by decide, by decide, rfl⟩

/-- The digits of an exact count end where those of the format do. -/
theorem Exact.log2 {n : Nat} (h : Exact n) : n.log2 < 128 ∧ 2 ^ (n.log2 - 23) ∣ n := by
  obtain ⟨m, e, hm, he, rfl⟩ := h
  rcases Nat.eq_zero_or_pos m with rfl | hpos
  · simp
  have hlog : (m * 2 ^ e).log2 = m.log2 + e := by
    rw [Nat.log2_eq_iff (Nat.ne_of_gt (Nat.mul_pos hpos (Nat.two_pow_pos e))), Nat.pow_add,
      Nat.add_right_comm, Nat.pow_add]
    exact ⟨Nat.mul_le_mul_right _ (Nat.log2_self_le (Nat.ne_of_gt hpos)),
      Nat.mul_lt_mul_of_pos_right Nat.lt_log2_self (Nat.two_pow_pos e)⟩
  have hdigits : m.log2 < 24 := (Nat.log2_lt (Nat.ne_of_gt hpos)).mpr hm
  rw [hlog]
  exact ⟨by omega, Nat.dvd_mul_left_of_dvd (Nat.pow_dvd_pow 2 (by omega)) m⟩

/-- No component stands for a count that is not exact. -/
theorem exact_of_toNat? {x : Single} {n : Nat} (hread : x.toNat? = some n) : Exact n := by
  unfold toNat? at hread
  split at hread
  · rename_i m e hdatum
    obtain ⟨hm, he⟩ := single_decode_bounds hdatum
    split at hread
    · obtain rfl := Option.some.inj hread
      exact ⟨m, e.toNat, hm, by omega, Nat.shiftLeft_eq _ _⟩
    · split at hread
      · obtain rfl := Option.some.inj hread
        have hle : m >>> (-e).toNat ≤ m := by
          rw [Nat.shiftRight_eq_div_pow]
          exact Nat.div_le_self _ _
        exact ⟨_, 0, Nat.lt_of_le_of_lt hle hm, by decide, (Nat.mul_one _).symm⟩
      · cases hread
  · cases hread

/-- What a component made from an exact count stands for. -/
theorem datum_ofNat {n : Nat} (hpos : 0 < n) (h : Exact n) :
    (ofNat n).datum = .finite false (significand n) (n.log2 - 23) := by
  obtain ⟨hsmall, hdvd⟩ := h.log2
  have hbounds := significand_bounds hpos
  have hround : single.round false n 0 =
      (n.log2 + 127) * 2 ^ 23 + (significand n - 2 ^ 23) := by
    rw [Format.round, roundMagnitude_of_dvd hpos hsmall hdvd]
    exact Nat.zero_add _
  have hbits : (ofNat n).bits.toNat = (n.log2 + 127) * 2 ^ 23 + (significand n - 2 ^ 23) := by
    rw [ofNat, ofBits, hround, UInt32.toNat_ofNat_of_lt' (by change _ < 2 ^ 32; omega)]
  have hsignificand : 2 ^ 23 + (significand n - 2 ^ 23) = significand n := by omega
  have hexponent : ((n.log2 + 127 : Nat) : Int) - 150 = n.log2 - 23 := by omega
  rw [datum, hbits, decode_normal (by omega) (by omega), hsignificand, hexponent]

/-- An exact count can be read back. -/
theorem toNat?_ofNat {n : Nat} (h : Exact n) : (ofNat n).toNat? = some n := by
  rcases Nat.eq_zero_or_pos n with rfl | hpos
  · decide
  have hmul := significand_mul h.log2.2
  simp only [toNat?, datum_ofNat hpos h]
  split
  · rename_i hlong
    have hshift : ((n.log2 : Int) - 23).toNat = n.log2 - 23 := by omega
    have hnone : 23 - n.log2 = 0 := by omega
    rw [hnone, Nat.pow_zero, Nat.mul_one] at hmul
    rw [hshift, Nat.shiftLeft_eq, hmul]
  · rename_i hshort
    have hshift : (-((n.log2 : Int) - 23)).toNat = 23 - n.log2 := by omega
    have hnone : n.log2 - 23 = 0 := by omega
    rw [hnone, Nat.pow_zero, Nat.mul_one] at hmul
    rw [hshift, Nat.one_shiftLeft, hmul, Nat.mul_mod_left, if_pos rfl, Nat.shiftRight_eq_div_pow,
      Nat.mul_div_cancel _ (Nat.two_pow_pos _)]

/-- A component made from a count stands for the count just when that is exact. -/
theorem toNat?_ofNat_eq_some_iff {n : Nat} : (ofNat n).toNat? = some n ↔ Exact n :=
  ⟨exact_of_toNat?, toNat?_ofNat⟩

end Single

end FramesInFlight

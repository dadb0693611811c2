import Mathlib.Tactic.Common
import Markbook.Decimal.Binary

/-!
# Doubles that are numbers

A double is finite unless all bits of its exponent are set, which is how `Double.ofFloat` tells the
infinities and NaN apart from the numbers.  Finite doubles are ordered like the numbers they stand
for; here it matters only that one of two is the greater.

* `isFinite_iff_ofFloat` — the finite doubles are those with a significand and an exponent.
* `pos_of_not_le` — a finite double that is not at most zero is greater than zero.
-/

namespace Markbook

open Float.Model

variable {x : Float}

/-! ## Bit patterns -/

/-- The exponent of all ones belongs to what is not a number. -/
lemma isFinite_unpack (b : BitVec Format.binary64.numBits) :
    (UnpackedFloat.unpack .binary64 b).isFinite = true ↔ UnpackedFloat.unpackExponent b ≠ -1#_ := by
  delta UnpackedFloat.unpack
  dsimp only
  by_cases hones : UnpackedFloat.unpackExponent b = -1#_
  · rw [if_pos hones]
    by_cases hinfinity : UnpackedFloat.unpackMantissa b = 0#_
    · rw [if_pos hinfinity]
      exact ⟨fun h => Bool.noConfusion h, fun h => absurd hones h⟩
    · rw [if_neg hinfinity]
      exact ⟨fun h => Bool.noConfusion h, fun h => absurd hones h⟩
  · rw [if_neg hones]
    refine ⟨fun _ => hones, fun _ => ?_⟩
    by_cases hsmall : UnpackedFloat.unpackExponent b = 0#_
    · rw [if_pos hsmall]
      by_cases hzero : UnpackedFloat.unpackMantissa b = 0#_
      · rw [dif_pos hzero]
        rfl
      · rw [dif_neg hzero]
        rfl
    · rw [if_neg hsmall]
      rfl

lemma toNat_unpackExponent (b : BitVec Format.binary64.numBits) :
    (UnpackedFloat.unpackExponent b).toNat = b.toNat / Nat.pow 2 52 % Nat.pow 2 11 := by
  simp [UnpackedFloat.unpackExponent, Nat.shiftRight_eq_div_pow]

lemma isFinite_iff_biased :
    x.isFinite = true ↔ x.toBits.toNat / Nat.pow 2 52 % Nat.pow 2 11 ≠ 2047 := by
  have hones (b : BitVec Format.binary64.numBits) : UnpackedFloat.unpackExponent b = -1#_ ↔
      b.toNat / Nat.pow 2 52 % Nat.pow 2 11 = 2047 := by
    rw [← toNat_unpackExponent, ← BitVec.toNat_inj]
    rfl
  exact (isFinite_unpack x.toModel.toBits.toBitVec).trans (not_congr (hones _))

/-- **The finite doubles are those with a significand and an exponent.** -/
theorem isFinite_iff_ofFloat : x.isFinite = true ↔
    ∃ negative significand exponent,
      Double.ofFloat x = .finite negative significand exponent := by
  rw [isFinite_iff_biased, Double.ofFloat]
  split_ifs with hones hfraction hzero <;> simp [hones]

/-! ## Order -/

lemma unpack_zero : (0 : Float).toModel.unpack = .zero .positive := rfl

/-- A finite double that is not at most zero is greater than zero. -/
theorem pos_of_not_le (hfinite : x.isFinite = true) (h : ¬ x ≤ 0) : 0 < x := by
  have hle : ¬ x.toModel.unpack.le (0 : Float).toModel.unpack = true :=
    fun hle => h (decide_eq_true hle)
  change x.toModel.unpack.isFinite = true at hfinite
  refine decide_eq_true (show (0 : Float).toModel.unpack.lt x.toModel.unpack = true from ?_)
  rw [unpack_zero] at hle ⊢
  cases hx : x.toModel.unpack with
  | notANumber =>
      rw [hx] at hfinite
      cases hfinite
  | infinity s =>
      rw [hx] at hfinite
      cases hfinite
  | zero s =>
      rw [hx] at hle
      exact absurd rfl hle
  | finite s m e hm =>
      rw [hx] at hle
      cases s with
      | positive => rfl
      | negative => exact absurd rfl hle

end Markbook

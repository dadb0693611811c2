import Markbook.Proofs.Decimal.Sign

/-!
# Sums of positive doubles

A sum of doubles that are greater than zero is greater than zero.  Rounding cannot undo this: it
drops no more bits than there are beyond the length of a significand, and where nothing is dropped
nothing is lost.  A sum that is too great becomes infinite, which is still greater than zero.

* `IsPositive` — the doubles greater than zero, as the arithmetic sees them.
* `IsPositive.add`, `IsPositive.unpack_pack` — adding and storing them.
* `pos_add`, `pos_zero_add` — **positive sums**.
-/

namespace Markbook

open Float.Model

/-- A double greater than zero, with an exponent and a significand that can be stored. -/
inductive IsPositive : UnpackedFloat → Prop
  | infinity : IsPositive (.infinity .positive)
  | finite {m e h} : Double.lowestExponent ≤ e → m.log2 < 53 → IsPositive (.finite .positive m e h)

namespace IsPositive

open UnpackedFloat

/-! ## Rounding -/

lemma mantissa_shiftRight (em : ExtendedMantissa) (n : Nat) :
    (em >>> n).mantissa = em.mantissa >>> n := by
  change (n.repeat ExtendedMantissa.shiftRightOne em).mantissa = _
  induction n with
  | zero => rfl
  | succ n ih => rw [Nat.repeat, ExtendedMantissa.shiftRightOne, ih, Nat.shiftRight_succ]

lemma le_roundedMantissa (em : ExtendedMantissa) : em.mantissa ≤ em.roundedMantissa := by
  obtain ⟨m, roundBit, stickyBit⟩ := em
  cases roundBit <;> cases stickyBit
  · exact Nat.le_refl m
  · exact Nat.le_refl m
  · exact Nat.le_add_right m _
  · exact Nat.le_add_right m 1

/-- **Shifting a significand to its length leaves something of it.**  A significand that is shifted
at all for its length keeps all its fifty-three bits, and from an exponent that can be stored there
is no other reason to shift. -/
lemma shiftToTargetExponent {m : Nat} {e : Int} (hm : 0 < m) (he : Double.lowestExponent ≤ e) :
    let shifted := UnpackedFloat.shiftToTargetExponent .binary64 m e .exact
    0 < shifted.1.mantissa ∧ shifted.1.mantissa.log2 < 53 ∧
      Double.lowestExponent ≤ shifted.2 := by
  have htarget : Format.binary64.targetExponent (totalExponent m e) =
      max (m.log2 - 52 + e) Double.lowestExponent := by
    change max ((m.log2 + 1 + e : Int) - 53) (-1074) = max (m.log2 - 52 + e) (-1074)
    omega
  simp only [UnpackedFloat.shiftToTargetExponent, shiftToExponent, mantissa_shiftRight,
    ExtendedMantissa.ofMantissaAndAccuracy, htarget]
  rw [Double.lowestExponent] at he ⊢
  generalize hn : (max (m.log2 - 52 + e) (-1074) - e).toNat = n
  have hfirst : 2 ^ m.log2 ≤ m := Nat.log2_self_le (Nat.ne_of_gt hm)
  have hpos : 0 < m >>> n := by
    rw [Nat.shiftRight_eq_div_pow]
    exact Nat.div_pos (Nat.le_trans (Nat.pow_le_pow_right (by decide) (by omega)) hfirst)
      (Nat.two_pow_pos n)
  refine ⟨hpos, (Nat.log2_lt (Nat.ne_of_gt hpos)).mpr ?_, by omega⟩
  rw [Nat.shiftRight_eq_div_pow, Nat.div_lt_iff_lt_mul (Nat.two_pow_pos n), ← Nat.pow_add]
  exact Nat.lt_of_lt_of_le Nat.lt_log2_self (Nat.pow_le_pow_right (by decide) (by omega))

/-- Rounding shifts twice, as it may have made the significand longer by one bit. -/
lemma roundWithAccuracy {m : Nat} {e : Int} (hm : 0 < m) (he : Double.lowestExponent ≤ e) :
    IsPositive (UnpackedFloat.roundWithAccuracy .binary64 .positive m e .exact) := by
  obtain ⟨hfirst, _, hexponent⟩ := shiftToTargetExponent hm he
  obtain ⟨hlast, hlength, hexponent⟩ := shiftToTargetExponent
    (Nat.lt_of_lt_of_le hfirst (le_roundedMantissa _)) hexponent
  delta UnpackedFloat.roundWithAccuracy
  dsimp only
  rw [dif_neg (Nat.ne_of_gt hlast)]
  exact .finite hexponent hlength

lemma round {m : Nat} {e : Int} (hm : 0 < m) (he : Double.lowestExponent ≤ e) :
    IsPositive (UnpackedFloat.round .binary64 .positive m e) := by
  have htarget : Double.lowestExponent ≤ Format.binary64.targetExponent (totalExponent m e) :=
    Int.le_max_right _ _
  delta UnpackedFloat.round
  simp only [decreaseExponent, Nat.shiftLeft_eq]
  exact roundWithAccuracy (Nat.mul_pos hm (Nat.two_pow_pos _)) (by omega)

lemma normalize {m e : Int} (hm : 0 < m) (he : Double.lowestExponent ≤ e) :
    IsPositive (UnpackedFloat.normalize .binary64 m e .positive) := by
  rw [UnpackedFloat.normalize, Int.compare_eq_gt.mpr hm]
  exact round (by omega) he

lemma add {x y : UnpackedFloat} (hx : IsPositive x) (hy : IsPositive y) :
    IsPositive (UnpackedFloat.add .binary64 x y) := by
  cases hx with
  | infinity => cases hy <;> exact .infinity
  | @finite m e hm he _ =>
      cases hy with
      | infinity => exact .infinity
      | @finite m' e' _ he' _ =>
          have hpositive : 0 < (decreaseExponent m e (min e e')).1 := by
            rw [decreaseExponent, Nat.shiftLeft_eq]
            exact Nat.mul_pos hm (Nat.two_pow_pos _)
          change IsPositive (UnpackedFloat.normalize .binary64
            ((decreaseExponent m e (min e e')).1 + (decreaseExponent m' e' (min e e')).1)
            (min e e') .positive)
          exact normalize (by omega) (Int.le_min.mpr ⟨he, he'⟩)

/-! ## Storing -/

/-- A stored double with the sign plus is greater than zero unless all its other bits are clear. -/
lemma lt_unpack {b : BitVec Format.binary64.numBits} (hsign : unpackSign b = 0#1)
    (hfinite : unpackExponent b ≠ -1#_) (hclear : unpackExponent b = 0#_ → unpackMantissa b ≠ 0#_) :
    (UnpackedFloat.zero .positive).lt (unpack .binary64 b) = true := by
  delta UnpackedFloat.unpack
  dsimp only
  rw [hsign, if_neg hfinite]
  by_cases hzero : unpackExponent b = 0#_
  · rw [if_pos hzero, dif_neg (hclear hzero)]
    rfl
  · rw [if_neg hzero]
    rfl

lemma lt_unpack_packComponents {e : BitVec Format.binary64.exponentBits}
    {m : BitVec Format.binary64.mantissaBitsWithoutImplicit} (hfinite : e ≠ -1#_)
    (hclear : e = 0#_ → m ≠ 0#_) :
    (UnpackedFloat.zero .positive).lt
      (unpack .binary64 (packComponents .binary64 .positive e m)) = true := by
  refine lt_unpack (unpackSign_of_lt (toNat_packComponents e m)) ?_ ?_
  · rwa [unpackExponent_packComponents]
  · rwa [unpackExponent_packComponents, unpackMantissa_packComponents]

lemma lt {x : UnpackedFloat} (h : IsPositive x) : (UnpackedFloat.zero .positive).lt x = true := by
  cases h with
  | infinity => rfl
  | finite => rfl

lemma of_finite_lt {s : Sign} {m : Nat} {e : Int} {hm : 0 < m} (he : Double.lowestExponent ≤ e)
    (hlength : m.log2 < 53) (h : (UnpackedFloat.zero .positive).lt (.finite s m e hm) = true) :
    IsPositive (.finite s m e hm) := by
  cases s with
  | positive => exact .finite he hlength
  | negative => exact Bool.noConfusion h

/-- A stored double that is greater than zero has an exponent and a significand in range. -/
lemma of_lt {b : BitVec Format.binary64.numBits}
    (h : (UnpackedFloat.zero .positive).lt (unpack .binary64 b) = true) :
    IsPositive (unpack .binary64 b) := by
  have hmantissa : (unpackMantissa b).toNat < 2 ^ 52 := (unpackMantissa b).isLt
  have hlength : ∀ {m : Nat}, m < 2 ^ 53 → m.log2 < 53 := by
    intro m hm
    rcases Nat.eq_zero_or_pos m with rfl | hpos
    · decide
    · exact (Nat.log2_lt (Nat.ne_of_gt hpos)).mpr hm
  revert h
  delta UnpackedFloat.unpack
  dsimp only
  by_cases hones : unpackExponent b = -1#_
  · rw [if_pos hones]
    by_cases hinfinity : unpackMantissa b = 0#_
    · rw [if_pos hinfinity]
      cases Sign.ofBitVec (unpackSign b) with
      | positive => exact fun _ => .infinity
      | negative => exact fun h => Bool.noConfusion h
    · rw [if_neg hinfinity]
      exact fun h => Bool.noConfusion h
  rw [if_neg hones]
  by_cases hsmall : unpackExponent b = 0#_
  · rw [if_pos hsmall]
    by_cases hzero : unpackMantissa b = 0#_
    · rw [dif_pos hzero]
      exact fun h => Bool.noConfusion h
    · rw [dif_neg hzero]
      refine of_finite_lt ?_ (hlength (by omega))
      rw [hsmall]
      decide
  · rw [if_neg hsmall]
    have hexponent : (unpackExponent b).toNat ≠ 0 := fun h => hsmall (BitVec.toNat_inj.mp h)
    refine of_finite_lt ?_ (hlength (BitVec.isLt _))
    simp only [Format.exponentBias, Double.lowestExponent]
    omega

/-- How a double greater than zero is stored, given what would be its exponent field. -/
lemma pack_finite {m : Nat} {e : Int} {hm : 0 < m} {field : Nat} (hfield : e + 1075 = field) :
    pack .binary64 (.finite .positive m e hm) =
      if 2048 ≤ field + 1 then packedInfinity .binary64 .positive
      else if m.log2 + 1 = 53 then
        packComponents .binary64 .positive (.ofNat 11 field) (.ofNat 52 m)
      else packComponents .binary64 .positive 0#11 (.ofNat 52 m) := by
  obtain rfl : (e + Format.binary64.exponentBias + 52).toNat = field := by
    simp only [Format.exponentBias]
    omega
  rfl

/-- **Storing a positive double keeps it positive**, if only as infinity. -/
lemma unpack_pack {x : UnpackedFloat} (h : IsPositive x) :
    IsPositive (unpack .binary64 (pack .binary64 x)) := by
  have hinfinity : (UnpackedFloat.zero .positive).lt
      (unpack .binary64 (packedInfinity .binary64 .positive)) = true := by decide +kernel
  refine of_lt ?_
  cases h with
  | infinity => exact hinfinity
  | @finite m e hm he hlength =>
      rw [Double.lowestExponent] at he
      obtain ⟨field, hfield⟩ := Int.eq_ofNat_of_zero_le (a := e + 1075) (by omega)
      rw [pack_finite hfield]
      split_ifs with hgreat hlong
      · exact hinfinity
      · -- a significand of full length: the exponent field is neither all ones nor zero
        have hnat : (BitVec.ofNat 11 field).toNat = field := by
          rw [BitVec.toNat_ofNat, Nat.mod_eq_of_lt (by omega)]
        refine lt_unpack_packComponents (fun hones => ?_) (fun hzero => ?_)
        · have hlast : field = 2047 := hnat.symm.trans (congrArg BitVec.toNat hones)
          omega
        · have hfirst : field = 0 := hnat.symm.trans (congrArg BitVec.toNat hzero)
          omega
      · -- a shorter one: the exponent field is zero, but the significand is not
        have hshort : m < 2 ^ 52 := (Nat.log2_lt (Nat.ne_of_gt hm)).mp (by omega)
        refine lt_unpack_packComponents (by decide) (fun _ hzero => Nat.ne_of_gt hm ?_)
        exact (Nat.mod_eq_of_lt hshort).symm.trans (congrArg BitVec.toNat hzero)

end IsPositive

/-! ## Sums -/

lemma pos_iff_isPositive {x : Float} : 0 < x ↔ IsPositive x.toModel.unpack := by
  have hlt : 0 < x ↔ (UnpackedFloat.zero .positive).lt x.toModel.unpack = true := by
    rw [← unpack_zero]
    exact decide_eq_true_iff
  exact hlt.trans ⟨IsPositive.of_lt, IsPositive.lt⟩

/-- **The sum of two positive doubles is positive.** -/
theorem pos_add {x y : Float} (hx : 0 < x) (hy : 0 < y) : 0 < x + y := by
  rw [pos_iff_isPositive] at hx hy ⊢
  exact (hx.add hy).unpack_pack

/-- A sum that starts from zero with a positive double is positive. -/
theorem pos_zero_add {x : Float} (hx : 0 < x) : 0 < 0 + x := by
  rw [pos_iff_isPositive] at hx ⊢
  have hsum : IsPositive (UnpackedFloat.add .binary64 (.zero .positive) x.toModel.unpack) := by
    generalize x.toModel.unpack = y at hx
    cases hx with
    | infinity => exact .infinity
    | finite he hm => exact .finite he hm
  exact hsum.unpack_pack

end Markbook

import Markbook.Proofs.Decimal.Binary
import Markbook.Proofs.Decimal.Score

/-!
# Numbers without a sign

What is read from digits has no minus: products and quotients of positive doubles are positive, and
rounding keeps the sign.  So a finite number that was read from digits is written with digits again,
and no sign comes in front.

* `IsUnsigned` — the doubles with the sign plus, as the arithmetic sees them.
* `SignClear` — the same for the bit pattern.
* `signClear_toFloat` — **a decimal gives a double without a minus**.
* `numeral_of_signClear` — the text of such a double.
-/

namespace Markbook

open Float.Model

/-! ## Arithmetic -/

/-- A double with the sign plus; NaN has no sign. -/
inductive IsUnsigned : UnpackedFloat → Prop
  | notANumber : IsUnsigned .notANumber
  | infinity : IsUnsigned (.infinity .positive)
  | zero : IsUnsigned (.zero .positive)
  | finite {m e h} : IsUnsigned (.finite .positive m e h)

namespace IsUnsigned

variable {spec : Format} {x y : UnpackedFloat}

lemma ite {p : Prop} [Decidable p] (hx : IsUnsigned x) (hy : IsUnsigned y) :
    IsUnsigned (if p then x else y) := by
  split
  · exact hx
  · exact hy

lemma dite {p : Prop} [Decidable p] {f : p → UnpackedFloat} {g : ¬ p → UnpackedFloat}
    (hf : ∀ h, IsUnsigned (f h)) (hg : ∀ h, IsUnsigned (g h)) :
    IsUnsigned (if h : p then f h else g h) := by
  split
  · exact hf _
  · exact hg _

lemma roundWithAccuracy (m : Nat) (e : Int) (accuracy : UnpackedFloat.Accuracy) :
    IsUnsigned (UnpackedFloat.roundWithAccuracy spec .positive m e accuracy) := by
  delta UnpackedFloat.roundWithAccuracy
  exact dite (fun _ => .zero) fun _ => .finite

lemma mul (hx : IsUnsigned x) (hy : IsUnsigned y) : IsUnsigned (UnpackedFloat.mul spec x y) := by
  cases hx with
  | notANumber => exact .notANumber
  | infinity => cases hy <;> constructor
  | zero => cases hy <;> constructor
  | finite =>
      cases hy with
      | finite => exact roundWithAccuracy _ _ _
      | _ => constructor

lemma div (hx : IsUnsigned x) (hy : IsUnsigned y) : IsUnsigned (UnpackedFloat.div spec x y) := by
  cases hx with
  | notANumber => exact .notANumber
  | infinity => cases hy <;> constructor
  | zero => cases hy <;> constructor
  | finite =>
      cases hy with
      | finite => exact roundWithAccuracy _ _ _
      | _ => constructor

lemma ofNat (n : Nat) : IsUnsigned (UnpackedFloat.ofNat spec n) := by
  simp only [UnpackedFloat.ofNat, UnpackedFloat.ofInt, UnpackedFloat.normalize]
  cases hsign : compare (n : Int) 0 with
  | lt => exact absurd (Int.compare_eq_lt.mp hsign) (by omega)
  | eq => exact .zero
  | gt => exact roundWithAccuracy _ _ _

lemma ofScientific (m : Nat) (e : Int) : IsUnsigned (UnpackedFloat.ofScientific spec m e) := by
  delta UnpackedFloat.ofScientific
  exact dite (fun _ => .zero) fun _ =>
    ite .infinity (ite .zero (ite (mul .finite .finite) (div .finite .finite)))

end IsUnsigned

/-! ## Bit patterns -/

lemma toNat_packComponents (e : BitVec Format.binary64.exponentBits)
    (m : BitVec Format.binary64.mantissaBitsWithoutImplicit) :
    (UnpackedFloat.packComponents .binary64 .positive e m).toNat < Nat.pow 2 63 := by
  have he : e.toNat < 2 ^ 11 := e.isLt
  have hm : m.toNat < 2 ^ 52 := m.isLt
  simp only [UnpackedFloat.packComponents, UnpackedFloat.Sign.toBitVec, BitVec.toNat_append,
    BitVec.toNat_ofNat, Nat.zero_mod, Nat.zero_shiftLeft, Nat.zero_or]
  refine Nat.or_lt_two_pow ?_ (by omega)
  rw [Nat.shiftLeft_eq]
  omega

lemma IsUnsigned.toNat_pack {x : UnpackedFloat} (h : IsUnsigned x) :
    (UnpackedFloat.pack .binary64 x).toNat < Nat.pow 2 63 := by
  cases h with
  | notANumber => exact toNat_packComponents _ _
  | infinity => exact toNat_packComponents _ _
  | zero => exact toNat_packComponents _ _
  | finite =>
      delta UnpackedFloat.pack
      dsimp only
      split_ifs <;> exact toNat_packComponents _ _

/-- A bit pattern with the first bit clear has the sign plus. -/
lemma unpackSign_of_lt {b : BitVec Format.binary64.numBits} (h : b.toNat < Nat.pow 2 63) :
    UnpackedFloat.unpackSign b = 0#1 := by
  have hbound : b.toNat < 0x8000000000000000 := h
  rw [← BitVec.toNat_inj]
  delta UnpackedFloat.unpackSign
  simp [Nat.shiftRight_eq_div_pow]
  omega

lemma IsUnsigned.unpack {b : BitVec Format.binary64.numBits} (h : b.toNat < Nat.pow 2 63) :
    IsUnsigned (UnpackedFloat.unpack .binary64 b) := by
  delta UnpackedFloat.unpack
  dsimp only
  rw [unpackSign_of_lt h]
  exact .ite (.ite .infinity .notANumber) (.ite (.dite (fun _ => .zero) fun _ => .finite) .finite)

/-- The sign bit of a double is clear. -/
def SignClear (x : Float) : Prop :=
  x.toBits.toNat < Nat.pow 2 63

instance (x : Float) : Decidable (SignClear x) :=
  inferInstanceAs (Decidable (_ < _))

lemma signClear_ofModel {x : UnpackedFloat} (h : IsUnsigned x) :
    SignClear (.ofModel (.pack x)) :=
  h.toNat_pack

lemma SignClear.isUnsigned {x : Float} (h : SignClear x) : IsUnsigned x.toModel.unpack :=
  .unpack h

lemma signClear_powersOfTen :
    ∀ x ∈ Float.exactlyRepresentablePowersOfTen.toList, SignClear x := by
  decide +kernel

lemma signClear_ofScientific (m : Nat) (s : Bool) (e : Nat) :
    SignClear (Float.ofScientific m s e) := by
  rw [Float.ofScientific]
  have hwhole : SignClear m.toUInt64.toFloat := signClear_ofModel (.ofNat _)
  have hpower (h : e < Float.exactlyRepresentablePowersOfTen.size) :
      SignClear Float.exactlyRepresentablePowersOfTen[e] :=
    signClear_powersOfTen _ (Array.getElem_mem_toList h)
  split_ifs with hexact hnegative
  · exact signClear_ofModel (hwhole.isUnsigned.div (hpower _).isUnsigned)
  · exact signClear_ofModel (hwhole.isUnsigned.mul (hpower _).isUnsigned)
  · exact signClear_ofModel (.ofScientific _ _)
  · exact signClear_ofModel (.ofScientific _ _)

/-- **A decimal gives a double without a minus.** -/
theorem signClear_toFloat (d : Decimal) : SignClear d.toFloat := by
  rw [Decimal.toFloat]
  dsimp only
  split_ifs
  · decide +kernel
  · decide +kernel
  · decide +kernel
  · exact signClear_ofScientific _ _ _

/-! ## The text of a double without a minus -/

/-- **The text of a finite double without a minus** is a number as it stands in a formula; where the
text reads back, that number has the value of the double. -/
theorem numeral_of_signClear {x : Float} (hfinite : x.isFinite = true) (hclear : SignClear x)
    (hback : readScore? (printScore x) = some x) :
    (∀ c ∈ (printScore x).toList, isNumberChar c = true) ∧
      ∃ n, readNumeral? (printScore x).toList = some n ∧ n.toDecimal.toFloat = x := by
  obtain ⟨negative, significand, exponent, hdouble⟩ := isFinite_iff_ofFloat.mp hfinite
  have hsign : negative = false := by
    have hbit : (x.toBits.toNat / Nat.pow 2 63 == 1) = false := by
      rw [Nat.div_eq_of_lt hclear]
      rfl
    simp only [Double.ofFloat, hbit] at hdouble
    split_ifs at hdouble <;> cases hdouble <;> rfl
  subst hsign
  have htext : printScore x = String.ofList
      ((Layout.plain.numeral significand exponent).chars Layout.plain.plusSign) := by
    rw [printScore, Layout.print, hdouble]
    rfl
  have hchars : ∀ c ∈ (printScore x).toList, isNumberChar c = true := by
    rw [htext, String.toList_ofList]
    exact isNumberChar_of_mem_chars
  refine ⟨hchars, ?_⟩
  rw [← String.ofList_toList (s := printScore x), readScore?_number hchars] at hback
  exact Option.map_eq_some_iff.mp hback

end Markbook

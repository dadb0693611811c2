import Mathlib.Tactic.Common
import Markbook.Decimal.Layout
import Markbook.Decimal.Reader
import Markbook.Formula.Token

/-!
# The text of a score

A finite score is written with digits and at most a point, behind a minus where it is negative.  So
what stands behind the sign is a number as it may stand in a formula.

That the text reads back as the score it came from is a property of printing the shortest decimal
and of reading the nearest double; where it is needed it is assumed of the scores at hand.

* `isNumberChar_of_mem_chars` — what a score is written with.
* `numeral_of_printScore` — the text of a score that reads back.
-/

namespace Markbook

/-! ## Digits -/

lemma isNumberChar_of_isDigit {c : Char} (h : c.isDigit = true) : isNumberChar c = true := by
  simp [isNumberChar, h]

lemma isDigit_of_mem_digitsOf {n : Nat} {c : Char} (h : c ∈ digitsOf n) : c.isDigit = true :=
  Nat.isDigit_of_mem_toDigits (by decide) (by decide) h

/-- The numeral has digits before and behind its point, and no exponent. -/
structure Numeral.Positional (n : Numeral) : Prop where
  whole : ∀ c ∈ n.whole, c.isDigit = true
  fraction : ∀ c ∈ n.fraction, c.isDigit = true
  exponent : n.exponent = 0

/-- Placing a point among digits gives such a numeral, also where zeros fill the places in
between. -/
lemma positional_placePoint {digits : List Char} (point : Int)
    (h : ∀ c ∈ digits, c.isDigit = true) : (Layout.placePoint false digits point).Positional := by
  have hzeros : ∀ {n : Nat} {c : Char}, c ∈ List.replicate n '0' → c.isDigit = true := by
    intro n c hc
    rw [List.eq_of_mem_replicate hc]
    decide
  rw [Layout.placePoint]
  split_ifs with hpoint
  · refine ⟨fun c hc => ?_, fun c hc => ?_, rfl⟩
    · rw [List.mem_singleton.mp hc]
      decide
    · rcases List.mem_append.mp hc with hc | hc
      · exact hzeros hc
      · exact h c hc
  · refine ⟨fun c hc => ?_, fun c hc => ?_, rfl⟩
    · rcases List.mem_append.mp (List.mem_of_mem_take hc) with hc | hc
      · exact h c hc
      · exact hzeros hc
    · have hdrop : c ∈ digits.drop point.toNat := by simpa using hc
      exact h c (List.mem_of_mem_drop hdrop)

lemma Numeral.Positional.isNumberChar {n : Numeral} (h : n.Positional) {plusSign : Bool} :
    ∀ c ∈ n.chars plusSign, isNumberChar c = true := by
  intro c hc
  simp only [Numeral.chars, Numeral.exponentChars, h.exponent, if_true, List.append_nil] at hc
  rcases List.mem_append.mp hc with hc | hc
  · exact isNumberChar_of_isDigit (h.whole c hc)
  · split_ifs at hc with hfraction
    · simp at hc
    · rcases List.mem_cons.mp hc with rfl | hc
      · decide
      · exact isNumberChar_of_isDigit (h.fraction c hc)

lemma isNumberChar_of_mem_chars {significand : Nat} {exponent : Int} :
    ∀ c ∈ (Layout.plain.numeral significand exponent).chars Layout.plain.plusSign,
      isNumberChar c = true := by
  rw [Layout.numeral, Layout.arrange,
    if_pos (Or.inr (show Layout.plain.positional _ = true from rfl))]
  exact (positional_placePoint _ fun c => isDigit_of_mem_digitsOf).isNumberChar

/-! ## Reading back -/

/-- A number has no letters, so no capitals. -/
lemma toLower_of_isNumberChar {c : Char} (h : isNumberChar c = true) : c.toLower = c := by
  refine dif_neg ?_
  rintro ⟨hlow, hhigh⟩
  simp only [isNumberChar, Char.isDigit, Bool.or_eq_true, Bool.and_eq_true, decide_eq_true_eq,
    beq_iff_eq] at h
  rcases h with ⟨_, hdigit⟩ | rfl
  · exact absurd (UInt32.le_trans hlow hdigit) (by decide)
  · exact absurd hlow (by decide)

/-- Digits and points do not spell the name of an infinity or of NaN, so they are read as a
number. -/
lemma readMagnitude?_of_isNumberChar {cs : List Char} (h : ∀ c ∈ cs, isNumberChar c = true) :
    readMagnitude? cs = (readNumeral? cs).map (·.toDecimal.toFloat) := by
  have hlower : cs.map Char.toLower = cs := by
    rw [List.map_congr_left fun c hc => toLower_of_isNumberChar (h c hc), List.map_id']
  have hname : ∀ name : String, (∃ c ∈ name.toList, isNumberChar c = false) →
      String.ofList cs ≠ name := by
    rintro name ⟨c, hc, hnot⟩ rfl
    rw [String.toList_ofList] at hc
    rw [h c hc] at hnot
    cases hnot
  have hinf := hname "inf" ⟨'i', by decide, by decide⟩
  have hinfinity := hname "infinity" ⟨'i', by decide, by decide⟩
  have hnan := hname "nan" ⟨'n', by decide, by decide⟩
  simp only [readMagnitude?, hlower, hinf, hinfinity, hnan, or_self, if_false]

lemma spanSign_of_isNumberChar {cs : List Char} (h : ∀ c ∈ cs, isNumberChar c = true) :
    spanSign cs = (false, cs) := by
  cases cs with
  | nil => rfl
  | cons c cs =>
      have hc := h c List.mem_cons_self
      unfold spanSign
      split
      · next heq =>
          rw [(List.cons.inj heq).1] at hc
          exact absurd hc (by decide)
      · next heq =>
          rw [(List.cons.inj heq).1] at hc
          exact absurd hc (by decide)
      · rfl

lemma readScore?_number {cs : List Char} (h : ∀ c ∈ cs, isNumberChar c = true) :
    readScore? (String.ofList cs) = (readNumeral? cs).map (·.toDecimal.toFloat) := by
  simp only [readScore?, String.toList_ofList, spanSign_of_isNumberChar h, Bool.false_eq_true,
    if_false, Option.map_id', readMagnitude?_of_isNumberChar h]

lemma readScore?_minus {cs : List Char} (h : ∀ c ∈ cs, isNumberChar c = true) :
    readScore? (String.ofList ('-' :: cs)) =
      (readNumeral? cs).map fun n => -n.toDecimal.toFloat := by
  simp only [readScore?, String.toList_ofList, spanSign, if_true,
    readMagnitude?_of_isNumberChar h, Option.map_map]
  rfl

/-- **The text of a finite score that reads back** is a number with the magnitude of the score,
behind a minus where the score is the opposite of the number. -/
theorem numeral_of_printScore {x : Float} (hfinite : x.isFinite = true)
    (hback : readScore? (printScore x) = some x) : ∃ ds n, (∀ c ∈ ds, isNumberChar c = true) ∧
      readNumeral? ds = some n ∧
      ((printScore x).toList = ds ∧ n.toDecimal.toFloat = x ∨
        (printScore x).toList = '-' :: ds ∧ -n.toDecimal.toFloat = x) := by
  -- the texts of what is not finite read as something that is not finite
  have hother : ∀ y, readScore? (printScore x) = some y → y.isFinite = false → False := by
    intro y hy hnot
    obtain rfl : x = y := Option.some.inj (hback.symm.trans hy)
    rw [hfinite] at hnot
    cases hnot
  cases hdouble : Double.ofFloat x with
  | nan =>
      have htext : printScore x = "NaN" := by rw [printScore, Layout.print, hdouble]
      exact (hother notANumber (by rw [htext]; rfl) (by decide +kernel)).elim
  | infinite negative =>
      have htext : printScore x = if negative then "-inf" else "inf" := by
        rw [printScore, Layout.print, hdouble]
      cases negative with
      | true => exact (hother (-infinity) (by rw [htext]; rfl) (by decide +kernel)).elim
      | false => exact (hother infinity (by rw [htext]; rfl) (by decide +kernel)).elim
  | finite negative significand exponent =>
      have hds : ∀ c ∈ (Layout.plain.numeral significand exponent).chars Layout.plain.plusSign,
          isNumberChar c = true := isNumberChar_of_mem_chars
      have htext : printScore x = String.ofList (if negative then
          '-' :: (Layout.plain.numeral significand exponent).chars Layout.plain.plusSign
          else (Layout.plain.numeral significand exponent).chars Layout.plain.plusSign) := by
        rw [printScore, Layout.print, hdouble]
      generalize (Layout.plain.numeral significand exponent).chars Layout.plain.plusSign = ds
        at htext hds
      rw [htext] at hback ⊢
      cases negative with
      | true =>
          rw [if_pos rfl, readScore?_minus hds] at hback
          obtain ⟨n, hn, hx⟩ := Option.map_eq_some_iff.mp hback
          exact ⟨ds, n, hds, hn, Or.inr ⟨String.toList_ofList, hx⟩⟩
      | false =>
          rw [if_neg Bool.false_ne_true, readScore?_number hds] at hback
          obtain ⟨n, hn, hx⟩ := Option.map_eq_some_iff.mp hback
          exact ⟨ds, n, hds, hn, Or.inl ⟨String.toList_ofList, hx⟩⟩

end Markbook

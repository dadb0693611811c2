import Markbook.Proofs.Decimal.Score

/-!
# Numerals without needless zeros

Scores are written without needless zeros in front, under every layout.  This rests on the digits of
the shortest decimal: they are the digits of a natural number, and that number is zero for the score
zero only, as no other score has zero among the reals that round to it.

* `shortest_digits_eq_zero` — which scores have no digits but zero.
* `Numeral.Canonical` — what a JSON number looks like before its exponent.
* `canonical_numeral` — scores are written so.
-/

namespace Markbook

/-! ## Digits of a natural number -/

lemma readDigits_digitsOf (n : Nat) : readDigits (digitsOf n) = n :=
  Nat.ofDigitChars_ten_toDigits

lemma digitsOf_ne_nil (n : Nat) : digitsOf n ≠ [] :=
  Nat.toDigits_ne_nil

/-- The first digit of a number is zero for the number zero only. -/
lemma head?_digitsOf {n : Nat} (hn : n ≠ 0) : (digitsOf n).head? ≠ some '0' := by
  induction n using Nat.strongRecOn with
  | ind n ih =>
      by_cases hsmall : n < 10
      · have hall : ∀ n < 10, n ≠ 0 → (digitsOf n).head? ≠ some '0' := by decide
        exact hall n hsmall hn
      · have hhead : (digitsOf n).head? = (digitsOf (n / 10)).head? := by
          rw [digitsOf, Nat.toDigits_of_base_le (by decide) (by omega), ← digitsOf]
          cases hdigits : digitsOf (n / 10) with
          | nil => exact absurd hdigits (digitsOf_ne_nil _)
          | cons c cs => rfl
        rw [hhead]
        exact ih (n / 10) (by omega) (by omega)

/-! ## The shortest decimal -/

namespace Interval

/-- Zero lies outside an interval of positive numbers. -/
lemma holds_zero {i : Interval} (h : 0 < i.low) : i.holds 0 = false := by
  have hlow : i.low ≠ 0 := by omega
  cases hclosed : i.closed <;> simp [holds, hclosed, hlow]

lemma holds_of_nearest? {i : Interval} {tie : Tie} {n : Nat} (h : i.nearest? tie = some n) :
    i.holds n = true := by
  simp only [nearest?] at h
  cases hbelow : i.holds (i.value / i.unit) <;> cases habove : i.holds (i.value / i.unit + 1) <;>
    simp only [hbelow, habove] at h
  · cases h
  · exact Option.some.inj h ▸ habove
  · exact Option.some.inj h ▸ hbelow
  · have hneighbour : n = i.value / i.unit ∨ n = i.value / i.unit + 1 := by
      cases tie <;> grind
    rcases hneighbour with rfl | rfl
    · exact hbelow
    · exact habove

lemma digits_of_onGrid {i : Interval} {tie : Tie} {exponent : Int} {d : Decimal} (h : 0 < i.low)
    (hgrid : i.onGrid tie exponent = some d) : d.digits ≠ 0 := by
  obtain ⟨n, hnearest, rfl⟩ := Option.map_eq_some_iff.mp hgrid
  rintro rfl
  have hlow : 0 < (i.rescale exponent).low := Nat.mul_pos h (Nat.pow_pos (by decide))
  have hheld := holds_of_nearest? hnearest
  rw [holds_zero hlow] at hheld
  cases hheld

lemma digits_of_firstGrid {i : Interval} {tie : Tie} {d : Decimal} (h : 0 < i.low) :
    ∀ {count : Nat} {exponent : Int}, i.firstGrid tie count exponent = some d → d.digits ≠ 0
  | 0, _, hgrid => by cases hgrid
  | count + 1, exponent, hgrid => by
      rw [firstGrid] at hgrid
      cases hfound : i.onGrid tie exponent with
      | none =>
          rw [hfound] at hgrid
          exact digits_of_firstGrid h hgrid
      | some d' =>
          rw [hfound] at hgrid
          exact Option.some.inj hgrid ▸ digits_of_onGrid h hfound

lemma low_ofBinary {significand : Nat} {exponent : Int} (h : significand ≠ 0) :
    0 < (ofBinary significand exponent).low := by
  refine Nat.mul_pos ?_ (Nat.pow_pos (by decide))
  split_ifs <;> omega

end Interval

lemma digits_trim : ∀ (count : Nat) {d : Decimal}, d.digits ≠ 0 → (d.trim count).digits ≠ 0
  | 0, _, h => h
  | count + 1, d, h => by
      rw [Decimal.trim]
      split_ifs with hzero
      · exact digits_trim count (show d.digits / 10 ≠ 0 by omega)
      · exact h

/-- **The shortest decimal of a score other than zero has a digit other than zero.** -/
theorem shortest_digits_eq_zero {tie : Tie} {significand : Nat} {exponent : Int}
    (h : (shortest tie significand exponent).digits = 0) :
    shortest tie significand exponent = ⟨0, 0⟩ := by
  rw [shortest] at h ⊢
  split_ifs at h ⊢ with hzero
  · rfl
  · refine absurd h (digits_trim 17 ?_)
    cases hgrid : (Interval.ofBinary significand exponent).firstGrid tie 17 _ with
    | none => exact hzero
    | some d => exact Interval.digits_of_firstGrid (Interval.low_ofBinary hzero) hgrid

/-! ## Numerals -/

/-- Digits with a whole part that starts with a zero only if it is zero. -/
structure Numeral.Canonical (n : Numeral) : Prop where
  whole : ∀ c ∈ n.whole, c.isDigit = true
  fraction : ∀ c ∈ n.fraction, c.isDigit = true
  leading : n.whole = ['0'] ∨ ∃ c cs, n.whole = c :: cs ∧ c ≠ '0'

/-- The whole part starts with a digit. -/
lemma Numeral.Canonical.exists_whole {n : Numeral} (h : n.Canonical) :
    ∃ c cs, c.isDigit = true ∧ n.whole = c :: cs := by
  rcases h.leading with hzero | ⟨c, cs, hwhole, _⟩
  · exact ⟨'0', [], by decide, hzero⟩
  · exact ⟨c, cs, h.whole c (hwhole ▸ List.mem_cons_self), hwhole⟩

lemma isDigit_of_mem_zeros {n : Nat} {c : Char} (h : c ∈ List.replicate n '0') :
    c.isDigit = true := by
  rw [List.eq_of_mem_replicate h]
  decide

lemma canonical_placePoint {pointZero : Bool} {digits : List Char} {point : Int}
    (hdigits : ∀ c ∈ digits, c.isDigit = true)
    (hleading : digits = ['0'] ∧ point = 1 ∨ ∃ c cs, digits = c :: cs ∧ c ≠ '0') :
    (Layout.placePoint pointZero digits point).Canonical := by
  rw [Layout.placePoint]
  split_ifs with hpoint
  · refine ⟨fun c hc => ?_, fun c hc => ?_, Or.inl rfl⟩
    · rw [List.mem_singleton.mp hc]
      decide
    · exact (List.mem_append.mp hc).elim isDigit_of_mem_zeros (hdigits c)
  · refine ⟨fun c hc => ?_, fun c hc => ?_, ?_⟩
    · exact (List.mem_append.mp (List.mem_of_mem_take hc)).elim (hdigits c) isDigit_of_mem_zeros
    · dsimp only at hc
      split_ifs at hc
      · rw [List.mem_singleton.mp hc]
        decide
      · exact hdigits c (List.mem_of_mem_drop hc)
    · rcases hleading with ⟨rfl, rfl⟩ | ⟨c, cs, rfl, hc⟩
      · exact Or.inl rfl
      · obtain ⟨n, hn⟩ : ∃ n, point.toNat = n + 1 := ⟨point.toNat - 1, by omega⟩
        rw [hn]
        exact Or.inr ⟨c, _, List.take_succ_cons, hc⟩

/-- **Scores are written without needless zeros.** -/
theorem canonical_numeral (l : Layout) (significand : Nat) (exponent : Int) :
    (l.numeral significand exponent).Canonical := by
  rw [Layout.numeral]
  have hzero := @shortest_digits_eq_zero l.tie significand exponent
  generalize shortest l.tie significand exponent = d at hzero
  have hdigits : ∀ c ∈ digitsOf d.digits, c.isDigit = true := fun c => isDigit_of_mem_digitsOf
  have hleading : d.digits ≠ 0 → ∃ c cs, digitsOf d.digits = c :: cs ∧ c ≠ '0' := by
    intro hd
    have hhead := head?_digitsOf hd
    cases hcs : digitsOf d.digits with
    | nil => exact absurd hcs (digitsOf_ne_nil _)
    | cons c cs =>
        rw [hcs] at hhead
        exact ⟨c, cs, rfl, fun heq => hhead (congrArg some heq)⟩
  rw [Layout.arrange]
  split_ifs with hplace
  · refine canonical_placePoint hdigits ?_
    by_cases hd : d.digits = 0
    · rw [hzero hd]
      exact Or.inl ⟨rfl, rfl⟩
    · exact Or.inr (hleading hd)
  · have hd : d.digits ≠ 0 := fun hd => hplace (Or.inl hd)
    obtain ⟨c, cs, hcs, hc⟩ := hleading hd
    rw [hcs] at hdigits ⊢
    refine ⟨fun c' hc' => hdigits c' (List.mem_of_mem_take hc'),
      fun c' hc' => hdigits c' (List.mem_of_mem_drop hc'), Or.inr ⟨c, [], rfl, hc⟩⟩

end Markbook

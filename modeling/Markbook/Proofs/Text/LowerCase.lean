import Mathlib.Tactic.Common
import Markbook.Text.LowerCase

/-!
# Lower-case forms

A lower-case form is its own lower-case form.  Character by character this is a property of the
table: what a run leads to is covered by no run.  The runs are compared two at a time, as ranges, so
that not every code point has to be looked up.

* `forall_ascii` — facts about ASCII.
* `caseRuns_misses` — what a run leads to.
* `lowerCase_lowerCase` — **the form of a form**.
* `exists_nonDigit_lowerCase` — a form is made of digits only where the text is.
-/

namespace Markbook

/-! ## ASCII characters -/

/-- What holds of the 128 characters of ASCII one by one holds of every character of ASCII. -/
lemma forall_ascii {p : Char → Bool} (h : ∀ n < 128, p (Char.ofNat n) = true) {c : Char}
    (hc : c.toNat < 128) : p c = true := by
  have := h c.toNat hc
  rwa [Char.ofNat_toNat] at this

lemma lt_of_isDigit {c : Char} (h : c.isDigit = true) : c.toNat < 128 := by
  simp only [Char.isDigit, Bool.and_eq_true, decide_eq_true_eq] at h
  have hle : c.toNat ≤ 57 := UInt32.le_iff_toNat_le.mp h.2
  omega

lemma lt_of_isAlpha {c : Char} (h : c.isAlpha = true) : c.toNat < 128 := by
  rcases (Bool.or_eq_true _ _).mp h with hupper | hlower
  · have hbounds : c.val ≥ 'A'.val ∧ c.val ≤ 'Z'.val := of_decide_eq_true hupper
    have hle : c.toNat ≤ 90 := UInt32.le_iff_toNat_le.mp hbounds.2
    omega
  · have hhigh := ((Bool.and_eq_true _ _).mp hlower).2
    have hle : c.toNat ≤ 122 := UInt32.le_iff_toNat_le.mp (of_decide_eq_true hhigh)
    omega

lemma isDigit_of_le {c : Char} (h : 0x80 ≤ c.toNat) : c.isDigit = false := by
  rw [Bool.eq_false_iff]
  exact fun hdigit => absurd (lt_of_isDigit hdigit) (Nat.not_lt_of_le h)

/-! ## Runs -/

/-- Does another run cover nothing of what a run leads to?  Either the ranges are apart, or both go
in steps of two and one is even where the other is odd. -/
def CaseRun.misses (run other : CaseRun) : Bool :=
  let first := (run.first + run.shift).toNat
  let last := (run.last + run.shift).toNat
  Nat.blt last other.first || Nat.blt other.last first ||
    (Nat.beq other.step 2 && (Nat.beq run.step 2 || Nat.beq run.first run.last) &&
      Nat.beq ((first + other.first) % 2) 1)

/-- The character `İ`, as a run of its own. -/
def dottedRun : CaseRun :=
  ⟨'İ'.toNat, 'İ'.toNat, 1, 0⟩

/-- **What a run leads to is covered by no run.** -/
theorem caseRuns_misses : ∀ run ∈ caseRuns, ∀ other ∈ dottedRun :: caseRuns,
    run.misses other = true := by
  have hall : (caseRuns.all fun run => (dottedRun :: caseRuns).all run.misses) = true := by
    decide +kernel
  exact fun run hrun => List.all_eq_true.mp (List.all_eq_true.mp hall run hrun)

/-- The runs lead to characters beyond ASCII, but for that of the Kelvin sign. -/
lemma beyond_ascii_of_mem_caseRuns : ∀ run ∈ caseRuns,
    0x80 ≤ (run.first : Int) + run.shift ∨
      run.first = 0x212a ∧ run.last = 0x212a ∧ run.shift = -8383 := by
  decide +kernel

/-- A run covers nothing that another leads to. -/
lemma covers_of_misses {run other : CaseRun} (hrun : run ∈ caseRuns)
    (hmisses : run.misses other = true) {n : Nat} (hn : run.covers n = true) :
    other.covers (n + run.shift).toNat = false := by
  have hbeyond := beyond_ascii_of_mem_caseRuns run hrun
  rw [Bool.eq_false_iff]
  intro hother
  simp only [CaseRun.covers, Bool.and_eq_true, decide_eq_true_eq] at hn hother
  simp only [CaseRun.misses, Bool.or_eq_true, Bool.and_eq_true, Nat.blt_eq, Nat.beq_eq] at hmisses
  obtain ⟨⟨hfirst, hlast⟩, hstep⟩ := hn
  obtain ⟨⟨hfirst', hlast'⟩, hstep'⟩ := hother
  rcases hmisses with (happart | happart) | ⟨⟨htwo, hsteps⟩, hodd⟩
  · omega
  · omega
  · rw [htwo] at hstep'
    rcases hsteps with hsteps | hsteps
    · rw [hsteps] at hstep
      omega
    · omega

/-- A code point that stands for no character becomes the null character. -/
lemma ofNat_cases (n : Nat) : (Char.ofNat n).toNat = n ∨ Char.ofNat n = '\x00' := by
  delta Char.ofNat
  by_cases hvalid : n.isValidChar
  · rw [dif_pos hvalid]
    exact Or.inl rfl
  · rw [dif_neg hvalid]
    exact Or.inr rfl

/-- A character that a run leads to lies beyond ASCII, where no run covers it; the exceptions are
`k`, and what is no character. -/
lemma ofNat_of_covers {run : CaseRun} (hrun : run ∈ caseRuns) {n : Nat} (hn : run.covers n = true) :
    let d := Char.ofNat (n + run.shift).toNat
    d = 'k' ∨ d = '\x00' ∨
      0x80 ≤ d.toNat ∧ ∀ other ∈ dottedRun :: caseRuns, other.covers d.toNat = false := by
  intro d
  have hbounds := hn
  simp only [CaseRun.covers, Bool.and_eq_true, decide_eq_true_eq] at hbounds
  rcases beyond_ascii_of_mem_caseRuns run hrun with hbeyond | ⟨hfirst, hlast, hshift⟩
  · rcases ofNat_cases (n + run.shift).toNat with hsame | hnull
    · refine Or.inr (Or.inr ?_)
      rw [show d.toNat = (n + run.shift).toNat from hsame]
      exact ⟨by omega, fun other hother =>
        covers_of_misses hrun (caseRuns_misses run hrun other hother) hn⟩
    · exact Or.inr (Or.inl hnull)
  · left
    obtain rfl : n = 0x212a := by omega
    change Char.ofNat (0x212a + run.shift).toNat = 'k'
    rw [hshift]
    decide

/-! ## The form of one character -/

/-- The character is its own lower-case form wherever it stands. -/
structure IsOwnForm (c : Char) : Prop where
  char : lowerChar c = [c]
  notSigma : c ≠ 'Σ'

instance (c : Char) : Decidable (IsOwnForm c) :=
  decidable_of_iff (lowerChar c = [c] ∧ c ≠ 'Σ')
    ⟨fun h => ⟨h.1, h.2⟩, fun h => ⟨h.char, h.notSigma⟩⟩

lemma isOwnForm_of_all (cs : List Char) (h : (cs.all fun c => decide (IsOwnForm c)) = true) :
    ∀ c ∈ cs, IsOwnForm c := by
  simpa using h

/-- A character beyond ASCII that no run covers is its own form. -/
lemma isOwnForm_of_covers {c : Char} (hbeyond : 0x80 ≤ c.toNat) (hdotted : c ≠ 'İ')
    (h : ∀ run ∈ caseRuns, run.covers c.toNat = false) : IsOwnForm c := by
  have hfind : caseRuns.find? (·.covers c.toNat) = none :=
    List.find?_eq_none.mpr fun run hrun => by simp [h run hrun]
  refine ⟨?_, ?_⟩
  · rw [lowerChar, if_neg (Nat.not_lt.mpr hbeyond), if_neg hdotted, hfind]
  · rintro rfl
    have hsigma : (caseRuns.find? (·.covers 'Σ'.toNat)).isSome = true := by decide +kernel
    rw [hfind] at hsigma
    cases hsigma

/-- **What a form is made of is its own form.** -/
lemma isOwnForm_of_mem_lowerChar {c d : Char} (h : d ∈ lowerChar c) : IsOwnForm d := by
  rw [lowerChar] at h
  split_ifs at h with hascii hdotted
  · obtain rfl := List.mem_singleton.mp h
    exact of_decide_eq_true
      (forall_ascii (p := fun c => decide (IsOwnForm c.toLower)) (by decide +kernel) hascii)
  · exact isOwnForm_of_all ['i', '\u0307'] (by decide +kernel) d h
  · cases hfind : caseRuns.find? (·.covers c.toNat) with
    | none =>
        rw [hfind] at h
        obtain rfl := List.mem_singleton.mp h
        have hno := List.find?_eq_none.mp hfind
        exact isOwnForm_of_covers (Nat.not_lt.mp hascii) hdotted fun run hrun => by
          simpa using hno run hrun
    | some run =>
        rw [hfind] at h
        obtain rfl := List.mem_singleton.mp h
        have hplain := isOwnForm_of_all ['k', '\x00'] (by decide +kernel)
        have hcovers := List.find?_some hfind
        rcases ofNat_of_covers (List.mem_of_find?_eq_some hfind) hcovers with
          hk | hnull | ⟨hbeyond, hno⟩
        · exact hplain _ (by simp [hk])
        · exact hplain _ (by simp [hnull])
        · obtain ⟨hdot, hno⟩ := List.forall_mem_cons.mp hno
          refine isOwnForm_of_covers hbeyond (fun heq => ?_) hno
          rw [heq] at hdot
          revert hdot
          decide

/-- The form of a character that is no digit is not made of digits. -/
lemma exists_nonDigit_lowerChar {c : Char} (h : c.isDigit = false) :
    ∃ d ∈ lowerChar c, d.isDigit = false := by
  rw [lowerChar]
  split_ifs with hascii hdotted
  · have hlower := forall_ascii (p := fun c => c.isDigit || !c.toLower.isDigit) (by decide) hascii
    exact ⟨_, List.mem_singleton_self _, by simpa [h] using hlower⟩
  · exact ⟨'i', by simp, by decide⟩
  · cases hfind : caseRuns.find? (·.covers c.toNat) with
    | none => exact ⟨_, List.mem_singleton_self _, h⟩
    | some run =>
        refine ⟨_, List.mem_singleton_self _, ?_⟩
        have hcovers := List.find?_some hfind
        rcases ofNat_of_covers (List.mem_of_find?_eq_some hfind) hcovers with
          hk | hnull | ⟨hbeyond, _⟩
        · rw [hk]
          decide
        · rw [hnull]
          decide
        · exact isDigit_of_le hbeyond

/-! ## The form of a text -/

/-- A text is lower-cased one character after the other, the sigma being a case of its own. -/
lemma lowerFrom_cons (before : List Char) (c : Char) (rest : List Char) :
    ∃ form, lowerFrom before (c :: rest) = form ++ lowerFrom (c :: before) rest ∧
      (form = lowerChar c ∨ form = ['σ'] ∨ form = ['ς']) := by
  refine ⟨_, rfl, ?_⟩
  split_ifs
  · exact Or.inr (Or.inr rfl)
  · exact Or.inr (Or.inl rfl)
  · exact Or.inl rfl

lemma isOwnForm_of_mem_lowerFrom {d : Char} : ∀ {cs before : List Char},
    d ∈ lowerFrom before cs → IsOwnForm d
  | c :: rest, before, h => by
      have hsigma := isOwnForm_of_all ['σ', 'ς'] (by decide +kernel)
      obtain ⟨form, hform, hcases⟩ := lowerFrom_cons before c rest
      rw [hform] at h
      rcases List.mem_append.mp h with hd | hd
      · rcases hcases with rfl | rfl | rfl
        · exact isOwnForm_of_mem_lowerChar hd
        · exact hsigma d (by simp_all)
        · exact hsigma d (by simp_all)
      · exact isOwnForm_of_mem_lowerFrom hd

lemma lowerFrom_eq_self : ∀ {cs before : List Char}, (∀ c ∈ cs, IsOwnForm c) →
    lowerFrom before cs = cs
  | [], _, _ => rfl
  | c :: rest, before, h => by
      obtain ⟨hc, hrest⟩ := List.forall_mem_cons.mp h
      rw [lowerFrom, if_neg hc.notSigma, hc.char, lowerFrom_eq_self hrest]
      rfl

/-- **A lower-case form is its own lower-case form.** -/
theorem lowerCase_lowerCase (text : String) : lowerCase (lowerCase text) = lowerCase text := by
  rw [lowerCase, lowerCase, String.toList_ofList,
    lowerFrom_eq_self fun c => isOwnForm_of_mem_lowerFrom]

lemma exists_nonDigit_lowerFrom : ∀ {cs before : List Char}, (∃ c ∈ cs, c.isDigit = false) →
    ∃ d ∈ lowerFrom before cs, d.isDigit = false
  | c :: rest, before, ⟨e, he, hdigit⟩ => by
      obtain ⟨form, hform, hcases⟩ := lowerFrom_cons before c rest
      rw [hform]
      rcases List.mem_cons.mp he with rfl | he
      · have hd : ∃ d ∈ form, d.isDigit = false := by
          rcases hcases with rfl | rfl | rfl
          · exact exists_nonDigit_lowerChar hdigit
          · exact ⟨'σ', by simp, by decide⟩
          · exact ⟨'ς', by simp, by decide⟩
        obtain ⟨d, hd, hnot⟩ := hd
        exact ⟨d, List.mem_append_left _ hd, hnot⟩
      · obtain ⟨d, hd, hnot⟩ := exists_nonDigit_lowerFrom ⟨e, he, hdigit⟩
        exact ⟨d, List.mem_append_right _ hd, hnot⟩

/-- The form of a text that is not made of digits is not made of digits. -/
lemma exists_nonDigit_lowerCase {text : String} (h : ∃ c ∈ text.toList, c.isDigit = false) :
    ∃ d ∈ (lowerCase text).toList, d.isDigit = false := by
  rw [lowerCase, String.toList_ofList]
  exact exists_nonDigit_lowerFrom h

end Markbook

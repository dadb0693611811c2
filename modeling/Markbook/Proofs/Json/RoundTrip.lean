import Markbook.Proofs.Json.Scalar

/-!
# Values read back

A value is written over several lines, and reading skips the white space again, so the text of a
value reads back as the value.  Two kinds of values are set aside: numbers with needless zeros in
front, which are not JSON, and strings that are no text, which have no characters to be written.

Reading is bounded by the length of the text.  No bound is met on the way, as every value lies
within the text of the value around it.

* `Regular` — the values that can be written.
* `Regular.readsBack` — they are read back, whatever follows.
* `parse?_print` — **a whole text is read back**.
-/

namespace Markbook.Json

/-- A value that can be written: its numbers have no needless zeros, and its strings are texts. -/
inductive Regular : Json → Prop
  | null : Regular null
  | bool (value : Bool) : Regular (bool value)
  | number {negative n} : n.Canonical → Regular (number negative n)
  | text (content : String) : Regular (text (some content))
  | array {xs} : (∀ x ∈ xs, Regular x) → Regular (array xs)
  | object {ms} : (∀ m ∈ ms, m.1.isSome = true) → (∀ m ∈ ms, Regular m.2) → Regular (object ms)

/-! ## White space -/

/-- No white space starts here. -/
def StartsPlain (cs : List Char) : Prop :=
  ∀ c ∈ cs.head?, c ≠ ' ' ∧ c ≠ '\t' ∧ c ≠ '\n' ∧ c ≠ '\r'

lemma skipBlanks_of_startsPlain {cs : List Char} (h : StartsPlain cs) : skipBlanks cs = cs := by
  cases cs with
  | nil => rfl
  | cons c cs =>
      obtain ⟨hspace, htab, hline, hreturn⟩ := h c rfl
      simp [skipBlanks, hspace, htab, hline, hreturn]

@[simp] lemma skipBlanks_newLine (level : Nat) (cs : List Char) :
    skipBlanks (newLine level ++ cs) = skipBlanks cs := by
  have hblank : ∀ c ∈ newLine level,
      (c == ' ' || c == '\t' || c == '\n' || c == '\r') = true := by
    intro c hc
    rcases List.mem_cons.mp hc with rfl | hc
    · rfl
    · rw [List.eq_of_mem_replicate hc]
      rfl
  exact List.dropWhile_append_of_pos hblank

/-- White space in front of a value is skipped. -/
lemma readValue?_newLine (fuel level : Nat) (cs : List Char) :
    readValue? fuel (newLine level ++ cs) = readValue? fuel cs := by
  cases fuel with
  | zero => rfl
  | succ fuel => rw [readValue?, readValue?, skipBlanks_newLine]

/-! ## How values start and end -/

lemma startsPlain_of_isDigit {c : Char} {cs : List Char} (hc : c.isDigit = true) :
    StartsPlain (c :: cs) := by
  simp only [StartsPlain, List.head?_cons, Option.mem_def, Option.some.injEq, forall_eq']
  refine ⟨?_, ?_, ?_, ?_⟩ <;> (rintro rfl; exact absurd hc (by decide))

/-- A value starts with a character that neither is white space nor closes an array. -/
lemma Regular.exists_write {x : Json} (h : x.Regular) (level : Nat) : ∃ c cs,
    write level x = c :: cs ∧ StartsPlain [c] ∧ c ≠ ']' := by
  cases h with
  | null => exact ⟨'n', _, rfl, by simp [StartsPlain], by decide⟩
  | bool value => cases value <;> exact ⟨_, _, rfl, by simp [StartsPlain], by decide⟩
  | @number negative n hn =>
      cases negative with
      | true => exact ⟨'-', _, rfl, by simp [StartsPlain], by decide⟩
      | false =>
          obtain ⟨c, cs, hc, hwhole⟩ := hn.exists_whole
          refine ⟨c, _, by simp only [write, Numeral.chars, hwhole]; rfl,
            startsPlain_of_isDigit hc, ?_⟩
          rintro rfl
          exact absurd hc (by decide)
  | text content => exact ⟨'"', _, rfl, by simp [StartsPlain], by decide⟩
  | @array xs _ =>
      cases xs with
      | nil => exact ⟨'[', _, rfl, by simp [StartsPlain], by decide⟩
      | cons x xs => exact ⟨'[', _, rfl, by simp [StartsPlain], by decide⟩
  | @object ms _ _ =>
      cases ms with
      | nil => exact ⟨'\x7b', _, rfl, by simp [StartsPlain], by decide⟩
      | cons m ms => exact ⟨'\x7b', _, rfl, by simp [StartsPlain], by decide⟩

lemma endsNumber_cons {c : Char} {cs : List Char}
    (h : c.isDigit = false ∧ c ≠ '.' ∧ c ≠ 'e' ∧ c ≠ 'E') : EndsNumber (c :: cs) :=
  fun _ hc => Option.some.inj hc ▸ h

lemma endsNumber_elements (level outer : Nat) (xs : List Json) (cs : List Char) :
    EndsNumber (writeElements level xs ++ (newLine outer ++ cs)) := by
  cases xs with
  | nil => exact endsNumber_cons (by decide)
  | cons x xs => exact endsNumber_cons (by decide)

lemma endsNumber_members (level outer : Nat) (ms : List (Option String × Json)) (cs : List Char) :
    EndsNumber (writeMembers level ms ++ (newLine outer ++ cs)) := by
  cases ms with
  | nil => exact endsNumber_cons (by decide)
  | cons m ms => exact endsNumber_cons (by decide)

/-! ## Elements and members -/

/-- The value is read back from its text at this level, whatever follows. -/
def ReadsBack (fuel level : Nat) (x : Json) : Prop :=
  ∀ rest, EndsNumber rest → readValue? fuel (write level x ++ rest) = some (x, rest)

section Readers

variable {value : List Char → Option (Json × List Char)} {n : Nat} {cs tail rest : List Char}

lemma readElements?_last {x : Json} (hvalue : value cs = some (x, tail))
    (hclose : skipBlanks tail = ']' :: rest) :
    readElements? value (n + 1) cs = some ([x], rest) := by
  simp only [readElements?, hvalue, Option.bind_eq_bind, Option.bind_some, hclose]
  rfl

lemma readElements?_more {x : Json} {xs : List Json} {more : List Char}
    (hvalue : value cs = some (x, tail)) (hcomma : skipBlanks tail = ',' :: more)
    (hmore : readElements? value n more = some (xs, rest)) :
    readElements? value (n + 1) cs = some (x :: xs, rest) := by
  simp only [readElements?, hvalue, Option.bind_eq_bind, Option.bind_some, hcomma, hmore]
  rfl

lemma readMembers?_last {m : Option String × Json} (hmember : readMember? value cs = some (m, tail))
    (hclose : skipBlanks tail = '\x7d' :: rest) :
    readMembers? value (n + 1) cs = some ([m], rest) := by
  simp only [readMembers?, hmember, Option.bind_eq_bind, Option.bind_some, hclose]
  rfl

lemma readMembers?_more {m : Option String × Json} {ms : List (Option String × Json)}
    {more : List Char} (hmember : readMember? value cs = some (m, tail))
    (hcomma : skipBlanks tail = ',' :: more)
    (hmore : readMembers? value n more = some (ms, rest)) :
    readMembers? value (n + 1) cs = some (m :: ms, rest) := by
  simp only [readMembers?, hmember, Option.bind_eq_bind, Option.bind_some, hcomma, hmore]
  rfl

end Readers

variable {fuel level outer : Nat}

lemma readElements?_write {rest : List Char} : ∀ {xs : List Json} {x : Json} {n : Nat},
    (∀ y ∈ x :: xs, ReadsBack fuel level y) → xs.length < n →
      readElements? (readValue? fuel) n (newLine level ++ (write level x ++
        (writeElements level xs ++ (newLine outer ++ ']' :: rest)))) = some (x :: xs, rest)
  | xs, x, 0, _, hn => by simp at hn
  | xs, x, n + 1, h, hn => by
      have hx := h x List.mem_cons_self _ (endsNumber_elements level outer xs (']' :: rest))
      rw [← readValue?_newLine fuel level] at hx
      cases xs with
      | nil => exact readElements?_last hx (by simp [writeElements]; rfl)
      | cons y ys =>
          have hcomma :
              skipBlanks (writeElements level (y :: ys) ++ (newLine outer ++ ']' :: rest)) =
              ',' :: (newLine level ++ (write level y ++
                (writeElements level ys ++ (newLine outer ++ ']' :: rest)))) := by
            simp only [writeElements, List.append_assoc, List.cons_append]
            rfl
          exact readElements?_more hx hcomma (readElements?_write
            (fun z hz => h z (List.mem_cons_of_mem _ hz)) (Nat.lt_of_succ_lt_succ hn))

/-- A member is read back behind a new line. -/
lemma readMember?_write {content : String} {x : Json} (h : ReadsBack fuel level x)
    {rest : List Char} (hrest : EndsNumber rest) :
    readMember? (readValue? fuel) (newLine level ++ (writeContent (some content) ++
      ':' :: ' ' :: (write level x ++ rest))) = some ((some content, x), rest) := by
  have hblank : readValue? fuel (' ' :: (write level x ++ rest)) = some (x, rest) := by
    rw [← h rest hrest]
    cases fuel <;> rfl
  have hquote : skipBlanks (newLine level ++ (writeContent (some content) ++
      ':' :: ' ' :: (write level x ++ rest))) = '"' :: (content.toList.flatMap writeChar ++
        '"' :: ':' :: ' ' :: (write level x ++ rest)) := by
    simp [writeContent, writeString]
    rfl
  simp only [readMember?, hquote, readString?_append, Option.bind_eq_bind, Option.bind_some,
    String.ofList_toList]
  change (readValue? fuel (' ' :: (write level x ++ rest))).bind _ = _
  rw [hblank]
  rfl

lemma readMembers?_write {rest : List Char} : ∀ {ms : List (Option String × Json)}
    {name : Option String} {x : Json} {n : Nat},
    (∀ m ∈ (name, x) :: ms, m.1.isSome = true ∧ ReadsBack fuel level m.2) → ms.length < n →
      readMembers? (readValue? fuel) n (newLine level ++ (writeContent name ++ ':' :: ' ' ::
        (write level x ++ (writeMembers level ms ++ (newLine outer ++ '\x7d' :: rest))))) =
          some ((name, x) :: ms, rest)
  | ms, name, x, 0, _, hn => by simp at hn
  | ms, name, x, n + 1, h, hn => by
      obtain ⟨hname, hx⟩ := h (name, x) List.mem_cons_self
      obtain ⟨content, rfl⟩ := Option.isSome_iff_exists.mp hname
      have hmember := @readMember?_write fuel level content x hx _
        (endsNumber_members level outer ms ('\x7d' :: rest))
      cases ms with
      | nil => exact readMembers?_last hmember (by simp [writeMembers]; rfl)
      | cons m ms =>
          have hcomma :
              skipBlanks (writeMembers level (m :: ms) ++ (newLine outer ++ '\x7d' :: rest)) =
                ',' :: (newLine level ++ (writeContent m.1 ++ ':' :: ' ' :: (write level m.2 ++
                  (writeMembers level ms ++ (newLine outer ++ '\x7d' :: rest))))) := by
            simp only [writeMembers, List.append_assoc, List.cons_append]
            rfl
          exact readMembers?_more hmember hcomma (readMembers?_write
            (fun z hz => h z (List.mem_cons_of_mem _ hz)) (Nat.lt_of_succ_lt_succ hn))

/-! ## Lengths -/

lemma length_writeElements_of_mem {x : Json} : ∀ {xs : List Json}, x ∈ xs →
    (write level x).length ≤ (writeElements level xs).length
  | y :: ys, h => by
      simp only [writeElements, List.length_append, List.length_cons]
      rcases List.mem_cons.mp h with rfl | h
      · omega
      · have := length_writeElements_of_mem h
        omega

lemma length_writeMembers_of_mem {m : Option String × Json} :
    ∀ {ms : List (Option String × Json)}, m ∈ ms →
      (write level m.2).length ≤ (writeMembers level ms).length
  | (name, x) :: ms, h => by
      simp only [writeMembers, List.length_append, List.length_cons]
      rcases List.mem_cons.mp h with rfl | h
      · simp only
        omega
      · have := length_writeMembers_of_mem h
        omega

lemma length_le_writeElements : ∀ xs : List Json, xs.length ≤ (writeElements level xs).length
  | [] => Nat.zero_le _
  | x :: xs => by
      have := length_le_writeElements xs
      simp only [writeElements, List.length_append, List.length_cons]
      omega

lemma length_le_writeMembers : ∀ ms : List (Option String × Json),
    ms.length ≤ (writeMembers level ms).length
  | [] => Nat.zero_le _
  | (name, x) :: ms => by
      have := length_le_writeMembers ms
      simp only [writeMembers, List.length_append, List.length_cons]
      omega

/-! ## Values -/

/-- What starts with a digit is read as a number. -/
lemma readValue?_digit {c : Char} {cs : List Char} (hc : c.isDigit = true) :
    readValue? (fuel + 1) (c :: cs) = readNumber? (c :: cs) := by
  rw [readValue?, skipBlanks_of_startsPlain (startsPlain_of_isDigit hc)]
  split <;> first | rfl | (next heq => cases heq; exact absurd hc (by decide))

lemma readsBack_number {negative : Bool} {n : Numeral} (h : n.Canonical) :
    ReadsBack (fuel + 1) level (number negative n) := by
  intro rest hrest
  have hread := @readNumber?_append layout.plusSign negative n rest h hrest
  rw [← hread]
  cases negative with
  | true => rfl
  | false =>
      obtain ⟨c, cs, hc, hwhole⟩ := h.exists_whole
      simp only [write, Numeral.chars, hwhole, List.cons_append, Bool.false_eq_true, if_false,
        List.nil_append]
      exact readValue?_digit hc

/-- An array that has elements is read back if they are. -/
lemma readsBack_array {x : Json} {xs : List Json} (hx : x.Regular)
    (h : ∀ y ∈ x :: xs, ReadsBack fuel (level + 1) y) :
    ReadsBack (fuel + 1) level (array (x :: xs)) := by
  intro rest _
  obtain ⟨c, cs, hwrite, hplain, hclose⟩ := hx.exists_write (level + 1)
  have hhead : ∀ tail, skipBlanks (newLine (level + 1) ++ (write (level + 1) x ++ tail)) =
      c :: (cs ++ tail) := by
    intro tail
    rw [skipBlanks_newLine, hwrite, List.cons_append]
    exact skipBlanks_of_startsPlain hplain
  have hcount := @length_le_writeElements (level + 1) xs
  simp only [write, List.append_assoc, List.cons_append, List.nil_append]
  change readArray? _ _ = _
  rw [readArray?, hhead]
  split
  · simp_all
  · rw [readElements?_write h]
    · rfl
    · simp only [List.length_append, List.length_cons]
      omega

/-- An object that has members is read back if they are. -/
lemma readsBack_object {name : Option String} {x : Json} {ms : List (Option String × Json)}
    (h : ∀ m ∈ (name, x) :: ms, m.1.isSome = true ∧ ReadsBack fuel (level + 1) m.2) :
    ReadsBack (fuel + 1) level (object ((name, x) :: ms)) := by
  intro rest _
  have hcount := @length_le_writeMembers (level + 1) ms
  simp only [write, List.append_assoc, List.cons_append, List.nil_append]
  change readObject? _ _ = _
  rw [readObject?, skipBlanks_newLine]
  change ((readMembers? _ _ _).map _) = _
  rw [readMembers?_write h]
  · rfl
  · simp only [List.length_append, List.length_cons]
    omega

/-- A value has some text, so there is fuel for reading it. -/
lemma Regular.exists_fuel {x : Json} (h : x.Regular) (hlength : (write level x).length ≤ fuel) :
    ∃ f, fuel = f + 1 := by
  obtain ⟨c, cs, hwrite, _, _⟩ := h.exists_write level
  rw [hwrite, List.length_cons] at hlength
  exact ⟨fuel - 1, by omega⟩

/-- **A value is read back** from its text, whatever follows. -/
theorem Regular.readsBack {x : Json} (h : x.Regular) : ∀ {level fuel : Nat},
    (write level x).length ≤ fuel → ReadsBack fuel level x := by
  induction h with
  | null =>
      intro level fuel hlength
      obtain ⟨fuel, rfl⟩ := Regular.null.exists_fuel hlength
      exact fun rest _ => rfl
  | bool value =>
      intro level fuel hlength
      obtain ⟨fuel, rfl⟩ := (Regular.bool value).exists_fuel hlength
      cases value <;> exact fun rest _ => rfl
  | number hn =>
      intro level fuel hlength
      obtain ⟨fuel, rfl⟩ := (Regular.number hn).exists_fuel hlength
      exact readsBack_number hn
  | text content =>
      intro level fuel hlength
      obtain ⟨fuel, rfl⟩ := (Regular.text content).exists_fuel hlength
      intro rest _
      have hread := readString?_append content.toList rest
      simp only [write, writeContent, writeString, Option.map_some, Option.getD_some,
        List.append_assoc, List.cons_append, List.nil_append]
      change (readString? _).map _ = _
      rw [hread, String.ofList_toList]
      rfl
  | @array xs hxs ih =>
      intro level fuel hlength
      obtain ⟨fuel, rfl⟩ := (Regular.array hxs).exists_fuel hlength
      cases xs with
      | nil => exact fun rest _ => rfl
      | cons x xs =>
          refine readsBack_array (hxs x List.mem_cons_self) fun y hy => ih y hy ?_
          simp only [write, List.length_append, List.length_cons] at hlength
          rcases List.mem_cons.mp hy with rfl | hy
          · omega
          · have := @length_writeElements_of_mem (level + 1) y xs hy
            omega
  | @object ms hnames hms ih =>
      intro level fuel hlength
      obtain ⟨fuel, rfl⟩ := (Regular.object hnames hms).exists_fuel hlength
      cases ms with
      | nil => exact fun rest _ => rfl
      | cons m ms =>
          refine readsBack_object fun y hy => ⟨hnames y hy, ih y hy ?_⟩
          simp only [write, List.length_append, List.length_cons] at hlength
          rcases List.mem_cons.mp hy with rfl | hy
          · simp only
            omega
          · have := @length_writeMembers_of_mem (level + 1) y ms hy
            omega

/-- **A text is read back** as the value it was written for. -/
theorem parse?_print {x : Json} (h : x.Regular) : parse? x.print = some x := by
  have hends : EndsNumber [] := fun c hc => by cases hc
  have hread := h.readsBack (Nat.le_succ (write 0 x).length) [] hends
  rw [List.append_nil] at hread
  simp only [parse?, print, String.toList_ofList, hread]
  rfl

end Markbook.Json

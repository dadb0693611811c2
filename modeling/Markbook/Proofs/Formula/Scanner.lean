import Mathlib.Data.String.Basic
import Markbook.Formula.Scanner
import Markbook.Proofs.Formula.Cutting

/-!
# The scanner cuts the same tokens

A scanner stands between two characters of its text, and it never leaves these places: it moves by
whole characters and by whole names, and it goes back only to where it has been.  So it can slice
the text wherever it wants to, and what it cuts off is the token that is cut off a list of
characters.

It goes forward with every token.  That takes that a name known to the scanner is not empty: an
empty one would be found everywhere, and the scanner would stand still.

* `Between` — where a scanner stands, `run_slice` what it may slice.
* `takes_token` — cutting a token takes it and no more.
* `lexemesAt` — the tokens of the text behind a place.
* `InHand`, `ends_advance` — **the scanner goes from token to token** until there is none.
-/

namespace Markbook

open String (utf8Len)

namespace Scan

/-! ## Running one thing after another -/

section

variable {α β : Type} {p : Scan α} {q : α → Scan β} {s s' : Scanner} {a : α} {e : Halt}

lemma run_bind_of_ok (h : p.run s = some (.ok a, s')) : (p >>= q).run s = (q a).run s' := by
  rw [ExceptT.run_bind]
  show (p.run s >>= _) = _
  rw [h]
  rfl

lemma run_bind_of_error (h : p.run s = some (.error e, s')) :
    (p >>= q).run s = some (.error e, s') := by
  rw [ExceptT.run_bind]
  show (p.run s >>= _) = _
  rw [h]
  rfl

@[simp] lemma run_pure : (pure a : Scan α).run s = some (.ok a, s) := rfl

@[simp] lemma run_get_bind {k : Scanner → Scan α} : (get >>= k).run s = (k s).run s := rfl

@[simp] lemma run_modify {change : Scanner → Scanner} :
    (modify change : Scan Unit).run s = some (.ok (), change s) := rfl

@[simp] lemma run_modify_bind {change : Scanner → Scanner} {k : Unit → Scan α} :
    (modify change >>= k).run s = (k ()).run (change s) := rfl

/-! ## Coming to an end -/

variable {P : Nat → Scan α} {Q : Nat → α → Scan β} {r r' : Except Halt α} {s'' : Scanner}

/-- What does not count rounds is done in any number of them. -/
lemma ends_of_run {r : Except Halt α} (h : p.run s = some (r, s')) : Ends (fun _ => p) s r s' :=
  ⟨0, fun _ _ => h⟩

/-- One round may be spent first. -/
lemma Ends.next (h : Ends (fun n => P (n + 1)) s r s') : Ends P s r s' := by
  obtain ⟨n, h⟩ := h
  refine ⟨n + 1, fun m hm => ?_⟩
  obtain ⟨m, rfl⟩ := Nat.exists_eq_add_of_le' (Nat.le_of_add_left_le hm)
  exact h m (Nat.le_of_succ_le_succ hm)

lemma Ends.bind {r : Except Halt β} (hp : Ends P s (.ok a) s')
    (hq : Ends (fun n => Q n a) s' r s'') : Ends (fun n => P n >>= Q n) s r s'' := by
  obtain ⟨n, hp⟩ := hp
  obtain ⟨k, hq⟩ := hq
  refine ⟨max n k, fun m hm => ?_⟩
  rw [run_bind_of_ok (hp m (le_of_max_le_left hm)), hq m (le_of_max_le_right hm)]

lemma Ends.bind_error (hp : Ends P s (.error e) s') :
    Ends (fun n => P n >>= Q n) s (.error e) s' := by
  obtain ⟨n, hp⟩ := hp
  exact ⟨n, fun m hm => run_bind_of_error (hp m hm)⟩

/-- A scan comes to one end only. -/
lemma Ends.unique (h : Ends P s r s') (h' : Ends P s r' s'') : r = r' ∧ s' = s'' := by
  obtain ⟨n, h⟩ := h
  obtain ⟨k, h'⟩ := h'
  have heq := (h _ (Nat.le_max_left n k)).symm.trans (h' _ (Nat.le_max_right n k))
  simpa using heq

end

@[simp] lemma moveTo_position (s : Scanner) (n : Nat) : (s.moveTo n).position = n := rfl

@[simp] lemma enter_token (s : Scanner) : s.enter.token = s.token := rfl

@[simp] lemma enter_depth (s : Scanner) : s.enter.depth = s.depth + 1 := rfl

@[simp] lemma leave_depth (s : Scanner) : s.leave.depth = s.depth - 1 := rfl

@[simp] lemma moveTo_moveTo (s : Scanner) (n m : Nat) : (s.moveTo n).moveTo m = s.moveTo m := rfl

/-! ## Between two characters -/

lemma isValid_utf8Len {text : String} {u v : List Char} (h : text.toList = u ++ v) :
    String.Pos.Raw.IsValid text ⟨utf8Len u⟩ := by
  refine String.Pos.Raw.isValid_iff_exists_append.mpr ⟨String.ofList u, String.ofList v, ?_, ?_⟩
  · rw [← String.ofList_append, ← h, String.ofList_toList]
  · rw [String.rawEndPos_ofList]

lemma utf8Len_toList (text : String) : utf8Len text.toList = text.utf8ByteSize := by
  rw [← String.utf8ByteSize_ofList, String.ofList_toList]

/-- A text can be sliced around some of its characters. -/
lemma run_slice {text : String} {u v w : List Char} {i j : Nat} {s : Scanner}
    (h : text.toList = u ++ v ++ w) (hi : i = utf8Len u) (hj : j = utf8Len (u ++ v)) :
    (slice text i j).run s = some (.ok (String.ofList v), s) := by
  subst hi hj
  have hstart : String.Pos.Raw.IsValid text ⟨utf8Len u⟩ :=
    isValid_utf8Len (v := v ++ w) (by rw [h, List.append_assoc])
  have hend := isValid_utf8Len h
  have hle : utf8Len u ≤ utf8Len (u ++ v) := by simp
  have htext : String.ofList (u ++ v ++ w) = text := by rw [← h, String.ofList_toList]
  have hextract := String.extract_of_valid u v w
  rw [htext, ← String.utf8Len_append] at hextract
  rw [slice, if_pos ⟨hle, String.Pos.Raw.isValid_eq_true_iff.mpr hstart,
    String.Pos.Raw.isValid_eq_true_iff.mpr hend⟩, hextract, run_pure]

/-- The scanner stands behind `u` and in front of `v`. -/
structure Between (text : String) (s : Scanner) (u v : List Char) : Prop where
  split : text.toList = u ++ v
  position : s.position = utf8Len u

namespace Between

variable {text : String} {s : Scanner} {u v w cs : List Char} {c : Char}

/-- A scanner that takes the next characters stands behind them. -/
lemma moveTo (h : Between text s u (v ++ w)) :
    Between text (s.moveTo (utf8Len (u ++ v))) (u ++ v) w :=
  ⟨by rw [h.split, List.append_assoc], rfl⟩

lemma moveTo_self (h : Between text s u v) : s.moveTo (utf8Len (u ++ [])) = s := by
  rw [List.append_nil, ← h.position]
  rfl

lemma run_rest (h : Between text s u v) : (rest text).run s = some (.ok (String.ofList v), s) := by
  have hend : text.utf8ByteSize = utf8Len (u ++ v) := by rw [← h.split, utf8Len_toList]
  rw [rest, run_get_bind]
  exact run_slice (w := []) (by rw [h.split, List.append_nil]) h.position hend

lemma run_peek (h : Between text s u v) : (peek text).run s = some (.ok v.head?, s) := by
  rw [peek, run_bind_of_ok h.run_rest, run_pure, String.toList_ofList]

lemma run_step (h : Between text s u (c :: cs)) :
    (step text).run s = some (.ok (), s.moveTo (utf8Len (u ++ [c]))) := by
  have hlen : s.position + c.utf8Size = utf8Len (u ++ [c]) := by simp [h.position]
  rw [step, run_bind_of_ok h.run_peek, ← hlen]
  rfl

/-- Taking all characters of a kind takes one round for each and one more.  The induction is on what
is left of the text. -/
lemma run_skipWhile (p : Char → Bool) {v : List Char} : ∀ {u : List Char} {n : Nat} {s : Scanner},
    Between text s u v → v.length < n →
    (skipWhile text p n).run s = some (.ok (), s.moveTo (utf8Len (u ++ v.takeWhile p))) := by
  induction v with
  | nil =>
      intro u n s h hn
      obtain ⟨n, rfl⟩ := Nat.exists_eq_add_of_lt hn
      rw [skipWhile, run_bind_of_ok h.run_peek, List.takeWhile_nil, h.moveTo_self]
      rfl
  | cons c cs ih =>
      intro u n s h hn
      obtain ⟨n, rfl⟩ := Nat.exists_eq_add_one_of_ne_zero (Nat.ne_zero_of_lt hn)
      rw [skipWhile, run_bind_of_ok h.run_peek]
      by_cases hc : p c = true
      · have hnext : Between text (s.moveTo (utf8Len (u ++ [c]))) (u ++ [c]) cs :=
          moveTo (v := [c]) h
        simp only [List.head?_cons, if_pos hc]
        rw [run_bind_of_ok h.run_step, ih hnext (Nat.lt_of_succ_lt_succ hn),
          List.takeWhile_cons_of_pos hc, List.append_assoc]
        rfl
      · simp only [List.head?_cons, if_neg hc]
        rw [List.takeWhile_cons_of_neg hc, h.moveTo_self]
        rfl

lemma run_skip {n : Nat} (h : Between text s u (v ++ w)) (hn : text.toList.length < n)
    {p : Char → Bool} (hv : ∀ c ∈ v, p c = true) (hw : ∀ c ∈ w.head?, p c = false) :
    (skipWhile text p n).run s = some (.ok (), s.moveTo (utf8Len (u ++ v))) := by
  have hlength : (v ++ w).length < n := by
    rw [h.split, List.length_append] at hn
    omega
  rw [h.run_skipWhile p hlength, takeWhile_append_eq hv hw]

/-- The characters that the scanner has taken since it stood here. -/
lemma run_taken (h : Between text s u (v ++ w)) (s' : Scanner) :
    (slice text s.position (utf8Len (u ++ v))).run s' = some (.ok (String.ofList v), s') :=
  run_slice (by rw [h.split, List.append_assoc]) h.position rfl

end Between

/-! ## Names known to the scanner -/

lemma toList_eq_of_prefix {name : String} {cs : List Char}
    (h : name.toList.isPrefixOf cs = true) : cs = name.toList ++ cs.drop name.toList.length :=
  (List.prefix_iff_eq_append.mp (List.isPrefixOf_iff_prefix.mp h)).symm

lemma run_stands (rest : String) (before : Option Char) (name : String) (s : Scanner) :
    (stands rest before name).run s = some (.ok (standsAt before rest.toList name), s) := by
  rw [stands, standsAt]
  by_cases hleads : name.toList.isPrefixOf rest.toList = true
  · have hsplit := toList_eq_of_prefix hleads
    have hslice : (slice rest name.utf8ByteSize rest.utf8ByteSize).run s =
        some (.ok (String.ofList (rest.toList.drop name.toList.length)), s) := by
      refine run_slice (u := name.toList) (w := []) ?_ (utf8Len_toList name).symm ?_
      · rw [List.append_nil, ← hsplit]
      · rw [← hsplit, utf8Len_toList]
    by_cases hfirst : (name.toList.head?.any isNameChar && before.any isNameChar) = true
    · simp [hleads, hfirst]
    · by_cases hlast : name.toList.getLast?.any isNameChar = true
      · simp only [hleads, hfirst, hlast]
        simp only [Bool.not_true, Bool.false_eq_true, if_false, if_true]
        rw [run_bind_of_ok hslice, run_pure, String.toList_ofList]
        rfl
      · simp [hleads, hfirst, hlast]
  · simp [hleads]

lemma run_findKnown (rest : String) (before : Option Char) (s : Scanner) (names : List String) :
    (findKnown rest before names).run s =
      some (.ok (names.find? (standsAt before rest.toList)), s) := by
  induction names with
  | nil => rfl
  | cons n ns ih =>
      rw [findKnown, run_bind_of_ok (run_stands rest before n s), List.find?_cons]
      cases standsAt before rest.toList n with
      | true => rfl
      | false => exact ih

/-- Where a known name stands it is taken whole, and else the scanner stays. -/
lemma Between.run_known {text : String} {s : Scanner} {u v : List Char} (h : Between text s u v)
    (names : List String) : (known text names).run s =
      match names.find? (standsAt u.getLast? v) with
      | some n => some (.ok (some (.name n)), s.moveTo (utf8Len (u ++ n.toList)))
      | none => some (.ok none, s) := by
  have hfront : (slice text 0 s.position).run s = some (.ok (String.ofList u), s) :=
    Scan.run_slice (u := []) (by rw [h.split, List.nil_append]) rfl
      (by rw [h.position, List.nil_append])
  rw [known, run_get_bind, run_bind_of_ok h.run_rest, run_bind_of_ok hfront,
    run_bind_of_ok (run_findKnown _ _ _ names), String.toList_ofList, String.toList_ofList]
  cases names.find? (standsAt u.getLast? v) with
  | none => rfl
  | some n =>
      have hlen : s.position + n.utf8ByteSize = utf8Len (u ++ n.toList) := by
        rw [h.position, String.utf8Len_append, utf8Len_toList]
      dsimp only
      rw [run_modify_bind, hlen]
      rfl

/-! ## Taking a token -/

/-- The scan takes the token that the pair says: `c` and as many of the characters behind it. -/
def Takes (p : Scan Token) (s : Scanner) (u : List Char) (c : Char) (cs : List Char)
    (r : Token × Nat) : Prop :=
  r.2 ≤ cs.length ∧ p.run s = some (.ok r.1, s.moveTo (utf8Len (u ++ c :: cs.take r.2)))

section

variable {text : String} {s : Scanner} {u cs : List Char} {c : Char} {n : Nat}

lemma takes_word (hn : text.toList.length < n) (h : Between text s u (c :: cs))
    (hc : isNameChar c = true) :
    Takes (word text n) s u c cs (Token.wordFrom c cs) := by
  obtain ⟨ds, left, rfl, hds, hleft⟩ := exists_takeWhile isNameChar cs
  have h : Between text s u ((c :: ds) ++ left) := h
  have hskip := h.run_skip hn (List.forall_mem_cons.mpr ⟨hc, hds⟩) hleft
  have hword : Token.wordFrom c (ds ++ left) = (.word (String.ofList (c :: ds)), ds.length) := by
    rw [Token.wordFrom, takeWhile_append_eq hds hleft]
  rw [hword]
  refine ⟨by simp, ?_⟩
  rw [word, run_get_bind, run_bind_of_ok hskip, run_get_bind, moveTo_position,
    run_bind_of_ok (h.run_taken _), List.take_left]
  rfl

lemma takes_number (hn : text.toList.length < n) (h : Between text s u (c :: cs))
    (hc : isNumberChar c = true) :
    Takes (number text n) s u c cs (Token.numberFrom c cs) := by
  obtain ⟨ds, left, rfl, hds, hleft⟩ := exists_takeWhile isNumberChar cs
  have h' : Between text s u ((c :: ds) ++ left) := h
  have hskip := h'.run_skip hn (List.forall_mem_cons.mpr ⟨hc, hds⟩) hleft
  have hword : (!(c :: ds).contains '.' && left.head?.any isNameChar) =
      isWordAt c (ds ++ left) := by
    rw [isWordAt, takeWhile_append_eq hds hleft, List.drop_left]
  by_cases hw : isWordAt c (ds ++ left) = true
  · -- the scanner goes back to where it stood
    obtain ⟨hpoint, _⟩ := exists_of_isWordAt hw
    have hname := isNameChar_of_isDigit (isDigit_of_isNumberChar hc hpoint)
    obtain ⟨hle, hrun⟩ := takes_word hn h hname
    rw [numberFrom_of_word hw]
    refine ⟨hle, ?_⟩
    rw [number, run_get_bind, run_bind_of_ok hskip, run_get_bind, moveTo_position,
      run_bind_of_ok (h'.run_taken _), run_bind_of_ok h'.moveTo.run_peek, String.toList_ofList,
      hword, if_pos hw, run_modify_bind, moveTo_moveTo]
    exact hrun
  · rw [numberFrom_of_not_word hw, takeWhile_append_eq hds hleft, Takes, number, run_get_bind,
      run_bind_of_ok hskip, run_get_bind, moveTo_position, run_bind_of_ok (h'.run_taken _),
      run_bind_of_ok h'.moveTo.run_peek, String.toList_ofList, hword, if_neg hw]
    cases readNumeral? (c :: ds) with
    | none => exact ⟨by simp, by rw [List.take_left]; rfl⟩
    | some numeral => exact ⟨by simp, by rw [List.take_left]; rfl⟩

lemma find?_append {ds left : List Char} (h : ∀ d ∈ ds, d ≠ c) :
    find? c (ds ++ c :: left) = some (utf8Len ds) := by
  induction ds with
  | nil => simp [find?]
  | cons d ds ih =>
      obtain ⟨hd, hds⟩ := List.forall_mem_cons.mp h
      rw [List.cons_append, find?, if_neg hd, ih hds]
      simp [Nat.add_comm]

lemma find?_eq_none {ds : List Char} (h : ∀ d ∈ ds, d ≠ c) : find? c ds = none := by
  induction ds with
  | nil => rfl
  | cons d ds ih =>
      obtain ⟨hd, hds⟩ := List.forall_mem_cons.mp h
      rw [find?, if_neg hd, ih hds]
      rfl

lemma takes_bracketed (h : Between text s u ('[' :: cs)) :
    Takes (bracketed text) s u '[' cs (Token.bracketed cs) := by
  obtain ⟨ds, left, rfl, hds, hleft⟩ := exists_takeWhile (· != ']') cs
  have hinner : Between text (s.moveTo (utf8Len (u ++ ['[']))) (u ++ ['[']) (ds ++ left) :=
    Between.moveTo (v := ['[']) h
  have hother : ∀ d ∈ ds, d ≠ ']' := fun d hd => by simpa using hds d hd
  rw [Token.bracketed, takeWhile_append_eq hds hleft, bracketed, Takes, run_get_bind,
    run_bind_of_ok h.run_step, run_get_bind, run_bind_of_ok hinner.run_rest, String.toList_ofList,
    moveTo_position]
  cases left with
  | nil =>
      -- no bracket closes, and the scanner goes to the end of the text
      rw [List.append_nil] at h ⊢
      have hend : text.utf8ByteSize = utf8Len (u ++ '[' :: ds) := by rw [← h.split, utf8Len_toList]
      have hslice := run_slice (w := []) (s := s.moveTo (utf8Len (u ++ '[' :: ds)))
        (by rw [h.split, List.append_nil]) h.position rfl
      rw [find?_eq_none hother, if_pos rfl, hend]
      dsimp only
      rw [run_modify_bind, moveTo_moveTo, run_bind_of_ok hslice, List.take_length]
      exact ⟨Nat.le_refl _, rfl⟩
  | cons d left =>
      obtain rfl : d = ']' := by simpa using hleft d rfl
      have hslice := hinner.run_taken (s.moveTo (utf8Len (u ++ ['['])))
      have hlen : utf8Len (u ++ ['['] ++ ds) + 1 = utf8Len (u ++ '[' :: (ds ++ [']'])) := by
        rw [show u ++ '[' :: (ds ++ [']']) = u ++ ['['] ++ ds ++ [']'] by simp,
          String.utf8Len_append _ [']']]
        rfl
      have htake : (ds ++ ']' :: left).take (ds.length + 1) = ds ++ [']'] :=
        List.take_length_add_append 1
      rw [moveTo_position] at hslice
      rw [find?_append hother, if_neg (by simp)]
      dsimp only
      rw [← String.utf8Len_append, run_bind_of_ok hslice, run_modify_bind, moveTo_moveTo, htake,
        hlen]
      exact ⟨by simp, rfl⟩

lemma takes_plain (hn : text.toList.length < n) (h : Between text s u (c :: cs)) :
    Takes (plain text c n) s u c cs (Token.plainNext c cs) := by
  have hstep : (step text).run s = some (.ok (), s.moveTo (utf8Len (u ++ c :: cs.take 0))) :=
    h.run_step
  rw [plain, Token.plainNext]
  cases hsign : Token.ofSign? c with
  | some t => exact ⟨Nat.zero_le _, by rw [run_bind_of_ok hstep, run_pure]⟩
  | none =>
      dsimp only
      split_ifs with hbracket hnumber hname
      · subst hbracket
        exact takes_bracketed h
      · exact takes_number hn h hnumber
      · exact takes_word hn h hname
      · exact ⟨Nat.zero_le _, by rw [run_bind_of_ok hstep, run_pure]⟩

/-- **Cutting a token takes it and no more.**  A known name is not empty, so it takes the first
character of where it stands. -/
theorem takes_token {names : List String} (hn : text.toList.length < n)
    (hnames : ∀ n ∈ names, n.toList ≠ []) (h : Between text s u (c :: cs)) :
    Takes (token text names n) s u c cs (Token.next names u.getLast? c cs) := by
  rw [Token.next, Takes, token, run_bind_of_ok h.run_peek]
  dsimp only [List.head?_cons]
  by_cases hbracket : c = '['
  · rw [if_pos hbracket, if_pos hbracket, pure_bind]
    exact takes_plain hn h
  · rw [if_neg hbracket, if_neg hbracket]
    have hknown := h.run_known names
    cases hfind : names.find? (standsAt u.getLast? (c :: cs)) with
    | none =>
        rw [hfind] at hknown
        rw [run_bind_of_ok hknown]
        exact takes_plain hn h
    | some n =>
        rw [hfind] at hknown
        rw [run_bind_of_ok hknown]
        have hleads : n.toList.isPrefixOf (c :: cs) = true := by
          have hstands := List.find?_some hfind
          rw [standsAt, Bool.and_eq_true, Bool.and_eq_true] at hstands
          exact hstands.1.1
        have hne := hnames n (List.mem_of_find?_eq_some hfind)
        obtain ⟨d, ds, hn⟩ := List.exists_cons_of_ne_nil hne
        rw [hn, List.isPrefixOf_iff_prefix, List.cons_prefix_cons] at hleads
        obtain ⟨rfl, left, rfl⟩ := hleads
        have hlen : n.length - 1 = ds.length := by
          rw [← String.length_toList, hn, List.length_cons, Nat.add_sub_cancel]
        dsimp only
        rw [hlen, List.take_left, hn]
        exact ⟨by simp, rfl⟩

end

/-! ## From token to token -/

/-- The tokens of a text that stand behind its first characters. -/
def lexemesAt (names : List String) (u v : List Char) : List Lexeme :=
  lexemesFrom names 0 u.getLast? (utf8Len u) v

variable {names : List String}

lemma lexemesAt_nil (u : List Char) : lexemesAt names u [] = [] := by
  simp [lexemesAt, lexemesFrom]

/-- One character further on, the character in front and the number of bytes in front are those of
the part of the text that has been passed. -/
lemma lexemesFrom_concat (within : Nat) (u v : List Char) (c : Char) :
    lexemesFrom names within (some c) (utf8Len u + c.utf8Size) v =
      lexemesFrom names within (u ++ [c]).getLast? (utf8Len (u ++ [c])) v := by
  simp

/-- The characters of a token that has been cut are passed over. -/
lemma lexemesFrom_append (v : List Char) : ∀ w u : List Char,
    lexemesFrom names w.length u.getLast? (utf8Len u) (w ++ v) = lexemesAt names (u ++ w) v
  | [], u => by
      rw [List.append_nil]
      rfl
  | c :: w, u => by
      rw [List.cons_append, List.length_cons, lexemesFrom, lexemesFrom_concat,
        lexemesFrom_append v w, List.append_assoc]
      rfl

/-- White space is passed over. -/
lemma lexemesAt_blank (v : List Char) : ∀ w u : List Char, (∀ c ∈ w, isBlank c = true) →
    lexemesAt names u (w ++ v) = lexemesAt names (u ++ w) v
  | [], u, _ => by
      rw [List.append_nil]
      rfl
  | c :: w, u, hw => by
      obtain ⟨hc, hw⟩ := List.forall_mem_cons.mp hw
      rw [List.cons_append, lexemesAt, lexemesFrom, if_pos hc, lexemesFrom_concat]
      exact (lexemesAt_blank v w (u ++ [c]) hw).trans (by rw [List.append_assoc]; rfl)

lemma lexemesAt_cons {u cs : List Char} {c : Char} {t : Token} {k : Nat}
    (hc : isBlank c = false) (hnext : Token.next names u.getLast? c cs = (t, k))
    (hk : k ≤ cs.length) : lexemesAt names u (c :: cs) =
      ⟨t, utf8Len u, c :: cs⟩ :: lexemesAt names (u ++ c :: cs.take k) (cs.drop k) := by
  have htail : lexemesFrom names k (u ++ [c]).getLast? (utf8Len (u ++ [c])) cs =
      lexemesAt names (u ++ [c] ++ cs.take k) (cs.drop k) := by
    rw [← lexemesFrom_append, List.take_append_drop, List.length_take_of_le hk]
  rw [List.append_assoc] at htail
  rw [lexemesAt, lexemesFrom, if_neg (by simp [hc]), hnext]
  dsimp only
  rw [lexemesFrom_concat, htail]
  rfl

/-- No token that is cut off a text is the end of it. -/
lemma next_ne_eof (names : List String) (before : Option Char) (c : Char) (cs : List Char) :
    (Token.next names before c cs).1 ≠ .eof := by
  have hnumber : (Token.numberFrom c cs).1 ≠ .eof := by
    rw [Token.numberFrom]
    split_ifs
    · simp [Token.wordFrom]
    · split <;> simp
  have hbracket : (Token.bracketed cs).1 ≠ .eof := by
    rw [Token.bracketed]
    split_ifs <;> simp
  have hsign : ∀ t, Token.ofSign? c = some t → t ≠ .eof := by
    intro t ht
    unfold Token.ofSign? at ht
    split at ht <;> cases ht <;> simp
  rw [Token.next]
  split
  · simp
  · rw [Token.plainNext]
    split
    · exact hsign _ ‹_›
    · split_ifs
      · exact hbracket
      · exact hnumber
      · simp [Token.wordFrom]
      · simp

/-- The token in hand is the first of some tokens, and the scanner stands right behind it. -/
inductive InHand (text : String) (names : List String) (s : Scanner) : List Lexeme → Prop
  | eof : s.token = .eof → s.start = s.position → Between text s text.toList [] →
      InHand text names s []
  | token {u w v} : s.token ≠ .eof → w ≠ [] → s.start = utf8Len u → Between text s (u ++ w) v →
      InHand text names s (⟨s.token, s.start, w ++ v⟩ :: lexemesAt names (u ++ w) v)

variable {text : String} {s s' : Scanner}

namespace InHand

variable {ls : List Lexeme}

lemma front_eq (h : InHand text names s ls) : front ls = s.token := by
  cases h with
  | eof htoken _ _ => exact htoken.symm
  | token _ _ _ _ => rfl

/-- As long as there is a token left it is not the end. -/
lemma token_ne_eof {l : Lexeme} (h : InHand text names s (l :: ls)) : s.token ≠ .eof := by
  cases h with
  | token hne _ _ _ => exact hne

/-- What does not move the scanner leaves the token in hand. -/
lemma congr (h : InHand text names s ls) (htoken : s'.token = s.token) (hstart : s'.start = s.start)
    (hposition : s'.position = s.position) : InHand text names s' ls := by
  cases h with
  | eof heof hempty hend =>
      exact .eof (htoken.trans heof) (by rw [hstart, hposition, hempty])
        ⟨hend.split, hposition.trans hend.position⟩
  | token hne hw hu hbetween =>
      rw [← htoken, ← hstart]
      exact .token (htoken ▸ hne) hw (hstart.trans hu)
        ⟨hbetween.split, hposition.trans hbetween.position⟩

lemma exists_between (h : InHand text names s ls) :
    ∃ u v, Between text s u v ∧ lexemesAt names u v = ls.tail := by
  cases h with
  | eof _ _ hend => exact ⟨_, _, hend, lexemesAt_nil _⟩
  | token _ _ _ hbetween => exact ⟨_, _, hbetween, rfl⟩

lemma offset_apply (h : InHand text names s ls) (k : Nat) :
    Parser.offset text.utf8ByteSize ⟨ls, k⟩ = .ok (s.start, ⟨ls, k⟩) := by
  cases h with
  | eof _ hempty hend =>
      rw [hempty, hend.position, utf8Len_toList]
      rfl
  | token _ _ _ _ => rfl

/-- The rest of the text from the token on. -/
lemma run_slice_start (h : InHand text names s ls) :
    (slice text s.start text.utf8ByteSize).run s =
      some (.ok (String.ofList (ls.head?.elim [] (·.suffix))), s) := by
  cases h with
  | eof _ hempty hend =>
      refine run_slice (u := text.toList) (w := []) (by simp) (hempty.trans hend.position) ?_
      rw [← utf8Len_toList]
      simp
  | @token u w v _ _ hu hbetween =>
      have hsplit : text.toList = u ++ (w ++ v) := by rw [hbetween.split, List.append_assoc]
      refine run_slice (w := []) (by rw [hsplit, List.append_nil]; rfl) hu ?_
      rw [← utf8Len_toList, hsplit]
      rfl

end InHand

/-- **The scanner goes from token to token**, whatever stands in the text. -/
theorem ends_advance {u v : List Char} (hnames : ∀ n ∈ names, n.toList ≠ [])
    (h : Between text s u v) :
    ∃ s', Ends (advance text names) s (.ok ()) s' ∧
      InHand text names s' (lexemesAt names u v) ∧ s.position ≤ s'.start ∧
      s'.depth = s.depth ∧ s'.operators = s.operators := by
  obtain ⟨w, v, rfl, hw, hv⟩ := exists_takeWhile isBlank v
  let s₁ := (s.moveTo (utf8Len (u ++ w))).mark
  have hfrom : Between text s₁ (u ++ w) v := ⟨h.moveTo.split, rfl⟩
  have hle : s.position ≤ s₁.start := by
    rw [h.position]
    show utf8Len u ≤ utf8Len (u ++ w)
    simp
  -- the same token is cut however many rounds there are beyond those that the text needs
  have hrun : ∀ {t : Token} {s₂ : Scanner},
      (∀ n, text.toList.length < n → (token text names n).run s₁ = some (.ok t, s₂)) →
      Ends (advance text names) s (.ok ()) (s₂.hold t) := by
    refine fun htoken => ⟨text.toList.length + 1, fun n hn => ?_⟩
    rw [advance, run_bind_of_ok (h.run_skip hn hw hv), run_modify_bind,
      run_bind_of_ok (htoken n hn), run_modify]
  rw [lexemesAt_blank v w u hw]
  cases v with
  | nil =>
      have htoken : ∀ n, text.toList.length < n →
          (token text names n).run s₁ = some (.ok .eof, s₁) := by
        intro n _
        rw [token, run_bind_of_ok hfrom.run_peek]
        rfl
      have hall : text.toList = u ++ w := by rw [hfrom.split, List.append_nil]
      rw [lexemesAt_nil]
      exact ⟨_, hrun htoken, .eof rfl rfl ⟨(List.append_nil _).symm, hall ▸ rfl⟩, hle, rfl, rfl⟩
  | cons c cs =>
      have hne := next_ne_eof names (u ++ w).getLast? c cs
      have htakes := fun n (hn : text.toList.length < n) => takes_token hn hnames hfrom
      obtain ⟨hk, -⟩ := htakes _ (Nat.lt_succ_self _)
      cases hnext : Token.next names (u ++ w).getLast? c cs with
      | mk t k =>
          rw [hnext] at hk hne
          have htoken : ∀ n, text.toList.length < n → (token text names n).run s₁ =
              some (.ok t, s₁.moveTo (utf8Len (u ++ w ++ c :: cs.take k))) := by
            intro n hn
            simpa only [hnext] using (htakes n hn).2
          have hsplit : Between text s₁ (u ++ w) (c :: cs.take k ++ cs.drop k) := by
            rwa [List.cons_append, List.take_append_drop]
          have hin := @InHand.token text names
            ((s₁.moveTo (utf8Len (u ++ w ++ c :: cs.take k))).hold t) (u ++ w) (c :: cs.take k)
            (cs.drop k) hne (List.cons_ne_nil c _) rfl ⟨hsplit.moveTo.split, rfl⟩
          rw [List.cons_append, List.take_append_drop] at hin
          rw [lexemesAt_cons (hv c rfl) hnext hk]
          exact ⟨_, hrun htoken, hin, hle, rfl, rfl⟩

end Scan

end Markbook

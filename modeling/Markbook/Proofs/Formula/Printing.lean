import Markbook.Formula.Printer
import Markbook.Proofs.Formula.Reading
import Markbook.Proofs.Formula.Recovery

/-!
# Reading what was written

The text of a tree is read as the same tree, strictly and leniently.  The text writes a parenthesis
for every operation, so it is nested as deep as the tree is high, however flat the formula was that
the tree came from; and that is the one thing that can go wrong.

The tokens of the text are written down first.  On the one hand the text is cut into them, and the
grammar derives the tree from them with as many levels as the tree is high.  On the other hand no
run gets through them with fewer levels, as at each of them there is only one way to go on.

* `printTokens` — the tokens of the text of a tree.
* `writtenAll_chars` — the text is cut into them.
* `derives_printTokens` — the tree is derived from them.
* `height_le_of_trace` — a run needs as many levels as the tree is high.
* `read_print` — **what becomes of the text of a tree** that was itself read from a text.
-/

namespace Markbook

/-- The token of an operation. -/
def BinaryOp.token : BinaryOp → Token
  | add => .plus
  | subtract => .minus
  | multiply => .star
  | divide => .slash

lemma BinaryOp.ofSign?_symbol (op : BinaryOp) : Token.ofSign? op.symbol = some op.token := by
  cases op <;> rfl

namespace Formula

mutual

/-- The tokens that a tree is written with. -/
def printTokens : Formula → List Token
  | number x => [.number x]
  | name n => [.name n]
  | binary op l r => .leftParen :: l.printTokens ++ op.token :: r.printTokens ++ [.rightParen]
  | negate x => .minus :: x.printTokens
  | call g xs => .word g :: .leftParen :: printTokensAll xs ++ [.rightParen]

/-- The tokens of several trees with commas between them. -/
def printTokensAll : List Formula → List Token
  | [] => []
  | x :: xs => x.printTokens ++ printTokensBehind xs

/-- The tokens of several trees with a comma before each. -/
def printTokensBehind : List Formula → List Token
  | [] => []
  | x :: xs => .comma :: x.printTokens ++ printTokensBehind xs

end

/-! ## The text is cut into the tokens -/

/-- The leaves of a tree can be written such that they are cut off whole. -/
structure Printable (literals : List Float) (names functions : List String) : Prop where
  literals : ∀ x ∈ literals, Written (.number x) (printScore x).toList
  names : ∀ n ∈ names, Written (.name n) ('[' :: n.toList ++ [']'])
  functions : ∀ g ∈ functions, IsWord g.toList

lemma printable_append {xs ys : List Float} {ms ns gs hs : List String} :
    Printable (xs ++ ys) (ms ++ ns) (gs ++ hs) ↔ Printable xs ms gs ∧ Printable ys ns hs := by
  constructor
  · rintro ⟨hl, hn, hf⟩
    rw [List.forall_mem_append] at hl hn hf
    exact ⟨⟨hl.1, hn.1, hf.1⟩, ⟨hl.2, hn.2, hf.2⟩⟩
  · rintro ⟨⟨hl, hn, hf⟩, ⟨hl', hn', hf'⟩⟩
    exact ⟨List.forall_mem_append.mpr ⟨hl, hl'⟩, List.forall_mem_append.mpr ⟨hn, hn'⟩,
      List.forall_mem_append.mpr ⟨hf, hf'⟩⟩

lemma endsOperand_cons {c : Char} {t : Token} (h : Token.ofSign? c = some t) (v : List Char) :
    EndsOperand (c :: v) := by
  simpa [EndsOperand] using ⟨t, h⟩

lemma endsOperand_charsBehind (xs : List Formula) {v : List Char} (hv : EndsOperand v) :
    EndsOperand (charsBehind xs ++ v) := by
  cases xs with
  | nil => simpa [charsBehind] using hv
  | cons x xs =>
      rw [charsBehind, List.cons_append, List.cons_append]
      exact endsOperand_cons (t := .comma) rfl _

mutual

/-- **The text of a tree is cut into its tokens**, whatever ends the operand behind it. -/
theorem writtenAll_chars : ∀ (f : Formula), Printable f.literals f.occurrences f.functions →
    ∀ {us : List Token} {v : List Char}, EndsOperand v → WrittenAll us v →
      WrittenAll (f.printTokens ++ us) (f.chars ++ v)
  | number x, h, us, v, hv, hus =>
      .cons (h.literals x (by simp [literals])) (fun _ => hv) hus
  | name n, h, us, v, hv, hus =>
      .cons (h.names n (by simp [occurrences])) (fun _ => hv) hus
  | binary op l r, h, us, v, hv, hus => by
      obtain ⟨hl, hr⟩ := printable_append.mp h
      have hclose : WrittenAll (.rightParen :: us) (')' :: v) := .sign rfl hus
      have hright := writtenAll_chars r hr (endsOperand_cons (t := .rightParen) rfl v) hclose
      have hleft := writtenAll_chars l hl (endsOperand_cons op.ofSign?_symbol _)
        (.sign op.ofSign?_symbol hright)
      simpa [printTokens, chars] using WrittenAll.sign (c := '(') rfl hleft
  | negate x, h, us, v, hv, hus =>
      .sign (c := '-') rfl (writtenAll_chars x h hv hus)
  | call g xs, h, us, v, hv, hus => by
      obtain ⟨hg, hfunctions⟩ := List.forall_mem_cons.mp h.functions
      have hclose : WrittenAll (.rightParen :: us) (')' :: v) := .sign rfl hus
      have hargs := writtenAll_charsAll xs ⟨h.literals, h.names, hfunctions⟩
        (endsOperand_cons (t := .rightParen) rfl v) hclose
      have hword : Written (.word g) g.toList := by simpa using Written.word hg
      simpa [printTokens, chars] using WrittenAll.cons hword
        (fun _ => endsOperand_cons (t := .leftParen) rfl _) (.sign (c := '(') rfl hargs)

theorem writtenAll_charsAll : ∀ (xs : List Formula),
    Printable (literalsAll xs) (occurrencesAll xs) (functionsAll xs) →
    ∀ {us : List Token} {v : List Char}, EndsOperand v → WrittenAll us v →
      WrittenAll (printTokensAll xs ++ us) (charsAll xs ++ v)
  | [], _, us, v, _, hus => hus
  | x :: xs, h, us, v, hv, hus => by
      obtain ⟨hx, hxs⟩ := printable_append.mp h
      simpa [printTokensAll, charsAll] using
        writtenAll_chars x hx (endsOperand_charsBehind xs hv) (writtenAll_charsBehind xs hxs hv hus)

theorem writtenAll_charsBehind : ∀ (xs : List Formula),
    Printable (literalsAll xs) (occurrencesAll xs) (functionsAll xs) →
    ∀ {us : List Token} {v : List Char}, EndsOperand v → WrittenAll us v →
      WrittenAll (printTokensBehind xs ++ us) (charsBehind xs ++ v)
  | [], _, us, v, _, hus => hus
  | x :: xs, h, us, v, hv, hus => by
      obtain ⟨hx, hxs⟩ := printable_append.mp h
      simpa [printTokensBehind, charsBehind] using WrittenAll.sign (c := ',') rfl
        (writtenAll_chars x hx (endsOperand_charsBehind xs hv)
          (writtenAll_charsBehind xs hxs hv hus))

end

/-! ## The tree is derived from the tokens -/

end Formula

/-- More levels do no harm. -/
lemma Derives.mono {part : Part} {n m : Nat} {ts : List Token} {fs : List Formula}
    (h : Derives part n ts fs) (hle : n ≤ m) : Derives part m ts fs := by
  obtain ⟨k, rfl⟩ := Nat.exists_eq_add_of_le hle
  clear hle
  induction h with
  | ofTerm _ ih => exact .ofTerm ih
  | sum _ hop _ ih ih' => exact .sum ih hop ih'
  | ofFactor _ ih => exact .ofFactor ih
  | product _ hop _ ih ih' => exact .product ih hop ih'
  | plus _ ih =>
      rw [Nat.add_right_comm]
      exact .plus ih
  | minus _ ih =>
      rw [Nat.add_right_comm]
      exact .minus ih
  | parentheses _ ih =>
      rw [Nat.add_right_comm]
      exact .parentheses ih
  | call _ ih =>
      rw [Nat.add_right_comm]
      exact .call ih
  | number =>
      rw [Nat.add_right_comm]
      exact .number
  | name =>
      rw [Nat.add_right_comm]
      exact .name
  | word =>
      rw [Nat.add_right_comm]
      exact .word
  | noArgument => exact .noArgument
  | lastArgument _ ih => exact .lastArgument ih
  | argument _ _ ih ih' => exact .argument ih ih'

/-- An operation between two factors is an expression. -/
lemma derives_binary {op : BinaryOp} {n : Nat} {ts us : List Token} {f g : Formula}
    (hf : Derives .factor n ts [f]) (hg : Derives .factor n us [g]) :
    Derives .expression n (ts ++ op.token :: us) [.binary op f g] := by
  cases op with
  | add => exact .sum (.ofTerm (.ofFactor hf)) .add (.ofFactor hg)
  | subtract => exact .sum (.ofTerm (.ofFactor hf)) .subtract (.ofFactor hg)
  | multiply => exact .ofTerm (.product (.ofFactor hf) .multiply hg)
  | divide => exact .ofTerm (.product (.ofFactor hf) .divide hg)

namespace Formula

mutual

/-- **A tree is derived from its tokens**, with as many levels as it is high. -/
theorem derives_printTokens : ∀ (f : Formula), (∀ g ∈ f.functions, lowerCase g = g) →
    Derives .factor f.height f.printTokens [f]
  | number _, _ => .number
  | name _, _ => .name
  | binary op l r, h => by
      obtain ⟨hl, hr⟩ := List.forall_mem_append.mp h
      have hinner : Derives .expression (max l.height r.height)
          (l.printTokens ++ op.token :: r.printTokens) [.binary op l r] :=
        derives_binary ((derives_printTokens l hl).mono (Nat.le_max_left _ _))
          ((derives_printTokens r hr).mono (Nat.le_max_right _ _))
      simpa [printTokens, height] using hinner.parentheses
  | negate x, h => .minus (derives_printTokens x h)
  | call g xs, h => by
      obtain ⟨hg, hxs⟩ := List.forall_mem_cons.mp h
      have hcall : Derives .factor _ (call g xs).printTokens [.call (lowerCase g) xs] :=
        (derives_printTokensAll xs hxs).call
      rwa [hg] at hcall

theorem derives_printTokensAll : ∀ (xs : List Formula), (∀ g ∈ functionsAll xs, lowerCase g = g) →
    Derives .arguments (heightAll xs) (printTokensAll xs) xs
  | [], _ => .noArgument
  | [x], h => by
      have hx : ∀ g ∈ x.functions, lowerCase g = g := by simpa [functionsAll] using h
      have hfirst := (derives_printTokens x hx).mono (Nat.le_max_left _ (heightAll []))
      simpa [printTokensAll, printTokensBehind, heightAll] using
        Derives.lastArgument (.ofTerm (.ofFactor hfirst))
  | x :: y :: ys, h => by
      obtain ⟨hx, hys⟩ := List.forall_mem_append.mp h
      have hfirst := (derives_printTokens x hx).mono (Nat.le_max_left _ (heightAll (y :: ys)))
      have hrest := (derives_printTokensAll (y :: ys) hys).mono (Nat.le_max_right x.height _)
      exact .argument (.ofTerm (.ofFactor hfirst)) hrest

end

end Formula

/-! ## A run needs as many levels

At each of these tokens a run can go on in one way only.
-/

section

variable {mode : Mode} {n : Nat} {l : Lexeme} {ls ns : List Lexeme} {fs : List Formula}

lemma Closes.rest_eq {r : Lexeme} {rest : List Lexeme} (hr : r.token = .rightParen)
    (h : Closes mode (r :: rest) ns) : ns = rest := by
  cases h with
  | closed _ => rfl
  | missing _ hfront => exact absurd hr hfront

lemma Trace.chain_inv (level : Level) (h : Trace mode (.chain level) n ls fs ns) :
    ∃ f ms, Trace mode level.operand n ls [f] ms ∧ Trace mode (.behind level f) n ms fs ns := by
  cases h with
  | chain hfirst hbehind => exact ⟨_, _, hfirst, hbehind⟩

lemma Trace.behind_end {level : Level} {f : Formula} (hop : level.op? (front ls) = none)
    (h : Trace mode (.behind level f) n ls fs ns) : ns = ls := by
  cases h with
  | operator hop' _ _ => simp [front, hop'] at hop
  | chainEnd _ => rfl

lemma Trace.behind_operator {level : Level} {f : Formula} {op : BinaryOp}
    (hop : level.op? l.token = some op) (h : Trace mode (.behind level f) n (l :: ls) fs ns) :
    ∃ g g' ms, Trace mode level.operand n ls [g] ms ∧ Trace mode (.behind level g') n ms fs ns := by
  cases h with
  | operator _ hright hbehind => exact ⟨_, _, _, hright, hbehind⟩
  | chainEnd hnone => simp [front, hop] at hnone

lemma Trace.leaf_inv (hl : (∃ x, l.token = .number x) ∨ ∃ m, l.token = .name m)
    (h : Trace mode .factor n (l :: ls) fs ns) : ns = ls ∧ 1 ≤ n := by
  cases h with
  | number _ => exact ⟨rfl, Nat.succ_pos _⟩
  | name _ => exact ⟨rfl, Nat.succ_pos _⟩
  | missing _ hfront => rcases hl with ⟨x, hl⟩ | ⟨m, hl⟩ <;> simp [front, hl, Token.opens] at hfront
  | _ => rcases hl with ⟨x, hl⟩ | ⟨m, hl⟩ <;> simp_all

lemma Trace.minus_inv (hl : l.token = .minus) (h : Trace mode .factor n (l :: ls) fs ns) :
    ∃ m f, n = m + 1 ∧ Trace mode .factor m ls [f] ns := by
  cases h with
  | minus _ hoperand => exact ⟨_, _, rfl, hoperand⟩
  | missing _ hfront => simp [front, hl, Token.opens] at hfront
  | _ => simp_all

lemma Trace.parentheses_inv (hl : l.token = .leftParen)
    (h : Trace mode .factor n (l :: ls) fs ns) :
    ∃ m f ms, n = m + 1 ∧ Trace mode (.chain .sum) m ls [f] ms ∧ Closes mode ms ns := by
  cases h with
  | parentheses _ hinner hclose => exact ⟨_, _, _, rfl, hinner, hclose⟩
  | missing _ hfront => simp [front, hl, Token.opens] at hfront
  | _ => simp_all

lemma Trace.call_inv {p : Lexeme} {w : String} (hl : l.token = .word w)
    (hp : p.token = .leftParen) (h : Trace mode .factor n (l :: p :: ls) fs ns) :
    ∃ m gs ms, n = m + 1 ∧ Trace mode .arguments m ls gs ms ∧ Closes mode ms ns := by
  cases h with
  | call _ _ hargs hclose => exact ⟨_, _, _, rfl, hargs, hclose⟩
  | word _ hfront => exact absurd hp hfront
  | missing _ hfront => simp [front, hl, Token.opens] at hfront
  | _ => simp_all

/-- A factor with no operator behind it is a whole expression. -/
lemma Trace.expression_of_factor {rest : List Lexeme}
    (hfactor : ∀ {fs ms}, Trace mode .factor n ls fs ms → ms = rest)
    (hends : ∀ level : Level, level.op? (front rest) = none)
    (h : Trace mode (.chain .sum) n ls fs ns) :
    ns = rest ∧ ∃ gs, Trace mode .factor n ls gs rest := by
  obtain ⟨f, ms, hterm, hsums⟩ := h.chain_inv .sum
  obtain ⟨g, ms', hfirst, hproducts⟩ := Trace.chain_inv .product hterm
  obtain rfl := hfactor hfirst
  obtain rfl := hproducts.behind_end (hends _)
  exact ⟨hsums.behind_end (hends _), _, hfirst⟩

/-- An operation belongs to one level. -/
lemma op?_token (op : BinaryOp) :
    Level.sum.op? op.token = some op ∧ Level.product.op? op.token = none ∨
      Level.product.op? op.token = some op := by
  cases op <;> simp [Level.op?, BinaryOp.token]

/-- An expression of two factors and an operation between them. -/
lemma Trace.expression_of_binary {op : BinaryOp} {o : Lexeme} {rs rest : List Lexeme}
    (ho : o.token = op.token)
    (hleft : ∀ {fs ms}, Trace mode .factor n ls fs ms → ms = o :: rs)
    (hright : ∀ {fs ms}, Trace mode .factor n rs fs ms → ms = rest)
    (hends : ∀ level : Level, level.op? (front rest) = none)
    (h : Trace mode (.chain .sum) n ls fs ns) :
    ns = rest ∧ (∃ gs, Trace mode .factor n ls gs (o :: rs)) ∧
      ∃ gs, Trace mode .factor n rs gs rest := by
  obtain ⟨f, ms, hterm, hsums⟩ := h.chain_inv .sum
  obtain ⟨g, ms', hfirst, hproducts⟩ := Trace.chain_inv .product hterm
  obtain rfl := hleft hfirst
  rcases op?_token op with ⟨hop, hnone⟩ | hop
  · -- the term ends before the operation, and a term with one factor follows
    obtain rfl := hproducts.behind_end (by simpa [front, ho] using hnone)
    obtain ⟨k, k', ms, hterm', hsums'⟩ := hsums.behind_operator (ho ▸ hop)
    obtain ⟨e, ms', hsecond, hproducts'⟩ := Trace.chain_inv .product hterm'
    obtain rfl := hright hsecond
    obtain rfl := hproducts'.behind_end (hends _)
    exact ⟨hsums'.behind_end (hends _), ⟨_, hfirst⟩, _, hsecond⟩
  · -- the second factor belongs to the same term
    obtain ⟨k, k', ms', hsecond, hproducts'⟩ := hproducts.behind_operator (ho ▸ hop)
    obtain rfl := hright hsecond
    obtain rfl := hproducts'.behind_end (hends _)
    exact ⟨hsums.behind_end (hends _), ⟨_, hfirst⟩, _, hsecond⟩

end

namespace Formula

lemma op?_rightParen (level : Level) : level.op? .rightParen = none := by
  cases level <;> rfl

lemma printTokens_ne_rightParen (f : Formula) :
    ∃ t ts, f.printTokens = t :: ts ∧ t ≠ .rightParen := by
  cases f with
  | binary op l r => exact ⟨.leftParen, _, rfl, by simp⟩
  | _ => exact ⟨_, _, rfl, by simp⟩

/-- No operator stands behind an argument. -/
lemma op?_front_behind {xs : List Formula} {us rest : List Lexeme}
    (hus : tokensOf us = printTokensBehind xs) (hrest : front rest = .rightParen) (level : Level) :
    level.op? (front (us ++ rest)) = none := by
  cases xs with
  | nil =>
      obtain rfl : us = [] := List.map_eq_nil_iff.mp hus
      rw [List.nil_append, hrest, op?_rightParen]
  | cons x xs =>
      rw [front_append_of_tokensOf hus]
      cases level <;> rfl

mutual

/-- **A run needs as many levels as the tree is high**, and takes exactly the tokens of the tree. -/
theorem height_le_of_trace {mode : Mode} : ∀ (f : Formula) {n : Nat} {us rest ns : List Lexeme}
    {fs : List Formula}, tokensOf us = f.printTokens → Trace mode .factor n (us ++ rest) fs ns →
      ns = rest ∧ f.height ≤ n
  | number x, n, us, rest, ns, fs, hus, h => by
      obtain ⟨l, rfl, hl⟩ := List.map_eq_singleton_iff.mp hus
      exact h.leaf_inv (Or.inl ⟨x, hl⟩)
  | name m, n, us, rest, ns, fs, hus, h => by
      obtain ⟨l, rfl, hl⟩ := List.map_eq_singleton_iff.mp hus
      exact h.leaf_inv (Or.inr ⟨m, hl⟩)
  | negate x, n, us, rest, ns, fs, hus, h => by
      obtain ⟨l, vs, rfl, hl, hvs⟩ := List.map_eq_cons_iff.mp hus
      obtain ⟨m, f, rfl, hoperand⟩ := Trace.minus_inv hl h
      obtain ⟨hns, hheight⟩ := height_le_of_trace x hvs hoperand
      exact ⟨hns, Nat.succ_le_succ hheight⟩
  | binary op x y, n, us, rest, ns, fs, hus, h => by
      obtain ⟨as', qs, rfl, has', hqs⟩ := List.map_eq_append_iff.mp hus
      obtain ⟨p, as'', rfl, hp, has''⟩ := List.map_eq_cons_iff.mp has'
      obtain ⟨as, bs', rfl, has, hbs'⟩ := List.map_eq_append_iff.mp has''
      obtain ⟨o, bs, rfl, ho, hbs⟩ := List.map_eq_cons_iff.mp hbs'
      obtain ⟨q, rfl, hq⟩ := List.map_eq_singleton_iff.mp hqs
      simp only [List.cons_append, List.append_assoc, List.nil_append] at h
      obtain ⟨m, f, ms, rfl, hinner, hclose⟩ := Trace.parentheses_inv hp h
      obtain ⟨rfl, ⟨gs, hleft⟩, gs', hright⟩ := hinner.expression_of_binary ho
        (fun ht => (height_le_of_trace x has ht).1) (fun ht => (height_le_of_trace y hbs ht).1)
        (fun level => by rw [front, hq, op?_rightParen])
      have hx := (height_le_of_trace x has hleft).2
      have hy := (height_le_of_trace y hbs hright).2
      exact ⟨hclose.rest_eq hq, Nat.succ_le_succ (Nat.max_le.mpr ⟨hx, hy⟩)⟩
  | call g xs, n, us, rest, ns, fs, hus, h => by
      obtain ⟨as', qs, rfl, has', hqs⟩ := List.map_eq_append_iff.mp hus
      obtain ⟨w, as'', rfl, hw, has''⟩ := List.map_eq_cons_iff.mp has'
      obtain ⟨p, as, rfl, hp, has⟩ := List.map_eq_cons_iff.mp has''
      obtain ⟨q, rfl, hq⟩ := List.map_eq_singleton_iff.mp hqs
      simp only [List.cons_append, List.append_assoc, List.nil_append] at h
      obtain ⟨m, gs, ms, rfl, hargs, hclose⟩ := Trace.call_inv hw hp h
      obtain ⟨rfl, hheight⟩ := heightAll_le_of_trace xs has (by simp [front, hq]) hargs
      exact ⟨hclose.rest_eq hq, Nat.succ_le_succ hheight⟩

theorem heightAll_le_of_trace {mode : Mode} : ∀ (xs : List Formula) {n : Nat}
    {us rest ns : List Lexeme} {fs : List Formula}, tokensOf us = printTokensAll xs →
      front rest = .rightParen → Trace mode .arguments n (us ++ rest) fs ns →
        ns = rest ∧ heightAll xs ≤ n
  | [], n, us, rest, ns, fs, hus, hrest, h => by
      obtain rfl : us = [] := List.map_eq_nil_iff.mp hus
      cases h with
      | noArguments _ => exact ⟨rfl, Nat.zero_le _⟩
      | arguments hfront _ _ => exact absurd hrest hfront
  | x :: xs, n, us, rest, ns, fs, hus, hrest, h => by
      obtain ⟨as, bs, rfl, has, hbs⟩ := List.map_eq_append_iff.mp hus
      rw [List.append_assoc] at h
      cases h with
      | noArguments hfront =>
          obtain ⟨t, ts, hx, ht⟩ := printTokens_ne_rightParen x
          rw [front_append_of_tokensOf (has.trans hx)] at hfront
          exact absurd hfront ht
      | arguments _ hfirst hmore =>
          obtain ⟨rfl, gs, hfactor⟩ := hfirst.expression_of_factor
            (fun ht => (height_le_of_trace x has ht).1) (op?_front_behind hbs hrest)
          have hx := (height_le_of_trace x has hfactor).2
          obtain ⟨hns, hxs⟩ := heightBehind_le_of_trace xs hbs hrest hmore
          exact ⟨hns, Nat.max_le.mpr ⟨hx, hxs⟩⟩

theorem heightBehind_le_of_trace {mode : Mode} : ∀ (xs : List Formula) {n : Nat}
    {us rest ns : List Lexeme} {fs : List Formula}, tokensOf us = printTokensBehind xs →
      front rest = .rightParen → Trace mode .moreArguments n (us ++ rest) fs ns →
        ns = rest ∧ heightAll xs ≤ n
  | [], n, us, rest, ns, fs, hus, hrest, h => by
      obtain rfl : us = [] := List.map_eq_nil_iff.mp hus
      rw [List.nil_append] at h
      cases h with
      | moreArguments hl _ _ => simp [front, hl] at hrest
      | argumentsEnd _ => exact ⟨rfl, Nat.zero_le _⟩
  | x :: xs, n, us, rest, ns, fs, hus, hrest, h => by
      obtain ⟨as', bs, rfl, has', hbs⟩ := List.map_eq_append_iff.mp hus
      obtain ⟨c, as, rfl, hc, has⟩ := List.map_eq_cons_iff.mp has'
      rw [List.append_assoc, List.cons_append] at h
      cases h with
      | argumentsEnd hfront => exact absurd hc hfront
      | moreArguments _ hfirst hmore =>
          obtain ⟨rfl, gs, hfactor⟩ := hfirst.expression_of_factor
            (fun ht => (height_le_of_trace x has ht).1) (op?_front_behind hbs hrest)
          have hx := (height_le_of_trace x has hfactor).2
          obtain ⟨hns, hxs⟩ := heightBehind_le_of_trace xs hbs hrest hmore
          exact ⟨hns, Nat.max_le.mpr ⟨hx, hxs⟩⟩

end

/-! ## The text of a tree -/

variable {mode : Mode} {names : List String} {text : String} {f : Formula}

/-- What the parser makes of the tokens of a tree. -/
lemma formula_printTokens {size : Nat} {ls : List Lexeme} (hls : tokensOf ls = f.printTokens)
    (hlower : ∀ g ∈ f.functions, lowerCase g = g) (hoperators : f.operators ≤ maxOperators) :
    Parser.formula mode size ⟨ls, 0⟩ =
      if f.height ≤ maxNesting then .ok (f, ⟨[], f.operators⟩) else .error .tooDeep := by
  have hderives : Derives .expression f.height (tokensOf ls) [f] :=
    hls ▸ .ofTerm (.ofFactor (derives_printTokens f hlower))
  have houtcome := @outcome_of_derives mode size _ _ _ hderives
  cases hresult : Parser.formula mode size ⟨ls, 0⟩ with
  | error cause =>
      rw [hresult] at houtcome
      cases houtcome with
      | tooDeep hdeep => rw [if_neg (Nat.not_le_of_lt hdeep)]
      | tooMany hmany => exact absurd hoperators (Nat.not_le_of_lt hmany)
  | ok r =>
      have htrace := (Parser.sound_expression (Parser.sound_factor maxNesting) _ _ _ hresult).trace
      have hfactor : ∀ {fs ns}, Trace mode .factor maxNesting ls fs ns →
          ns = [] ∧ f.height ≤ maxNesting := fun ht =>
        height_le_of_trace f hls (by simpa using ht)
      obtain ⟨_, gs, hrun⟩ := htrace.expression_of_factor (fun ht => (hfactor ht).1)
        Parser.op?_eof
      rw [hresult] at houtcome
      cases houtcome
      rw [if_pos (hfactor hrun).2]

/-- What has to hold of a tree such that its text can say what it is. -/
structure IsWritable (f : Formula) : Prop where
  /-- The numbers are finite, and the text of each reads back. -/
  literals : ∀ x ∈ f.literals, x.isFinite = true ∧ readScore? (printScore x) = some x
  /-- The functions have only characters of names. -/
  functions : ∀ g ∈ f.functions, ∀ c ∈ g.toList, isNameChar c = true
  /-- No bracket closes in a name. -/
  names : ∀ n ∈ f.references, ']' ∉ n.toList

instance (f : Formula) : Decidable f.IsWritable :=
  decidable_of_iff
    ((∀ x ∈ f.literals, x.isFinite = true ∧ readScore? (printScore x) = some x) ∧
      (∀ g ∈ f.functions, g.toList.all isNameChar = true) ∧ ∀ n ∈ f.references, ']' ∉ n.toList)
    ⟨fun h => ⟨h.1, fun g hg => List.all_eq_true.mp (h.2.1 g hg), h.2.2⟩,
      fun h => ⟨h.literals, fun g hg => List.all_eq_true.mpr (h.functions g hg), h.names⟩⟩

/-- The leaves of such a tree are cut off whole, if the tree was read from a text. -/
lemma IsWritable.printable (h : f.IsWritable) (hread : read mode names text = .ok f) :
    Printable f.literals f.occurrences f.functions where
  literals x hx := by
    obtain ⟨hfinite, hback⟩ := h.literals x hx
    obtain ⟨hchars, n, hn, rfl⟩ :=
      numeral_of_signClear hfinite (signClear_of_mem_literals hread x hx) hback
    exact .number hchars hn
  names n hn := by
    have hreference := mem_references.mpr hn
    have hplain := normalize_eq_self.mp (normalize_of_mem_references hread hreference)
    simpa using Written.bracket hplain (h.names n hreference)
  functions g hg := by
    obtain ⟨w, hw, rfl⟩ := isWord_of_mem_functions hread g hg
    exact ⟨h.functions _ hg, exists_nonDigit_lowerCase hw.nonDigit⟩

/-- **The text of a tree is read as the tree.**  Take any tree that was read from a text, in
whatever mode and with whatever names, such that its numbers are finite and their texts read back,
its functions have only characters of names and no bracket closes in its names.  If the tree is not
higher than formulas may be nested, its text is read as the same tree in either mode; if it is
higher, its text cannot be read in either mode. -/
theorem read_print (hread : read mode names text = .ok f) (h : f.IsWritable) (mode' : Mode) :
    read mode' [] f.print =
      if f.height ≤ maxNesting then .ok f else .error (.parse .tooDeep) := by
  have hwritten : WrittenAll f.printTokens f.chars := by
    simpa using writtenAll_chars f (h.printable hread) (by simp [EndsOperand]) .nil
  have hplain : normalize f.print = f.print := by
    rw [normalize_eq_self, print, String.toList_ofList]
    exact hwritten.isBlank_eq_false
  have hlower : ∀ g ∈ f.functions, lowerCase g = g := by
    intro g hg
    obtain ⟨w, _, rfl⟩ := isWord_of_mem_functions hread g hg
    exact lowerCase_lowerCase w
  have htokens : tokensOf (lexemes [] f.print.toList) = f.printTokens := by
    rw [print, String.toList_ofList]
    exact hwritten.tokens_eq
  have hformula := @formula_printTokens mode' f f.print.utf8ByteSize _ htokens hlower
    (operators_of_read hread)
  rw [read, hplain, parseWith, show punctuatedNames [] = [] from rfl, hformula]
  split_ifs
  · cases mode' <;> rfl
  · rfl

/-- As many signs as there may be levels, with no operand between them: a flat product of zeros. -/
def stars : String :=
  String.ofList (List.replicate maxNesting '*')

/-- A formula that is cut short, with a bare name, a name in brackets, a function with letters
beyond ASCII and two signs in a row, can be read again.  The text of the flat product cannot. -/
theorem read_print_unfinished :
    (∃ f, read .lenient ["Lab-1"] "2 * Größe(Lab-1, [Test 1]) - -(.5 +" = .ok f ∧
      f.print = "((2*größe([Lab-1],[Test1]))--(0.5+0))" ∧
        ∀ mode', read mode' [] f.print = .ok f) ∧
    ∃ f, read .lenient [] stars = .ok f ∧ f.height = maxNesting + 1 ∧
      ∀ mode', read mode' [] f.print = .error (.parse .tooDeep) := by
  constructor
  · obtain ⟨f, hread, hwritable, hheight, hprint⟩ :=
      exists_ok_of_any (x := read .lenient ["Lab-1"] "2 * Größe(Lab-1, [Test 1]) - -(.5 +")
        (p := fun f => f.IsWritable ∧ f.height ≤ maxNesting ∧
          f.print = "((2*größe([Lab-1],[Test1]))--(0.5+0))") (by decide +kernel)
    exact ⟨f, hread, hprint, fun mode' =>
      (read_print hread hwritable mode').trans (if_pos hheight)⟩
  · have hchars : stars.toList = List.replicate maxNesting '*' := String.toList_ofList
    have hplain : normalize stars = stars := by
      rw [normalize_eq_self, hchars]
      intro c hc
      rw [List.eq_of_mem_replicate hc]
      decide
    obtain ⟨⟨f, c⟩, hrun, hwritable, hheight⟩ :=
      exists_ok_of_any (x := Parser.formula .lenient stars.utf8ByteSize
          ⟨lexemes [] (List.replicate maxNesting '*'), 0⟩)
        (p := fun r => r.1.IsWritable ∧ r.1.height = maxNesting + 1) (by decide +kernel)
    have hread : read .lenient [] stars = .ok f := by
      rw [read, hplain, show punctuatedNames [] = [] from rfl, parseWith_lenient_iff, hchars]
      exact ⟨c, hrun⟩
    have hdeep : ¬ f.height ≤ maxNesting := Nat.not_le_of_lt (hheight ▸ Nat.lt_succ_self _)
    exact ⟨f, hread, hheight, fun mode' =>
      (read_print hread hwritable mode').trans (if_neg hdeep)⟩

end Formula

end Markbook

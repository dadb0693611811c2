import Markbook.Proofs.Formula.Descent
import Markbook.Proofs.Formula.Passage
import Markbook.Proofs.Ordered

/-!
# Nothing stops or holds up the scanner

Whatever a text holds and whatever the names are that the scanner knows, a parser only ever gets to
places where the text can be sliced.  The token in hand starts and ends between two characters, and
one step of the parser keeps it so.  The next token therefore lies ahead, unless the text is at its
end.

That a parser comes to an end does not follow from this alone.  Where a lenient one misses an
operand it takes no token, so it stands still for that step.

* `ends_factor_missing` — the step that takes no token.
* `scanner_progresses` — **every text is read to an end**, and the scanner moves with every token.
-/

namespace Markbook

namespace Scan

/-- A lenient parser makes up an operand without moving the scanner. -/
lemma ends_factor_missing {text : String} {names : List String} {s : Scanner}
    (hdepth : s.depth < maxNesting) (htoken : s.token.opens = false) :
    Ends (factor .lenient text names) s (.ok (.number 0)) s := by
  have hprimary : ∀ n, (primary .lenient text names (n + 1)).run s.enter =
      some (.ok (.number 0), s.enter) := by
    intro n
    rw [primary, run_bind_of_ok run_current, enter_token]
    cases ht : s.token with
    | plus | minus | leftParen | number _ | name _ | word _ => simp [ht, Token.opens] at htoken
    | _ => rfl
  exact ends_factor hdepth (.next ⟨0, fun n _ => hprimary n⟩)

/-- No name that the scanner knows is empty. -/
lemma toList_ne_nil_of_mem_punctuatedNames (names : List String) :
    ∀ n ∈ punctuatedNames names, n.toList ≠ [] := by
  intro n hn hempty
  rw [punctuatedNames, mem_orderedSet, List.mem_filter, isPunctuated, hempty] at hn
  simp at hn

/-- **Every text is read to an end.**  In every state that a parser gets to, the offsets of the
token in hand lie in the text and between its characters, in this order.  From there the scanner
always finds the next token, and it slices no text where it cannot be sliced.  It has moved on
unless there is no text left.

These are all states that a parser passes through, by `through_formula`, up to the last one. -/
theorem scanner_progresses (mode : Mode) (names : List String) (text : String) :
    (∀ s, Reaches text (punctuatedNames names) Scanner.initial s →
      String.Pos.Raw.IsValid text ⟨s.start⟩ ∧ String.Pos.Raw.IsValid text ⟨s.position⟩ ∧
      s.start ≤ s.position ∧ s.position ≤ text.utf8ByteSize ∧
      (∃ s', Ends (advance text (punctuatedNames names)) s (.ok ()) s' ∧
        (s'.token = .eof ∧ s'.position = text.utf8ByteSize ∨
          s'.token ≠ .eof ∧ s.position < s'.position)) ∧
      (s.depth < maxNesting → s.token.opens = false →
        Ends (factor .lenient text (punctuatedNames names)) s (.ok (.number 0)) s)) ∧
    ∃ s, Ends (formula mode text (punctuatedNames names)) Scanner.initial
        ((Formula.parseWith mode (punctuatedNames names) text).mapError Halt.refused) s ∧
      Reaches text (punctuatedNames names) Scanner.initial s := by
  have hnames := toList_ne_nil_of_mem_punctuatedNames names
  constructor
  · intro s hreach
    have hplaced := hreach.placed hnames (placed_initial text)
    obtain ⟨hstart, hposition, hle, hend⟩ := hplaced.bounds
    obtain ⟨s', hends, _, hahead⟩ := exists_advance hnames hplaced
    exact ⟨hstart, hposition, hle, hend, ⟨s', hends, hahead⟩, ends_factor_missing⟩
  · obtain ⟨s, ⟨n, hrun⟩, _⟩ := ends_formula hnames
    exact ⟨s, ⟨n, hrun⟩, (through_formula mode hnames text n).last (hrun n (Nat.le_refl n))⟩

end Scan

end Markbook

import AccessPolicy.Proofs.Yaml.Places
import AccessPolicy.Yaml.Token.Scalar

namespace AccessPolicy.Yaml

variable {P : Mark → Prop} {began : Mark} {c d : Cursor}

section Quoted

theorem reads_quotedBreaks (steps : Nat) (ahead : c.Ahead P) (started : P began) :
    Reads P c (quotedBreaks began steps c) := by
  induction steps generalizing c with
  | zero => exact reads_ok (.refl c)
  | succ steps ih =>
    have blanks := c.follows_skip fun ch => ch == ' ' || ch == '\t'
    rw [quotedBreaks]
    split
    · exact meets_tokenFault started ahead.here
    · dsimp only
      split
      · have follows := blanks.trans (Cursor.follows_lineBreak _)
        have later := ahead.of follows
        refine ((ih later).bind later fun more e _ _ => ?_).behind follows
        exact reads_ok (.refl e)
      · exact reads_ok blanks

theorem reads_quotedSpaces (ahead : c.Ahead P) (started : P began) : Reads P c (quotedSpaces began c) := by
  have blanks := c.follows_advanceBy (c.run fun ch => ch == ' ' || ch == '\t').length
  unfold quotedSpaces
  dsimp only
  split
  · exact meets_tokenFault started (ahead.of blanks).here
  · split
    · have follows := blanks.trans (Cursor.follows_lineBreak _)
      have later := ahead.of follows
      refine ((reads_quotedBreaks _ later started).bind later fun more e _ _ => ?_).behind follows
      exact reads_ok (.refl e)
    · exact reads_ok blanks

theorem meets_ofCodePoint (n : Nat) : Meets (fun _ => True) (Failure.Places P) (ofCodePoint n) := by
  unfold ofCodePoint
  split
  · trivial
  · split
    · trivial
    · split <;> trivial

theorem reads_joinHalves (n : Nat) (c : Cursor) : Reads P c (joinHalves n c) := by
  unfold joinHalves
  split
  · exact reads_ok (c.follows_advanceBy 6)
  · exact (meets_ofCodePoint n).bind fun ch _ => reads_ok (.refl c)

theorem reads_quotedEscape (ahead : c.Ahead P) (started : P began) : Reads P c (quotedEscape began c) := by
  unfold quotedEscape
  split
  · exact reads_ok c.follows_advance
  · rename_i width _ _
    have aheadOne := ahead.of c.follows_advance
    dsimp only
    split
    · exact meets_tokenFault started aheadOne.here
    · have follows := c.follows_advance.trans (c.advance.follows_advanceBy width)
      refine ((reads_joinHalves _ _).behind follows).bind ahead fun ch d _ _ => ?_
      exact reads_ok (.refl d)
  · split
    · have follows := c.follows_lineBreak
      exact (reads_quotedBreaks _ (ahead.of follows) started).behind follows
    · exact meets_tokenFault started ahead.here

theorem reads_quotedPiece (double : Bool) (steps : Nat) (ahead : c.Ahead P) (started : P began) :
    Reads P c (quotedPiece double began steps c) := by
  induction steps generalizing c with
  | zero => exact reads_ok (.refl c)
  | succ steps ih =>
    have piece := c.follows_advanceBy (c.run fun ch => !(isGap ch || ch == '\'' || ch == '"' || ch == '\\')).length
    rw [quotedPiece]
    dsimp only
    refine Reads.behind ?_ piece
    have ahead := ahead.of piece
    generalize c.advanceBy _ = d at ahead ⊢
    split
    · have follows := d.follows_advanceBy 2
      refine ((ih (ahead.of follows)).behind follows).bind ahead fun more e _ _ => ?_
      exact reads_ok (.refl e)
    · split
      · refine ((ih (ahead.of d.follows_advance)).behind d.follows_advance).bind ahead fun more e _ _ => ?_
        exact reads_ok (.refl e)
      · split
        · have escaped := (reads_quotedEscape (ahead.of d.follows_advance) started).behind d.follows_advance
          refine escaped.bind ahead fun escaped e _ later => ?_
          refine (ih later).bind later fun more e _ _ => ?_
          exact reads_ok (.refl e)
        · exact reads_ok (.refl d)

theorem reads_quotedText (quote : Char) (steps : Nat) (ahead : c.Ahead P) (started : P began) :
    Reads P c (quotedText quote began steps c) := by
  induction steps generalizing c with
  | zero => exact reads_ok (.refl c)
  | succ steps ih =>
    rw [quotedText]
    refine (reads_quotedPiece _ _ ahead started).bind ahead fun piece d _ later => ?_
    dsimp only
    split
    · exact reads_ok (.refl d)
    · refine (reads_quotedSpaces later started).bind later fun spaces e _ later => ?_
      refine (ih later).bind later fun more f _ _ => ?_
      exact reads_ok (.refl f)

theorem readsToken_quoted (ahead : c.Ahead P) : ReadsToken P c (readQuoted c) := by
  have aheadOne := ahead.of c.follows_advance
  unfold readQuoted
  refine (reads_quotedText _ _ aheadOne ahead.here).meets_bind aheadOne fun text d follows later => ?_
  exact ⟨follows.trans d.follows_advance, ahead.here, (later.of d.follows_advance).here⟩

end Quoted

section Plain

theorem follows_plainBreaks (steps : Nat) (c : Cursor) : c.Follows (plainBreaks steps c).2 := by
  induction steps generalizing c with
  | zero => exact .refl c
  | succ steps ih =>
    have blanks := c.follows_skip (· == ' ')
    rw [plainBreaks]
    dsimp only
    split
    · have follows := blanks.trans (Cursor.follows_lineBreak _)
      split
      · exact follows
      · exact follows.trans (ih _)
    · exact blanks

theorem follows_plainSpaces (c : Cursor) : c.Follows (plainSpaces c).2.2 := by
  have blanks := c.follows_advanceBy (c.run (· == ' ')).length
  unfold plainSpaces
  dsimp only
  split
  · have follows := blanks.trans (Cursor.follows_lineBreak _)
    generalize (Cursor.lineBreak _).2 = d at follows ⊢
    split
    · exact follows
    · have later := follows.trans (follows_plainBreaks (d.rest.length + 1) d)
      split
      · rename_i stop
        rwa [stop] at later
      · rename_i stop
        rwa [stop] at later
  · exact blanks

/-- Whether a plain scalar has been read on from a place, its end being a place of a kind. -/
structure PlainPart.From (P : Mark → Prop) (c : Cursor) (part : PlainPart) : Prop where
  follows : c.Follows part.after
  stop : P part.stop

theorem from_plainFrom (inFlow : Bool) (indent : Int) (steps : Nat) (spaces : List Char) {part : PlainPart}
    (ahead : c.Ahead P) (sofar : part.From P c) : (plainFrom inFlow indent steps spaces part).From P c := by
  induction steps generalizing spaces part with
  | zero => exact sofar
  | succ steps ih =>
    rw [plainFrom]
    dsimp only
    split
    · exact sofar
    · split
      · exact sofar
      · have piece := sofar.follows.trans (part.after.follows_advanceBy (plainPiece inFlow part.after.rest).length)
        have next (text : List Char) (broke : Bool) : PlainPart.From P c ⟨text, _, _, broke⟩ :=
          ⟨piece.trans (follows_plainSpaces _), (ahead.of piece).here⟩
        split
        · exact next ..
        · exact ih _ (next ..)

/-- A plain scalar takes at least a character where it has a first piece. -/
theorem follows_readPlain (inFlow : Bool) (indent : Int) (ahead : c.Ahead P) (noComment : c.next ≠ '#')
    (starts : plainPiece inFlow c.rest ≠ []) :
    (readPlain inFlow indent c).1.Places P ∧ c.advance.Follows (readPlain inFlow indent c).2.2 := by
  have aheadOne := ahead.of c.follows_advance
  have piece : c.advance.Follows (c.advanceBy (plainPiece inFlow c.rest).length) := by
    obtain ⟨n, more⟩ := Nat.exists_eq_succ_of_ne_zero (mt List.length_eq_zero_iff.mp starts)
    rw [more]
    exact c.advance_follows_advanceBy n
  have whole : PlainPart.From P c.advance (plainFrom inFlow indent (c.rest.length + 1) [] ⟨[], c.mark, c, false⟩) := by
    rw [plainFrom]
    dsimp only
    rw [if_neg (by simpa using noComment), if_neg (by simpa using starts)]
    have first (text : List Char) (broke : Bool) : PlainPart.From P c.advance ⟨text, _, _, broke⟩ :=
      ⟨piece.trans (follows_plainSpaces _), (aheadOne.of piece).here⟩
    split
    · exact first ..
    · exact from_plainFrom inFlow indent _ _ aheadOne (first ..)
  exact ⟨⟨ahead.here, whole.stop⟩, whole.follows⟩

end Plain

section Block

theorem follows_readChomping (c : Cursor) : c.Follows (readChomping c).2 := by
  unfold readChomping
  split
  · exact c.follows_advance
  · split
    · exact c.follows_advance
    · exact .refl c

theorem reads_increment (ahead : c.Ahead P) (started : P began) : Reads P c (readIncrement began c) := by
  unfold readIncrement
  split
  · exact meets_tokenFault started ahead.here
  · split
    · exact reads_ok c.follows_advance
    · exact reads_ok (.refl c)

theorem follows_secondChomping (chomping : Chomping) (known : Prop) [Decidable known] (c : Cursor) :
    c.Follows (if known then readChomping c else (chomping, c)).2 := by
  split
  · exact follows_readChomping c
  · exact .refl c

theorem meets_blockHeader (ahead : c.Ahead P) (started : P began) :
    Meets (fun r => c.Follows r.2.2) (Failure.Places P) (readBlockHeader began c) := by
  have first := follows_readChomping c
  unfold readBlockHeader
  generalize readChomping c = read at first ⊢
  obtain ⟨chomping, d⟩ := read
  refine ((reads_increment (ahead.of first) started).behind first).meets_bind ahead fun increment e follows later => ?_
  have second := follows_secondChomping chomping (chomping = .clip ∧ increment.isSome) e
  dsimp only
  generalize (if chomping = .clip ∧ increment.isSome then readChomping e else (chomping, e)) = read at second ⊢
  split
  · exact meets_tokenFault started (later.of second).here
  · exact follows.trans second

theorem follows_skipIndent (indent steps : Nat) (c : Cursor) : c.Follows (skipIndent indent steps c) := by
  induction steps generalizing c with
  | zero => exact .refl c
  | succ steps ih =>
    rw [skipIndent]
    split
    · exact c.follows_advance.trans (ih _)
    · exact .refl c

theorem follows_leadingLines (breaks : List Char) (widest steps : Nat) {stop : Mark} (ahead : c.Ahead P)
    (stopped : P stop) :
    P (leadingLines breaks widest stop steps c).2.2.1 ∧ c.Follows (leadingLines breaks widest stop steps c).2.2.2 := by
  induction steps generalizing breaks widest stop c with
  | zero => exact ⟨stopped, .refl c⟩
  | succ steps ih =>
    rw [leadingLines]
    dsimp only
    split
    · obtain ⟨last, follows⟩ := ih breaks (max widest c.advance.mark.column) (ahead.of c.follows_advance) stopped
      exact ⟨last, c.follows_advance.trans follows⟩
    · split
      · have ahead := ahead.of c.follows_lineBreak
        obtain ⟨last, follows⟩ := ih (breaks ++ c.lineBreak.1) widest ahead ahead.here
        exact ⟨last, c.follows_lineBreak.trans follows⟩
      · exact ⟨stopped, .refl c⟩

theorem follows_blockBreaks (indent steps : Nat) {stop : Mark} (ahead : c.Ahead P) (stopped : P stop) :
    P (blockBreaks indent steps stop c).2.1 ∧ c.Follows (blockBreaks indent steps stop c).2.2 := by
  induction steps generalizing stop c with
  | zero => exact ⟨stopped, .refl c⟩
  | succ steps ih =>
    have indented := follows_skipIndent indent indent c
    rw [blockBreaks]
    dsimp only
    split
    · have broken := indented.trans (Cursor.follows_lineBreak _)
      have ahead := ahead.of broken
      obtain ⟨last, follows⟩ := ih ahead ahead.here
      exact ⟨last, broken.trans follows⟩
    · exact ⟨stopped, indented⟩

/-- Whether a block scalar has been read on from a place, its end being a place of a kind. -/
structure BlockPart.From (P : Mark → Prop) (c : Cursor) (part : BlockPart) : Prop where
  follows : c.Follows part.after
  stop : P part.stop

theorem from_blockLines (folded : Bool) (indent steps : Nat) {part : BlockPart} (ahead : c.Ahead P)
    (sofar : part.From P c) : (blockLines folded indent steps part).From P c := by
  induction steps generalizing part with
  | zero => exact sofar
  | succ steps ih =>
    rw [blockLines]
    dsimp only
    split
    · exact sofar
    · have line := sofar.follows.trans (part.after.follows_advanceBy (part.after.run (!isLineEnd ·)).length)
      have broken := line.trans (Cursor.follows_lineBreak _)
      have later := ahead.of broken
      obtain ⟨stop, more⟩ := follows_blockBreaks indent
        ((part.after.advanceBy (part.after.run (!isLineEnd ·)).length).lineBreak.2.rest.length + 1) later later.here
      have next (text ending breaks : List Char) : BlockPart.From P c ⟨text, ending, breaks, _, _⟩ :=
        ⟨broken.trans more, stop⟩
      split
      · exact next ..
      · exact ih (next ..)

theorem readsToken_block (outer : Int) (ahead : c.Ahead P) : ReadsToken P c (readBlock outer c) := by
  have aheadOne := ahead.of c.follows_advance
  unfold readBlock
  refine (meets_blockHeader aheadOne ahead.here).bind fun header inHeader => ?_
  refine (meets_skipLineRest (aheadOne.of inHeader) ahead.here).bind fun d inLine => ?_
  have follows := inHeader.trans inLine
  have later := aheadOne.of follows
  have lines (indent : Nat) (breaks : List Char) {stop : Mark} {e : Cursor} (lead : P stop ∧ d.Follows e) :=
    from_blockLines (c.next == '>') indent (d.rest.length + 1) aheadOne
      (⟨follows.trans lead.2, lead.1⟩ : BlockPart.From P c.advance ⟨[], [], breaks, stop, e⟩)
  obtain ⟨chomping, increment, e⟩ := header
  cases increment with
  | none =>
    have lead := follows_leadingLines [] 0 (d.rest.length + 1) later later.here
    exact ⟨(lines _ _ lead).follows, ahead.here, (lines _ _ lead).stop⟩
  | some n =>
    have lead := follows_blockBreaks (max (outer + 1).toNat 1 + n - 1) (d.rest.length + 1) later later.here
    exact ⟨(lines _ _ lead).follows, ahead.here, (lines _ _ lead).stop⟩

end Block

end AccessPolicy.Yaml

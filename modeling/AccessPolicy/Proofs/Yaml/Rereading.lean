import AccessPolicy.Proofs.Yaml.Cutoff
import AccessPolicy.Yaml.Token.Scalar

namespace AccessPolicy.Yaml

open Cursor (IsHead Onward OnLine)

variable {stop more lead : List Char} {c d : Cursor} {began began' : Mark} {n m : Nat}

section Quoted

theorem rereads_quotedBreaks (fence : IsFence stop more) (head : IsHead stop more lead c d) (enough : lead.length < n)
    (enough' : lead.length < m) :
    Rereads (OnLine stop more lead.length) (quotedBreaks began n d) (quotedBreaks began' m c) := by
  induction n generalizing m lead c d with
  | zero => omega
  | succ n ih =>
    obtain ⟨m, rfl⟩ : ∃ k, m = k + 1 := Nat.exists_eq_succ_of_ne_zero (by omega)
    rw [quotedBreaks, quotedBreaks]
    by_cases inside : lead = []
    · subst inside
      rw [if_pos (head.atDocumentMark_nil fence).1]
      exact rereads_fault
    · rw [head.atDocumentMark_eq inside]
      split
      · exact rereads_fault
      · obtain ⟨lead₁, inside₁, few₁, head₁⟩ := head.skip_onLine inside (p := fun ch => ch == ' ' || ch == '\t') rfl
        dsimp only
        rw [head₁.next_eq inside₁]
        split
        · rename_i breaks
          obtain ⟨same, lead₂, few₂, head₂⟩ := head₁.lineBreak inside₁ breaks
          have left := List.length_pos_iff.mpr inside₁
          rw [same]
          refine (ih head₂ (by omega) (by omega)).bind fun more e f onLine => ?_
          exact rereads_ok (onLine.mono (by omega))
        · exact rereads_ok ⟨lead₁, inside₁, few₁, head₁⟩

theorem rereads_quotedSpaces (fence : IsFence stop more) (head : IsHead stop more lead c d) (inside : lead ≠ [])
    (gap : isGap c.next = true) :
    Rereads (OnLine stop more (lead.length - 1)) (quotedSpaces began d) (quotedSpaces began' c) := by
  obtain ⟨same, shorter⟩ := head.run_eq inside (p := fun ch => ch == ' ' || ch == '\t') rfl
  obtain ⟨lead₁, inside₁, few₁, head₁⟩ := head.advanceBy_onLine shorter
  have left := List.length_pos_iff.mpr inside₁
  have goesOn : (c.advanceBy (c.run fun ch => ch == ' ' || ch == '\t').length).rest.isEmpty = false := by
    rw [head₁.part]
    simp [inside₁]
  have goesOn' : (d.advanceBy (c.run fun ch => ch == ' ' || ch == '\t').length).rest.isEmpty = false := by
    rw [head₁.whole]
    simp [inside₁]
  unfold quotedSpaces
  dsimp only
  rw [same, head₁.next_eq inside₁, goesOn, goesOn']
  simp only [Bool.false_eq_true, if_false]
  split
  · rename_i breaks
    obtain ⟨sameBreak, lead₂, few₂, head₂⟩ := head₁.lineBreak inside₁ breaks
    rw [sameBreak]
    refine (rereads_quotedBreaks fence head₂ ?_ ?_).bind fun more e f onLine => rereads_ok (onLine.mono (by omega))
    · rw [head₂.whole, List.length_append]
      omega
    · rw [head₂.part, List.length_append]
      omega
  · rename_i noBreak
    -- Where no line break follows the blanks, there is at least one blank.
    have blank : (c.run fun ch => ch == ' ' || ch == '\t') ≠ [] := by
      intro none
      simp only [none, List.length_nil, Cursor.advanceBy] at noBreak
      obtain ⟨ch, lead, rfl⟩ := List.exists_cons_of_ne_nil inside
      have noEnd := head.next_ne_end inside
      simp only [head.next_cons.1] at noBreak gap noEnd
      simp only [Cursor.run, head.part, List.cons_append, List.takeWhile_cons] at none
      simp only [isGap, isSpaceOrEnd, isLineEnd, Bool.or_eq_true, beq_iff_eq, noBreak, noEnd,
        Bool.false_eq_true, or_false] at gap
      rcases gap with rfl | rfl <;> simp at none
    have some := List.length_pos_iff.mpr blank
    exact rereads_ok ⟨lead₁, inside₁, by omega, head₁⟩

theorem secondHalf_eq (head : IsHead stop more lead c d) (inside : lead ≠ []) :
    secondHalf? d = secondHalf? c ∧ ∀ k, secondHalf? c = some k → 6 < lead.length := by
  have ends := head.lines.ends.resolve_left inside
  unfold secondHalf?
  rw [head.part, head.whole]
  match lead with
  | [] => exact absurd rfl inside
  | [a] =>
    obtain rfl : a = '\n' := by simpa using ends
    simp
  | a :: b :: lead =>
    by_cases escape : a = '\\' ∧ b = 'u'
    · obtain ⟨rfl, rfl⟩ := escape
      have lines : AreLines lead := head.lines.tail.tail
      have inside : lead ≠ [] := head.lines.tail.ne_nil (by decide)
      obtain ⟨whole, _⟩ := lines.takeWhile_append inside (p := isHexDigit) rfl (stop ++ more)
      obtain ⟨part, shorter⟩ := lines.takeWhile_append inside (p := isHexDigit) rfl stop
      simp only [List.cons_append, whole, part]
      by_cases four : 4 ≤ (lead.takeWhile isHexDigit).length
      · rw [List.take_append_of_le_length (by omega), List.take_append_of_le_length (by omega)]
        refine ⟨rfl, fun k _ => ?_⟩
        simp only [List.length_cons]
        omega
      · simp [four]
    · have other (after : List Char) : ¬∃ digits, a :: b :: (lead ++ after) = '\\' :: 'u' :: digits := by
        rintro ⟨digits, same⟩
        simp only [List.cons.injEq] at same
        exact escape ⟨same.1, same.2.1⟩
      constructor
      · split
        · rename_i digits same
          exact absurd ⟨digits, same⟩ (other _)
        · split
          · rename_i digits same
            exact absurd ⟨digits, same⟩ (other _)
          · rfl
      · intro k found
        split at found
        · rename_i digits same
          exact absurd ⟨digits, same⟩ (other _)
        · cases found

theorem rereads_joinHalves (head : IsHead stop more lead c d) (inside : lead ≠ []) (k : Nat) :
    Rereads (OnLine stop more lead.length) (joinHalves k d) (joinHalves k c) := by
  obtain ⟨same, long⟩ := secondHalf_eq head inside
  unfold joinHalves
  rw [same]
  split
  · rename_i second found
    have six : 6 < lead.length := by
      split at found
      · exact long second found
      · cases found
    exact rereads_ok ((head.advanceBy_onLine six).mono (by omega))
  · cases ofCodePoint k with
    | error failure => exact carries_error
    | ok ch => exact rereads_ok (head.onLine inside)

/-- Hexadecimal digits that follow stand before the end of the line. -/
theorem hexDigits_eq (head : IsHead stop more lead c d) (inside : lead ≠ []) {width : Nat}
    (digits : (List.range width).find? (fun k => !isHexDigit (d.peek k)) = none) :
    (List.range width).find? (fun k => !isHexDigit (c.peek k)) = none ∧ width < lead.length := by
  have left := List.length_pos_iff.mpr inside
  simp only [List.find?_eq_none, List.mem_range] at digits ⊢
  have within : width < lead.length := by
    by_contra beyond
    have feed : d.peek (lead.length - 1) = '\n' := by
      have last := head.lines.ends.resolve_left inside
      rw [List.getLast?_eq_getElem?] at last
      simp [Cursor.peek, head.whole, List.getElem?_append_left (show lead.length - 1 < lead.length by omega), last]
    have digit := digits (lead.length - 1) (by omega)
    rw [feed] at digit
    simp [isHexDigit] at digit
  refine ⟨fun k few => ?_, within⟩
  rw [← head.peek_eq (by omega)]
  exact digits k few

theorem rereads_quotedEscape (fence : IsFence stop more) (head : IsHead stop more lead c d) (inside : lead ≠ []) :
    Rereads (OnLine stop more lead.length) (quotedEscape began d) (quotedEscape began' c) := by
  unfold quotedEscape
  rw [head.next_eq inside]
  split
  · rename_i ch _ short
    have inLine : c.next ≠ '\n' := by
      intro feed
      simp [feed, shortEscape] at short
    exact rereads_ok ((head.advance_onLine inside inLine).mono (by omega))
  · rename_i width _ wide
    have inLine : c.next ≠ '\n' := by
      intro feed
      simp [feed, escapeWidth] at wide
    obtain ⟨lead₁, inside₁, few₁, head₁⟩ := head.advance_onLine inside inLine
    dsimp only
    split
    · exact rereads_fault
    · rename_i digits
      obtain ⟨digits', within⟩ := hexDigits_eq head₁ inside₁ digits
      obtain ⟨lead₂, inside₂, few₂, head₂⟩ := head₁.advanceBy_onLine within
      have number : d.advance.rest.take width = c.advance.rest.take width := by
        rw [head₁.part, head₁.whole, List.take_append_of_le_length (Nat.le_of_lt within),
          List.take_append_of_le_length (Nat.le_of_lt within)]
      rw [digits', number]
      refine (rereads_joinHalves head₂ inside₂ _).bind fun ch e f onLine => rereads_ok (onLine.mono (by omega))
  · split
    · rename_i breaks
      obtain ⟨_, lead₁, few₁, head₁⟩ := head.lineBreak inside breaks
      refine (rereads_quotedBreaks fence head₁ ?_ ?_).mono fun e f onLine => onLine.mono (by omega)
      · rw [head.whole, List.length_append]
        omega
      · rw [head.part, List.length_append]
        omega
    · exact rereads_fault

/-- A piece of a quoted scalar ends at its closing quote or at a gap. -/
theorem rereads_quotedPiece (fence : IsFence stop more) (head : IsHead stop more lead c d) (inside : lead ≠ [])
    (enough : lead.length < n) (enough' : lead.length < m) {quote : Char} (either : quote = '\'' ∨ quote = '"') :
    Rereads (fun e f => OnLine stop more lead.length e f ∧ (isGap f.next = true ∨ f.next = quote))
      (quotedPiece (quote == '"') began n d) (quotedPiece (quote == '"') began' m c) := by
  induction n generalizing m lead c d with
  | zero => omega
  | succ n ih =>
    obtain ⟨m, rfl⟩ : ∃ k, m = k + 1 := Nat.exists_eq_succ_of_ne_zero (by omega)
    obtain ⟨same, shorter⟩ := head.run_eq inside
      (p := fun ch => !(isGap ch || ch == '\'' || ch == '"' || ch == '\\')) rfl
    obtain ⟨lead₁, inside₁, few₁, head₁⟩ := head.advanceBy_onLine shorter
    have stops := c.run_stops fun ch => !(isGap ch || ch == '\'' || ch == '"' || ch == '\\')
    have goesOn : (c.advanceBy (c.run fun ch => !(isGap ch || ch == '\'' || ch == '"' || ch == '\\')).length).rest ≠ [] := by
      rw [head₁.part]
      simp [inside₁]
    have stopped := stops.resolve_left goesOn
    rw [quotedPiece, quotedPiece]
    dsimp only
    rw [same]
    generalize c.advanceBy (c.run fun ch => !(isGap ch || ch == '\'' || ch == '"' || ch == '\\')).length = f at *
    generalize d.advanceBy (c.run fun ch => !(isGap ch || ch == '\'' || ch == '"' || ch == '\\')).length = e at *
    have left := List.length_pos_iff.mpr inside₁
    have goOn {lead₂ : List Char} {e' f' : Cursor} (glue : List Char → List Char) (inside₂ : lead₂ ≠ [])
        (few₂ : lead₂.length ≤ lead₁.length - 1) (head₂ : IsHead stop more lead₂ f' e') :
        Rereads (fun e f => OnLine stop more lead.length e f ∧ (isGap f.next = true ∨ f.next = quote))
          (quotedPiece (quote == '"') began n e' >>= fun r => .ok (glue r.1, r.2))
          (quotedPiece (quote == '"') began' m f' >>= fun r => .ok (glue r.1, r.2)) :=
      (ih head₂ inside₂ (by omega) (by omega)).bind fun more e f related =>
        carries_ok ⟨rfl, related.1.mono (by omega), related.2⟩
    by_cases feed : f.next = '\n'
    · rw [head₁.next_eq inside₁, feed]
      simp only [Char.reduceBEq, Bool.and_false, Bool.false_and, Bool.or_self, Bool.false_eq_true, if_false]
      exact rereads_ok ⟨⟨lead₁, inside₁, by omega, head₁⟩, .inl (feed ▸ rfl)⟩
    · obtain ⟨lead₂, inside₂, few₂, head₂⟩ := head₁.advance_onLine inside₁ feed
      rw [head₁.next_eq inside₁, head₁.peek_one inside₁ feed]
      split
      · rename_i doubled
        have second : f.advance.next ≠ '\n' := by
          simp only [Bool.and_eq_true, beq_iff_eq, Cursor.peek_succ] at doubled
          exact ne_feed (p := (· == '\'')) (by simpa [Cursor.next] using doubled.2) rfl
        obtain ⟨lead₃, inside₃, few₃, head₃⟩ := head₂.advance_onLine inside₂ second
        exact goOn (fun more => _ ++ '\'' :: more) inside₃ (by omega) head₃
      · split
        · exact goOn (fun more => _ ++ f.next :: more) inside₂ few₂ head₂
        · split
          · refine (rereads_quotedEscape fence head₂ inside₂).bind fun escaped e f behind => ?_
            obtain ⟨lead₃, inside₃, few₃, head₃⟩ := behind
            exact goOn (fun more => _ ++ escaped ++ more) inside₃ (by omega) head₃
          · rename_i noPair noOther noEscape
            refine rereads_ok ⟨⟨lead₁, inside₁, by omega, head₁⟩, ?_⟩
            rcases either with rfl | rfl <;> cases gap : isGap f.next <;> simp_all

theorem rereads_quotedText (fence : IsFence stop more) (head : IsHead stop more lead c d) (inside : lead ≠ [])
    (enough : lead.length < n) (enough' : lead.length < m) {quote : Char} (either : quote = '\'' ∨ quote = '"') :
    Rereads (fun e f => OnLine stop more lead.length e f ∧ f.next = quote) (quotedText quote began n d)
      (quotedText quote began' m c) := by
  induction n generalizing m lead c d with
  | zero => omega
  | succ n ih =>
    obtain ⟨m, rfl⟩ : ∃ k, m = k + 1 := Nat.exists_eq_succ_of_ne_zero (by omega)
    have chars : lead.length < d.rest.length + 1 ∧ lead.length < c.rest.length + 1 := by
      rw [head.part, head.whole]
      simp only [List.length_append]
      omega
    rw [quotedText, quotedText]
    refine (rereads_quotedPiece fence head inside chars.1 chars.2 either).bind fun piece e f related => ?_
    obtain ⟨⟨lead₁, inside₁, few₁, head₁⟩, stopped⟩ := related
    dsimp only
    rw [head₁.next_eq inside₁]
    split
    · rename_i closed
      exact carries_ok ⟨rfl, ⟨lead₁, inside₁, few₁, head₁⟩, by simpa using closed⟩
    · rename_i open_
      have left := List.length_pos_iff.mpr inside₁
      have gap : isGap f.next = true := stopped.resolve_right (by simpa using open_)
      refine (rereads_quotedSpaces fence head₁ inside₁ gap).bind fun spaces g h behind => ?_
      obtain ⟨lead₂, inside₂, few₂, head₂⟩ := behind
      refine (ih head₂ inside₂ (by omega) (by omega)).bind fun text k l related => ?_
      exact carries_ok ⟨rfl, related.1.mono (by omega), related.2⟩

theorem rereads_quoted (fence : IsFence stop more) (head : IsHead stop more lead c d) (inside : lead ≠ [])
    (either : c.next = '\'' ∨ c.next = '"') :
    RereadsWord (OnLine stop more lead.length) (readQuoted d) (readQuoted c) := by
  have inLine {e : Cursor} (quote : e.next = '\'' ∨ e.next = '"') : e.next ≠ '\n' := by
    rcases quote with same | same <;> simp [same]
  obtain ⟨lead₁, inside₁, few₁, head₁⟩ := head.advance_onLine inside (inLine either)
  unfold readQuoted
  dsimp only
  rw [head.next_eq inside]
  refine (rereads_quotedText fence head₁ inside₁ ?_ ?_ either).bind
    fun text e f ⟨⟨lead₂, inside₂, few₂, head₂⟩, closed⟩ => ?_
  · rw [head.whole, List.length_append]
    omega
  · rw [head.part, List.length_append]
    omega
  · exact carries_ok ⟨rfl, (head₂.advance_onLine inside₂ (inLine (closed ▸ either))).mono (by omega)⟩

end Quoted

section Plain

theorem AreLines.plainPiece_append (lines : AreLines lead) (inside : lead ≠ []) (inFlow : Bool) (after : List Char) :
    plainPiece inFlow (lead ++ after) = plainPiece inFlow lead ∧ (plainPiece inFlow lead).length < lead.length := by
  induction lead with
  | nil => exact absurd rfl inside
  | cons ch lead ih =>
    by_cases feed : ch = '\n'
    · subst feed
      simp [plainPiece, endsPlain, isGap, isSpaceOrEnd, isLineEnd, isBreak]
    · have goesOn := lines.ne_nil feed
      obtain ⟨same, shorter⟩ := ih lines.tail goesOn
      have second : (lead ++ after).headD endMark = lead.headD endMark := by
        obtain ⟨next, lead, rfl⟩ := List.exists_cons_of_ne_nil goesOn
        rfl
      rw [List.cons_append, plainPiece, plainPiece, second, same]
      split
      · exact ⟨rfl, Nat.succ_pos _⟩
      · exact ⟨rfl, Nat.succ_lt_succ shorter⟩

/-- At the end of the text there are no breaks. -/
theorem plainBreaks_spent (spent : c.rest = []) (n : Nat) : plainBreaks n c = (some [], c) := by
  have stays : c.skip (· == ' ') = c := by simp [Cursor.skip, Cursor.run, spent, Cursor.advanceBy]
  have next : c.next = endMark := by simp [Cursor.next, Cursor.peek, spent]
  cases n with
  | zero => rfl
  | succ n =>
    rw [plainBreaks, stays, next]
    rfl

/-- The breaks of a plain scalar are those in the whole. Where it ends in the whole, there may be some more of them at the
end of the text that is left. -/
theorem plainBreaks_eq (fence : IsFence stop more) (head : IsHead stop more lead c d) (inside : lead ≠ [])
    (enough : lead.length < n) (enough' : lead.length < m) :
    (plainBreaks m c).1 = (plainBreaks n d).1 ∧ OnLine stop more lead.length (plainBreaks n d).2 (plainBreaks m c).2 ∨
      (plainBreaks n d).1 = none ∧ Onward stop more lead.length (plainBreaks n d).2 (plainBreaks m c).2 ∧
        ((plainBreaks m c).1 = none ∨ (plainBreaks m c).2.rest = []) := by
  induction n generalizing m lead c d with
  | zero => omega
  | succ n ih =>
    obtain ⟨m, rfl⟩ : ∃ k, m = k + 1 := Nat.exists_eq_succ_of_ne_zero (by omega)
    obtain ⟨lead₁, inside₁, few₁, head₁⟩ := head.skip_onLine inside (p := (· == ' ')) rfl
    have left := List.length_pos_iff.mpr inside₁
    rw [plainBreaks, plainBreaks]
    dsimp only
    rw [head₁.next_eq inside₁]
    split
    · rename_i breaks
      obtain ⟨same, lead₂, few₂, head₂⟩ := head₁.lineBreak inside₁ breaks
      rw [same]
      by_cases inside₂ : lead₂ = []
      · subst inside₂
        obtain ⟨marked, atEnd | marked'⟩ := head₂.atDocumentMark_nil fence
        · have spent : (c.skip (· == ' ')).lineBreak.2.rest = [] := by rw [head₂.part, atEnd, List.nil_append]
          rw [if_pos marked, plainBreaks_spent spent]
          refine .inr ⟨rfl, ?_, .inr ?_⟩
          · split <;> exact ⟨[], Nat.zero_le _, head₂⟩
          · split <;> exact spent
        · rw [if_pos marked, if_pos marked']
          exact .inr ⟨rfl, ⟨[], Nat.zero_le _, head₂⟩, .inl rfl⟩
      · rw [head₂.atDocumentMark_eq inside₂]
        split
        · exact .inr ⟨rfl, ⟨lead₂, by omega, head₂⟩, .inl rfl⟩
        · rcases ih head₂ inside₂ (m := m) (by omega) (by omega) with ⟨equal, onLine⟩ | ⟨ended, onward, rest⟩
          · exact .inl ⟨by rw [equal], onLine.mono (by omega)⟩
          · exact .inr ⟨by rw [ended]; rfl, onward.mono (by omega), rest.imp_left fun none => by rw [none]; rfl⟩
    · exact .inl ⟨rfl, lead₁, inside₁, few₁, head₁⟩

/-- The spaces in a plain scalar are those in the whole, up to its end there. -/
theorem plainSpaces_eq (fence : IsFence stop more) (head : IsHead stop more lead c d) (inside : lead ≠ []) :
    (plainSpaces c).2.1 = (plainSpaces d).2.1 ∧
      ((plainSpaces c).1 = (plainSpaces d).1 ∧ OnLine stop more lead.length (plainSpaces d).2.2 (plainSpaces c).2.2 ∨
        (plainSpaces d).1 = [] ∧ Onward stop more lead.length (plainSpaces d).2.2 (plainSpaces c).2.2 ∧
          ((plainSpaces c).1 = [] ∨ (plainSpaces c).2.2.rest = [])) := by
  obtain ⟨same, shorter⟩ := head.run_eq inside (p := (· == ' ')) rfl
  obtain ⟨lead₁, inside₁, few₁, head₁⟩ := head.advanceBy_onLine shorter
  have left := List.length_pos_iff.mpr inside₁
  unfold plainSpaces
  dsimp only
  rw [same, head₁.next_eq inside₁]
  split
  · rename_i breaks
    obtain ⟨sameBreak, lead₂, few₂, head₂⟩ := head₁.lineBreak inside₁ breaks
    rw [sameBreak]
    by_cases inside₂ : lead₂ = []
    · subst inside₂
      obtain ⟨marked, atEnd | marked'⟩ := head₂.atDocumentMark_nil fence
      · have spent : (c.advanceBy (c.run (· == ' ')).length).lineBreak.2.rest = [] := by
          rw [head₂.part, atEnd, List.nil_append]
        rw [if_pos marked, plainBreaks_spent spent]
        split
        · exact ⟨rfl, .inr ⟨rfl, ⟨[], Nat.zero_le _, head₂⟩, .inl rfl⟩⟩
        · exact ⟨rfl, .inr ⟨rfl, ⟨[], Nat.zero_le _, head₂⟩, .inr spent⟩⟩
      · rw [if_pos marked, if_pos marked']
        exact ⟨rfl, .inr ⟨rfl, ⟨[], Nat.zero_le _, head₂⟩, .inl rfl⟩⟩
    · rw [head₂.atDocumentMark_eq inside₂]
      split
      · exact ⟨rfl, .inr ⟨rfl, ⟨lead₂, by omega, head₂⟩, .inl rfl⟩⟩
      · have breaksThere := plainBreaks_eq fence head₂ inside₂
          (n := (d.advanceBy (c.run (· == ' ')).length).lineBreak.2.rest.length + 1)
          (m := (c.advanceBy (c.run (· == ' ')).length).lineBreak.2.rest.length + 1)
          (by rw [head₂.whole, List.length_append]; omega) (by rw [head₂.part, List.length_append]; omega)
        rcases breaksThere with ⟨equal, onLine⟩ | ⟨ended, onward, rest⟩
        · generalize plainBreaks _ (d.advanceBy (c.run (· == ' ')).length).lineBreak.2 = r at equal onLine ⊢
          generalize plainBreaks _ (c.advanceBy (c.run (· == ' ')).length).lineBreak.2 = r' at equal onLine ⊢
          obtain ⟨found, e⟩ := r
          obtain ⟨found', f⟩ := r'
          obtain rfl : found' = found := equal
          cases found' <;> exact ⟨rfl, .inl ⟨rfl, onLine.mono (by omega)⟩⟩
        · generalize plainBreaks _ (d.advanceBy (c.run (· == ' ')).length).lineBreak.2 = r at ended onward ⊢
          generalize plainBreaks _ (c.advanceBy (c.run (· == ' ')).length).lineBreak.2 = r' at onward rest ⊢
          obtain ⟨found, e⟩ := r
          obtain ⟨found', f⟩ := r'
          obtain rfl : found = none := ended
          cases found' with
          | none => exact ⟨rfl, .inr ⟨rfl, onward.mono (by omega), .inl rfl⟩⟩
          | some more => exact ⟨rfl, .inr ⟨rfl, onward.mono (by omega), rest.imp (fun none => nomatch none) id⟩⟩
  · exact ⟨rfl, .inl ⟨rfl, lead₁, inside₁, by omega, head₁⟩⟩

/-- No piece of a plain scalar stands at the end of the text. -/
theorem plainFrom_spent {part : PlainPart} (spent : part.after.rest = []) (inFlow : Bool) (indent : Int) (n : Nat)
    (spaces : List Char) : plainFrom inFlow indent n spaces part = part := by
  cases n with
  | zero => rfl
  | succ n =>
    rw [plainFrom, spent]
    simp [plainPiece]

theorem plainFrom_eq (fence : IsFence stop more) (inFlow : Bool) (indent : Int) (spaces : List Char)
    (part whole : PlainPart) (head : IsHead stop more lead part.after whole.after) (inside : lead ≠ [])
    (reversed : part.reversed = whole.reversed) (broke : part.broke = whole.broke) (enough : lead.length < n)
    (enough' : lead.length < m) :
    (plainFrom inFlow indent m spaces part).reversed = (plainFrom inFlow indent n spaces whole).reversed ∧
      (plainFrom inFlow indent m spaces part).broke = (plainFrom inFlow indent n spaces whole).broke ∧
      Onward stop more lead.length (plainFrom inFlow indent n spaces whole).after
        (plainFrom inFlow indent m spaces part).after := by
  induction n generalizing m lead spaces part whole with
  | zero => omega
  | succ n ih =>
    obtain ⟨m, rfl⟩ : ∃ k, m = k + 1 := Nat.exists_eq_succ_of_ne_zero (by omega)
    obtain ⟨samePart, shorter⟩ := head.lines.plainPiece_append inside inFlow stop
    obtain ⟨sameWhole, _⟩ := head.lines.plainPiece_append inside inFlow (stop ++ more)
    obtain ⟨lead₁, inside₁, few₁, head₁⟩ := head.advanceBy_onLine shorter
    rw [plainFrom, plainFrom]
    dsimp only
    rw [head.part, head.whole, samePart, sameWhole, head.next_eq inside]
    split
    · exact ⟨reversed, broke, head.onward⟩
    · split
      · exact ⟨reversed, broke, head.onward⟩
      · rename_i piece
        have taken : 0 < (plainPiece inFlow lead).length := by
          rw [List.length_pos_iff]
          simpa using piece
        obtain ⟨sameBroke, spacesThere⟩ := plainSpaces_eq fence head₁ inside₁
        generalize plainSpaces (whole.after.advanceBy (plainPiece inFlow lead).length) = r at sameBroke spacesThere ⊢
        generalize plainSpaces (part.after.advanceBy (plainPiece inFlow lead).length) = r' at sameBroke spacesThere ⊢
        obtain ⟨later, broke₁, e⟩ := r
        obtain ⟨later', broke₁', f⟩ := r'
        obtain rfl : broke₁' = broke₁ := sameBroke
        dsimp only at spacesThere ⊢
        rcases spacesThere with ⟨rfl, lead₂, inside₂, few₂, head₂⟩ | ⟨rfl, ⟨lead₂, few₂, head₂⟩, ended | spent⟩
        · rw [head₂.next_eq inside₂, head₂.column]
          split
          · exact ⟨by rw [reversed], rfl, lead₂, by omega, head₂⟩
          · obtain ⟨reversed', broke', onward⟩ := ih (m := m) later'
              ⟨_ ++ spaces.reverse ++ part.reversed, _, f, broke₁'⟩
              ⟨_ ++ spaces.reverse ++ whole.reversed, _, e, broke₁'⟩ head₂ inside₂
              (by rw [reversed]) rfl (by omega) (by omega)
            exact ⟨reversed', broke', onward.mono (by omega)⟩
        · obtain rfl := ended
          exact ⟨by simp [reversed], rfl, lead₂, by omega, head₂⟩
        · have stays (p : Prop) [Decidable p] (part : PlainPart) (spent : part.after.rest = []) :
              (if p then part else plainFrom inFlow indent m later' part) = part := by
            split
            · rfl
            · exact plainFrom_spent spent ..
          rw [stays _ _ spent]
          exact ⟨by simp [reversed], rfl, lead₂, by omega, head₂⟩

/-- A plain scalar of the text that is left has the text that it has in the whole. -/
theorem readPlain_eq (fence : IsFence stop more) (inFlow : Bool) (indent : Int) (head : IsHead stop more lead c d)
    (inside : lead ≠ []) :
    (readPlain inFlow indent c).1.word = (readPlain inFlow indent d).1.word ∧
      (readPlain inFlow indent c).2.1 = (readPlain inFlow indent d).2.1 ∧
      Onward stop more lead.length (readPlain inFlow indent d).2.2 (readPlain inFlow indent c).2.2 := by
  obtain ⟨reversed, broke, onward⟩ := plainFrom_eq fence inFlow indent (n := d.rest.length + 1)
    (m := c.rest.length + 1) [] ⟨[], c.mark, c, false⟩ ⟨[], d.mark, d, false⟩ head inside rfl rfl
    (by rw [head.whole, List.length_append]; omega) (by rw [head.part, List.length_append]; omega)
  exact ⟨by simp only [readPlain, reversed], broke, onward⟩

end Plain

section Block

theorem readChomping_eq (head : IsHead stop more lead c d) (inside : lead ≠ []) :
    (readChomping c).1 = (readChomping d).1 ∧
      OnLine stop more lead.length (readChomping d).2 (readChomping c).2 := by
  unfold readChomping
  rw [head.next_eq inside]
  split
  · rename_i plus
    exact ⟨rfl, (head.advance_onLine inside (ne_feed (p := (· == '+')) (by simpa using plus) rfl)).mono (by omega)⟩
  · split
    · rename_i minus
      exact ⟨rfl, (head.advance_onLine inside (ne_feed (p := (· == '-')) (by simpa using minus) rfl)).mono (by omega)⟩
    · exact ⟨rfl, head.onLine inside⟩

/-- An indentation that is given is at least one. -/
theorem rereads_increment (head : IsHead stop more lead c d) (inside : lead ≠ []) :
    Carries (fun r r' => r'.1 = r.1 ∧ (∀ k, r.1 = some k → 0 < k) ∧ OnLine stop more lead.length r.2 r'.2)
      (readIncrement began d) (readIncrement began' c) := by
  unfold readIncrement
  rw [head.next_eq inside]
  split
  · exact carries_error
  · rename_i notZero
    split
    · rename_i digit
      have inLine : c.next ≠ '\n' := ne_feed (p := Char.isDigit) digit rfl
      refine carries_ok ⟨rfl, ?_, (head.advance_onLine inside inLine).mono (by omega)⟩
      rintro k ⟨⟩
      have least : 48 ≤ c.next.toNat := by
        simp only [Char.isDigit, Bool.and_eq_true, decide_eq_true_eq] at digit
        exact digit.1
      have other : c.next.toNat ≠ 48 := fun same => notZero (by simpa using Char.toNat_inj.mp (same : _ = '0'.toNat))
      omega
    · exact carries_ok ⟨rfl, fun k none => (nomatch none), head.onLine inside⟩

theorem rereads_blockHeader (head : IsHead stop more lead c d) (inside : lead ≠ []) :
    Carries (fun r r' => r'.1 = r.1 ∧ r'.2.1 = r.2.1 ∧ (∀ k, r.2.1 = some k → 0 < k) ∧
        OnLine stop more lead.length r.2.2 r'.2.2)
      (readBlockHeader began d) (readBlockHeader began' c) := by
  obtain ⟨sameFirst, lead₁, inside₁, few₁, head₁⟩ := readChomping_eq head inside
  unfold readBlockHeader
  dsimp only
  refine (rereads_increment head₁ inside₁).bind
    fun (increment, e) (increment', f) ⟨same, least, lead₂, inside₂, few₂, head₂⟩ => ?_
  obtain rfl : increment' = increment := same
  dsimp only
  rw [sameFirst]
  obtain ⟨sameSecond, lead₃, inside₃, few₃, head₃⟩ := readChomping_eq head₂ inside₂
  have ending (chomping : Chomping) {e f : Cursor} (onLine : OnLine stop more lead.length e f) :
      Carries (fun r r' => r'.1 = r.1 ∧ r'.2.1 = r.2.1 ∧ (∀ k, r.2.1 = some k → 0 < k) ∧
          OnLine stop more lead.length r.2.2 r'.2.2)
        (if !isSpaceOrEnd e.next then tokenFault .blockScalar began (.expectedBlockHeader e.next) e.mark
          else (return (chomping, increment', e) : Except Failure _))
        (if !isSpaceOrEnd f.next then tokenFault .blockScalar began' (.expectedBlockHeader f.next) f.mark
          else (return (chomping, increment', f) : Except Failure _)) := by
    obtain ⟨lead₄, inside₄, few₄, head₄⟩ := onLine
    rw [head₄.next_eq inside₄]
    split
    · exact carries_error
    · exact carries_ok ⟨rfl, rfl, least, lead₄, inside₄, few₄, head₄⟩
  split
  · rw [sameSecond]
    exact ending _ ⟨lead₃, inside₃, by omega, head₃⟩
  · exact ending _ ⟨lead₂, inside₂, by omega, head₂⟩

theorem leadingLines_eq (fence : IsFence stop more) (head : IsHead stop more lead c d) (enough : lead.length < n)
    (enough' : lead.length < m) (breaks : List Char) (widest : Nat) (last last' : Mark) :
    (leadingLines breaks widest last' m c).1 = (leadingLines breaks widest last n d).1 ∧
      (leadingLines breaks widest last' m c).2.1 = (leadingLines breaks widest last n d).2.1 ∧
      Onward stop more lead.length (leadingLines breaks widest last n d).2.2.2
        (leadingLines breaks widest last' m c).2.2.2 := by
  induction n generalizing m lead c d breaks widest last last' with
  | zero => omega
  | succ n ih =>
    obtain ⟨m, rfl⟩ : ∃ k, m = k + 1 := Nat.exists_eq_succ_of_ne_zero (by omega)
    have space := head.kind_eq fence (· == ' ') ⟨rfl, rfl, rfl⟩
    have break_ := head.kind_eq fence isBreak ⟨rfl, rfl, rfl⟩
    rw [leadingLines, leadingLines]
    dsimp only
    rw [space, break_]
    split
    · rename_i isSpace
      obtain ⟨ch, lead, rfl⟩ := List.exists_cons_of_ne_nil
        (head.inside_of_kind fence (p := (· == ' ')) ⟨rfl, rfl, rfl⟩ isSpace)
      rw [head.advance.column]
      simp only [List.length_cons] at enough enough'
      obtain ⟨sameBreaks, sameWidest, onward⟩ := ih head.advance (m := m) (by omega) (by omega) breaks
        (max widest c.advance.mark.column) last last'
      exact ⟨sameBreaks, sameWidest, onward.mono (by simp)⟩
    · split
      · rename_i breaks_
        have inside := head.inside_of_kind fence ⟨rfl, rfl, rfl⟩ breaks_
        obtain ⟨same, lead₁, few₁, head₁⟩ := head.lineBreak inside breaks_
        have left := List.length_pos_iff.mpr inside
        rw [same]
        obtain ⟨sameBreaks, sameWidest, onward⟩ := ih head₁ (m := m) (by omega) (by omega) (breaks ++ c.lineBreak.1)
          widest d.lineBreak.2.mark c.lineBreak.2.mark
        exact ⟨sameBreaks, sameWidest, onward.mono (by omega)⟩
      · exact ⟨rfl, rfl, head.onward⟩

theorem skipIndent_onward (fence : IsFence stop more) (head : IsHead stop more lead c d) (indent steps : Nat) :
    Onward stop more lead.length (skipIndent indent steps d) (skipIndent indent steps c) := by
  induction steps generalizing lead c d with
  | zero => exact head.onward
  | succ steps ih =>
    rw [skipIndent, skipIndent, head.column, head.kind_eq fence (· == ' ') ⟨rfl, rfl, rfl⟩]
    split
    · rename_i goesOn
      obtain ⟨ch, lead, rfl⟩ := List.exists_cons_of_ne_nil
        (head.inside_of_kind fence (p := (· == ' ')) ⟨rfl, rfl, rfl⟩ (by simp_all))
      exact (ih head.advance).mono (by simp)
    · exact head.onward

theorem blockBreaks_eq (fence : IsFence stop more) (head : IsHead stop more lead c d) (indent : Nat)
    (enough : lead.length < n) (enough' : lead.length < m) (last last' : Mark) :
    (blockBreaks indent m last' c).1 = (blockBreaks indent n last d).1 ∧
      Onward stop more lead.length (blockBreaks indent n last d).2.2 (blockBreaks indent m last' c).2.2 := by
  induction n generalizing m lead c d last last' with
  | zero => omega
  | succ n ih =>
    obtain ⟨m, rfl⟩ : ∃ k, m = k + 1 := Nat.exists_eq_succ_of_ne_zero (by omega)
    obtain ⟨lead₁, few₁, head₁⟩ := skipIndent_onward fence head indent indent
    rw [blockBreaks, blockBreaks]
    dsimp only
    rw [head₁.kind_eq fence isBreak ⟨rfl, rfl, rfl⟩]
    split
    · rename_i breaks
      have inside₁ := head₁.inside_of_kind fence ⟨rfl, rfl, rfl⟩ breaks
      obtain ⟨same, lead₂, few₂, head₂⟩ := head₁.lineBreak inside₁ breaks
      have left := List.length_pos_iff.mpr inside₁
      obtain ⟨sameMore, onward⟩ := ih head₂ (m := m) (by omega) (by omega)
        (skipIndent indent indent d).lineBreak.2.mark (skipIndent indent indent c).lineBreak.2.mark
      rw [same]
      exact ⟨by rw [← sameMore], onward.mono (by omega)⟩
    · exact ⟨rfl, lead₁, few₁, head₁⟩

/-- Behind a line there is a line break. -/
theorem Cursor.IsHead.lineEnd (head : IsHead stop more lead c d) (inside : lead ≠ []) :
    d.run (!isLineEnd ·) = c.run (!isLineEnd ·) ∧
      (d.advanceBy (c.run (!isLineEnd ·)).length).lineBreak.1 = (c.advanceBy (c.run (!isLineEnd ·)).length).lineBreak.1 ∧
      Onward stop more (lead.length - 1) (d.advanceBy (c.run (!isLineEnd ·)).length).lineBreak.2
        (c.advanceBy (c.run (!isLineEnd ·)).length).lineBreak.2 := by
  obtain ⟨same, shorter⟩ := head.run_eq inside (p := (!isLineEnd ·)) rfl
  obtain ⟨lead₁, inside₁, few₁, head₁⟩ := head.advanceBy_onLine shorter
  have goesOn : (c.advanceBy (c.run (!isLineEnd ·)).length).rest ≠ [] := by
    rw [head₁.part]
    simp [inside₁]
  have ends := (c.run_stops (!isLineEnd ·)).resolve_left goesOn
  have breaks : isBreak (c.advanceBy (c.run (!isLineEnd ·)).length).next = true := by
    rw [Bool.not_eq_false', isLineEnd, Bool.or_eq_true, beq_iff_eq] at ends
    exact ends.resolve_right (head₁.next_ne_end inside₁)
  obtain ⟨sameBreak, onward⟩ := head₁.lineBreak inside₁ breaks
  exact ⟨same, sameBreak, onward.mono (by omega)⟩

theorem blockLines_eq (fence : IsFence stop more) (folded : Bool) (indent : Nat) (part whole : BlockPart)
    (indented : 0 < indent) {k : Nat} (onward : Onward stop more k whole.after part.after)
    (reversed : part.reversed = whole.reversed) (ending : part.ending = whole.ending)
    (breaks : part.breaks = whole.breaks) (enough : k < n) (enough' : k < m) :
    (blockLines folded indent m part).reversed = (blockLines folded indent n whole).reversed ∧
      (blockLines folded indent m part).ending = (blockLines folded indent n whole).ending ∧
      (blockLines folded indent m part).breaks = (blockLines folded indent n whole).breaks ∧
      Onward stop more k (blockLines folded indent n whole).after (blockLines folded indent m part).after := by
  -- The place where the text is cut off is in the first column, and so outside the scalar.
  have outside {e : Cursor} (first : e.mark.column = 0) : (e.mark.column != indent || e.rest.isEmpty) = true := by
    simp [first, Nat.ne_of_lt indented]
  have goesOn {lead : List Char} {e f : Cursor} (head : IsHead stop more lead f e) (inside : lead ≠ []) :
      (e.mark.column != indent || e.rest.isEmpty) = (f.mark.column != indent || f.rest.isEmpty) := by
    obtain ⟨ch, lead, rfl⟩ := List.exists_cons_of_ne_nil inside
    rw [head.column, head.part, head.whole]
    rfl
  induction n generalizing m k part whole with
  | zero => omega
  | succ n ih =>
    obtain ⟨m, rfl⟩ : ∃ j, m = j + 1 := Nat.exists_eq_succ_of_ne_zero (by omega)
    obtain ⟨lead, few, head⟩ := onward
    rw [blockLines, blockLines]
    dsimp only
    by_cases inside : lead = []
    · rw [if_pos (outside (head.first inside)), if_pos (outside (head.column ▸ head.first inside))]
      exact ⟨reversed, ending, breaks, lead, few, head⟩
    · rw [goesOn head inside]
      split
      · exact ⟨reversed, ending, breaks, lead, few, head⟩
      · obtain ⟨sameLine, sameEnding, lead₁, few₁, head₁⟩ := head.lineEnd inside
        have left := List.length_pos_iff.mpr inside
        rw [sameLine, head.next_eq inside]
        obtain ⟨sameBreaks, lead₂, few₂, head₂⟩ := blockBreaks_eq fence head₁ indent
          (n := (whole.after.advanceBy (part.after.run (!isLineEnd ·)).length).lineBreak.2.rest.length + 1)
          (m := (part.after.advanceBy (part.after.run (!isLineEnd ·)).length).lineBreak.2.rest.length + 1)
          (by rw [head₁.whole, List.length_append]; omega) (by rw [head₁.part, List.length_append]; omega)
          (whole.after.advanceBy (part.after.run (!isLineEnd ·)).length).lineBreak.2.mark
          (part.after.advanceBy (part.after.run (!isLineEnd ·)).length).lineBreak.2.mark
        rw [sameEnding, ← sameBreaks, reversed, breaks]
        by_cases inside₂ : lead₂ = []
        · rw [if_pos (outside (head₂.first inside₂)), if_pos (outside (head₂.column ▸ head₂.first inside₂))]
          exact ⟨rfl, rfl, rfl, lead₂, by omega, head₂⟩
        · rw [goesOn head₂ inside₂]
          split
          · exact ⟨rfl, rfl, rfl, lead₂, by omega, head₂⟩
          · rw [head₂.next_eq inside₂]
            obtain ⟨sameReversed, sameEnd, sameLast, onward⟩ := ih (m := m) ⟨_, _, _, _, _⟩
              ⟨_, _, _, _, _⟩ ⟨lead₂, Nat.le_refl _, head₂⟩ rfl rfl rfl (by omega) (by omega)
            exact ⟨sameReversed, sameEnd, sameLast, onward.mono (by omega)⟩

theorem rereads_block (fence : IsFence stop more) (head : IsHead stop more lead c d) (inside : lead ≠ [])
    (inLine : c.next ≠ '\n') (outer : Int) :
    RereadsWord (Onward stop more lead.length) (readBlock outer d) (readBlock outer c) := by
  obtain ⟨lead₁, inside₁, few₁, head₁⟩ := head.advance_onLine inside inLine
  unfold readBlock
  dsimp only
  rw [head.next_eq inside]
  refine (rereads_blockHeader head₁ inside₁).bind fun (chomping, increment, e) (chomping', increment', f)
    ⟨sameChomping, sameIncrement, least, lead₂, inside₂, few₂, head₂⟩ => ?_
  obtain rfl : chomping' = chomping := sameChomping
  obtain rfl : increment' = increment := sameIncrement
  refine (carries_skipLineRest head₂ inside₂).bind fun g h ⟨⟨lead₃, few₃, head₃⟩, _⟩ => ?_
  have chars : lead₃.length < g.rest.length + 1 ∧ lead₃.length < h.rest.length + 1 := by
    rw [head₃.part, head₃.whole]
    simp only [List.length_append]
    omega
  have few : lead₃.length ≤ lead.length := by omega
  dsimp only
  cases increment' with
  | none =>
    obtain ⟨sameBreaks, sameWidest, onward⟩ := leadingLines_eq fence head₃ chars.1 chars.2 [] 0 g.mark h.mark
    dsimp only
    rw [sameWidest]
    obtain ⟨reversed, ending, breaks, onward⟩ := blockLines_eq fence (c.next == '>')
      (max (max (outer + 1).toNat 1) (leadingLines [] 0 g.mark (g.rest.length + 1) g).2.1) ⟨[], [], _, _, _⟩
      ⟨[], [], _, _, _⟩ (by omega) onward rfl rfl sameBreaks chars.1 chars.2
    exact carries_ok ⟨by rw [reversed, ending, breaks], onward.mono few⟩
  | some k =>
    have indented := least k rfl
    obtain ⟨sameBreaks, onward⟩ := blockBreaks_eq fence head₃ (max (outer + 1).toNat 1 + k - 1) chars.1 chars.2
      g.mark h.mark
    dsimp only
    obtain ⟨reversed, ending, breaks, onward⟩ := blockLines_eq fence (c.next == '>')
      (max (outer + 1).toNat 1 + k - 1) ⟨[], [], _, _, _⟩ ⟨[], [], _, _, _⟩ (by omega) onward rfl rfl sameBreaks chars.1 chars.2
    exact carries_ok ⟨by rw [reversed, ending, breaks], onward.mono few⟩

end Block

end AccessPolicy.Yaml

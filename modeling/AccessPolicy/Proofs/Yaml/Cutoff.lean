import AccessPolicy.Proofs.Conditions
import AccessPolicy.Proofs.Yaml.Embedding

namespace AccessPolicy.Yaml

/-- The mark of a place when more text follows. -/
def Mark.before (more : List Char) (m : Mark) : Mark :=
  ⟨m.charsLeft + more.length, m.linesLeft + countBreaks more, m.column⟩

theorem Mark.before_inj {more : List Char} {m k : Mark} : m.before more = k.before more ↔ m = k := by
  cases m
  cases k
  simp [Mark.before]

/-- Whether a line ends where more text follows. -/
def EndsLine (stop more : List Char) : Prop := more = [] ∨ stop = [] ∨ stop.getLast? = some '\n'

/-- Where a text is cut off. A mark stands there in the whole. Of the text that is left there is nothing there, or there
is the line of a mark. -/
structure IsFence (stop more : List Char) : Prop where
  whole : (Cursor.start (stop ++ more)).atDocumentMark = true
  part : stop = [] ∨ (Cursor.start stop).atDocumentMark = true
  ends : EndsLine stop more

/-- Whether lines stand before the place where a text is cut off, each with its end, and nothing in them is taken for the
end of the text. -/
structure AreLines (lead : List Char) : Prop where
  ends : lead = [] ∨ lead.getLast? = some '\n'
  clean : endMark ∉ lead

theorem AreLines.tail {ch : Char} {lead : List Char} (lines : AreLines (ch :: lead)) : AreLines lead := by
  refine ⟨?_, fun member => lines.clean (List.mem_cons_of_mem ch member)⟩
  cases lead with
  | nil => exact .inl rfl
  | cons next lead => exact .inr (by simpa using lines.ends)

theorem AreLines.drop {lead : List Char} (lines : AreLines lead) (n : Nat) : AreLines (lead.drop n) := by
  induction n generalizing lead with
  | zero => exact lines
  | succ n ih =>
    cases lead with
    | nil => exact lines
    | cons ch lead => exact ih lines.tail

/-- Behind a character that is no line feed a line goes on. -/
theorem AreLines.ne_nil {ch : Char} {lead : List Char} (lines : AreLines (ch :: lead)) (inLine : ch ≠ '\n') :
    lead ≠ [] := by
  rintro rfl
  exact inLine (by simpa using lines.ends)

/-- A run of characters other than line feeds ends in the lines. -/
theorem AreLines.takeWhile_append {lead : List Char} (lines : AreLines lead) (inside : lead ≠ []) {p : Char → Bool}
    (stops : p '\n' = false) (after : List Char) :
    (lead ++ after).takeWhile p = lead.takeWhile p ∧ (lead.takeWhile p).length < lead.length := by
  induction lead with
  | nil => exact absurd rfl inside
  | cons ch lead ih =>
    by_cases holds : p ch = true
    · have inLine : ch ≠ '\n' := by
        rintro rfl
        simp [stops] at holds
      obtain ⟨same, shorter⟩ := ih lines.tail (lines.ne_nil inLine)
      simp [holds, same, shorter]
    · simp [holds]

/-- A character of a kind that line feeds are not of. -/
theorem ne_feed {p : Char → Bool} {ch : Char} (holds : p ch = true) (stops : p '\n' = false) : ch ≠ '\n' := by
  rintro rfl
  simp [stops] at holds

namespace Cursor

/-- Whether a place of a text that is cut off is the same as a place of the whole: so many characters stand before the
place where it is cut off. -/
structure IsHead (stop more lead : List Char) (c d : Cursor) : Prop where
  part : c.rest = lead ++ stop
  whole : d.rest = lead ++ (stop ++ more)
  column : d.mark.column = c.mark.column
  tells : c.Tells
  tellsWhole : d.Tells
  first : lead = [] → c.mark.column = 0
  lines : AreLines lead

/-- Whether two places are the same in a text that is cut off and in the whole, with at most so many characters before
the place where it is cut off. -/
def Onward (stop more : List Char) (n : Nat) (d c : Cursor) : Prop :=
  ∃ lead, lead.length ≤ n ∧ IsHead stop more lead c d

/-- The same for places in a line that stands before the place where the text is cut off. -/
def OnLine (stop more : List Char) (n : Nat) (d c : Cursor) : Prop :=
  ∃ lead, lead ≠ [] ∧ lead.length ≤ n ∧ IsHead stop more lead c d

variable {stop more lead : List Char} {ch : Char} {c d : Cursor} {n m : Nat}

theorem Onward.mono (onward : Onward stop more n d c) (le : n ≤ m) : Onward stop more m d c := by
  obtain ⟨lead, few, head⟩ := onward
  exact ⟨lead, Nat.le_trans few le, head⟩

theorem OnLine.mono (onLine : OnLine stop more n d c) (le : n ≤ m) : OnLine stop more m d c := by
  obtain ⟨lead, inside, few, head⟩ := onLine
  exact ⟨lead, inside, Nat.le_trans few le, head⟩

theorem OnLine.onward (onLine : OnLine stop more n d c) : Onward stop more n d c := by
  obtain ⟨lead, _, few, head⟩ := onLine
  exact ⟨lead, few, head⟩

theorem peek_succ (c : Cursor) (k : Nat) : c.peek (k + 1) = c.advance.peek k := by
  unfold peek
  rw [rest_advance]
  cases c.rest <;> simp

/-- Past spaces and a comment. -/
def pastComment (c : Cursor) : Cursor :=
  if (c.skip (· == ' ')).next == '#' then (c.skip (· == ' ')).skip (!isLineEnd ·) else c.skip (· == ' ')

theorem rest_skip (c : Cursor) (p : Char → Bool) : (c.skip p).rest = c.rest.dropWhile p := by
  rw [skip, rest_advanceBy, run]
  nth_rewrite 2 [← List.takeWhile_append_dropWhile (p := p) (l := c.rest)]
  exact List.drop_left

/-- A run of characters ends where the text does or where one of another kind follows. -/
theorem run_stops (c : Cursor) (p : Char → Bool) :
    (c.advanceBy (c.run p).length).rest = [] ∨ p (c.advanceBy (c.run p).length).next = false := by
  have behind : (c.advanceBy (c.run p).length).rest = c.rest.dropWhile p := c.rest_skip p
  unfold next peek
  rw [behind]
  have stops := List.head?_dropWhile_not p c.rest
  cases left : c.rest.dropWhile p with
  | nil => exact .inl rfl
  | cons ch rest => exact .inr (by simpa [left] using stops)

theorem lineBreak_pair {rest : List Char} (here : c.rest = '\r' :: '\n' :: rest) :
    c.lineBreak = (['\n'], c.advance.advance) := by
  unfold lineBreak
  rw [here]
  rfl

/-- A line break of one character counts as a line feed unless it is one of the separators of Unicode. -/
theorem lineBreak_single {rest : List Char} (here : c.rest = ch :: rest) (breaks : isBreak ch = true)
    (alone : ¬(ch = '\r' ∧ rest.head? = some '\n')) :
    c.lineBreak = (if ch = '\u2028' ∨ ch = '\u2029' then [ch] else ['\n'], c.advance) := by
  unfold lineBreak
  rw [here]
  simp only [isBreak, Bool.or_eq_true, beq_iff_eq] at breaks
  split
  · rename_i same
    cases same
    exact absurd ⟨rfl, rfl⟩ alone
  · rename_i same
    cases same
    rcases breaks with (((rfl | rfl) | rfl) | rfl) | rfl <;> rfl
  · rename_i same
    cases same

/-- Behind a line break another line starts. -/
theorem column_lineBreak (c : Cursor) (breaks : isBreak c.next = true) : c.lineBreak.2.mark.column = 0 := by
  have spent {e : Cursor} {ch : Char} {rest : List Char} (here : e.rest = ch :: rest) (ends : endsLine ch rest = true) :
      e.advance.mark.column = 0 := by
    simp [advance, here, ends]
  cases here : c.rest with
  | nil =>
    simp [next, peek, here, isBreak, endMark] at breaks
  | cons ch rest =>
    have next : c.next = ch := by simp [Cursor.next, peek, here]
    rw [next] at breaks
    by_cases pair : ch = '\r' ∧ rest.head? = some '\n'
    · obtain ⟨rfl, feed⟩ := pair
      obtain ⟨later, rfl⟩ := List.head?_eq_some_iff.mp feed
      rw [lineBreak_pair here]
      have feed : c.advance.rest = '\n' :: later := by rw [rest_advance, here, List.tail_cons]
      exact spent feed rfl
    · rw [lineBreak_single here breaks pair]
      refine spent here ?_
      unfold endsLine
      split
      · rename_i return_
        simpa [beq_iff_eq.mp return_] using pair
      · exact breaks

namespace IsHead

theorem onward (head : IsHead stop more lead c d) : Onward stop more lead.length d c := ⟨lead, Nat.le_refl _, head⟩

theorem onLine (head : IsHead stop more lead c d) (inside : lead ≠ []) : OnLine stop more lead.length d c :=
  ⟨lead, inside, Nat.le_refl _, head⟩

theorem mark (ends : EndsLine stop more) (head : IsHead stop more lead c d) : d.mark = c.mark.before more := by
  have ends : more = [] ∨ lead ++ stop = [] ∨ (lead ++ stop).getLast? = some '\n' := by
    rcases ends with none | rfl | last
    · exact .inl none
    · simpa using Or.inr head.lines.ends
    · exact .inr (.inr (by simp [last]))
  have chars : d.mark.charsLeft = c.mark.charsLeft + more.length := by
    rw [head.tells.chars, head.tellsWhole.chars, head.part, head.whole]
    simp [Nat.add_assoc]
  have lines : d.mark.linesLeft = c.mark.linesLeft + countBreaks more := by
    rw [head.tells.lines, head.tellsWhole.lines, head.part, head.whole, ← List.append_assoc, countBreaks_append ends]
  have column := head.column
  generalize d.mark = m at chars lines column ⊢
  cases m
  simp_all [Mark.before]

section Looking

theorem next_cons (head : IsHead stop more (ch :: lead) c d) : c.next = ch ∧ d.next = ch := by
  simp [Cursor.next, Cursor.peek, head.part, head.whole]

theorem next_eq (head : IsHead stop more lead c d) (inside : lead ≠ []) : d.next = c.next := by
  obtain ⟨ch, lead, rfl⟩ := List.exists_cons_of_ne_nil inside
  rw [head.next_cons.1, head.next_cons.2]

theorem next_ne_end (head : IsHead stop more lead c d) (inside : lead ≠ []) : c.next ≠ endMark := by
  obtain ⟨ch, lead, rfl⟩ := List.exists_cons_of_ne_nil inside
  rw [head.next_cons.1]
  rintro rfl
  exact head.lines.clean List.mem_cons_self

theorem peek_eq (head : IsHead stop more lead c d) (within : n < lead.length) : d.peek n = c.peek n := by
  simp [Cursor.peek, head.part, head.whole, List.getElem?_append_left within]

/-- The second character is one of the line unless the first ends it. -/
theorem peek_one (head : IsHead stop more lead c d) (inside : lead ≠ []) (inLine : c.next ≠ '\n') :
    d.peek 1 = c.peek 1 := by
  obtain ⟨ch, lead, rfl⟩ := List.exists_cons_of_ne_nil inside
  rw [head.next_cons.1] at inLine
  have more := List.length_pos_iff.mpr (head.lines.ne_nil inLine)
  exact head.peek_eq (by simp [more])

/-- At the place where the text is cut off a dash or a dot follows, or nothing. -/
theorem next_nil (fence : IsFence stop more) (head : IsHead stop more [] c d) :
    (d.next = '-' ∨ d.next = '.') ∧ (c.next = endMark ∨ c.next = '-' ∨ c.next = '.') := by
  have first {text : List Char} {e : Cursor} (here : e.rest = text) (marked : (start text).atDocumentMark = true) :
      e.next = '-' ∨ e.next = '.' := by
    have same : e.next = (start text).next := by simp [Cursor.next, Cursor.peek, start, here]
    rw [atDocumentMark_eq] at marked
    rw [same]
    simp only [Bool.and_eq_true, Bool.or_eq_true, beq_iff_eq] at marked
    exact marked.1.imp (·.1.1) (·.1.1)
  refine ⟨first head.whole fence.whole, ?_⟩
  rcases fence.part with rfl | marked
  · exact .inl (by simp [Cursor.next, Cursor.peek, head.part])
  · exact .inr (first head.part marked)

/-- The next characters are of the same kind for whatever takes no dash, no dot and no end. -/
theorem kind_eq (fence : IsFence stop more) (head : IsHead stop more lead c d) (p : Char → Bool)
    (others : p '-' = false ∧ p '.' = false ∧ p endMark = false) : p d.next = p c.next := by
  by_cases inside : lead = []
  · subst inside
    obtain ⟨whole, part⟩ := head.next_nil fence
    rcases whole with whole | whole <;> rcases part with part | part | part <;> simp [whole, part, others]
  · rw [head.next_eq inside]

/-- Where the next character is one of these, a line stands before the place where the text is cut off. -/
theorem inside_of_kind (fence : IsFence stop more) (head : IsHead stop more lead c d) {p : Char → Bool}
    (others : p '-' = false ∧ p '.' = false ∧ p endMark = false) (holds : p c.next = true) : lead ≠ [] := by
  rintro rfl
  obtain ⟨_, part | part | part⟩ := head.next_nil fence <;> simp [part, others] at holds

theorem run_eq (head : IsHead stop more lead c d) (inside : lead ≠ []) {p : Char → Bool} (stops : p '\n' = false) :
    d.run p = c.run p ∧ (c.run p).length < lead.length := by
  obtain ⟨same, shorter⟩ := head.lines.takeWhile_append inside stops stop
  unfold Cursor.run
  rw [head.part, head.whole, same, (head.lines.takeWhile_append inside stops (stop ++ more)).1]
  exact ⟨rfl, shorter⟩

theorem atDocumentMark_eq (head : IsHead stop more lead c d) (inside : lead ≠ []) :
    d.atDocumentMark = c.atDocumentMark := by
  have ends := head.lines.ends.resolve_left inside
  rw [Cursor.atDocumentMark_eq, Cursor.atDocumentMark_eq, Cursor.next, Cursor.next]
  unfold Cursor.peek
  rw [head.part, head.whole]
  rcases lead with _ | ⟨a, _ | ⟨b, _ | ⟨e, _ | ⟨f, later⟩⟩⟩⟩
  · exact absurd rfl inside
  · obtain rfl : a = '\n' := by simpa using ends
    simp
  · obtain rfl : b = '\n' := by simpa using ends
    simp
  · obtain rfl : e = '\n' := by simpa using ends
    simp
  · simp

/-- A mark that stands in a line is whole there. -/
theorem length_of_atDocumentMark (head : IsHead stop more lead c d) (inside : lead ≠ [])
    (marked : c.atDocumentMark = true) :
    3 < lead.length := by
  have ends := head.lines.ends.resolve_left inside
  rw [Cursor.atDocumentMark_eq, Cursor.next] at marked
  unfold Cursor.peek at marked
  rw [head.part] at marked
  rcases lead with _ | ⟨a, _ | ⟨b, _ | ⟨e, _ | ⟨f, later⟩⟩⟩⟩
  · exact absurd rfl inside
  · obtain rfl : a = '\n' := by simpa using ends
    simp at marked
  · obtain rfl : b = '\n' := by simpa using ends
    simp at marked
  · obtain rfl : e = '\n' := by simpa using ends
    simp at marked
  · simp

/-- The whole has a mark where the text is cut off. Cut off, the text ends there or has one too. -/
theorem atDocumentMark_nil (fence : IsFence stop more) (head : IsHead stop more [] c d) :
    d.atDocumentMark = true ∧ (stop = [] ∨ c.atDocumentMark = true) := by
  have same {text : List Char} {e : Cursor} (here : e.rest = text) :
      e.atDocumentMark = (start text).atDocumentMark := by
    simp [Cursor.atDocumentMark, Cursor.peek, start, here]
  refine ⟨by rw [same head.whole]; exact fence.whole, fence.part.imp_right fun marked => ?_⟩
  rw [same head.part]
  exact marked

end Looking

section Going

theorem advance (head : IsHead stop more (ch :: lead) c d) : IsHead stop more lead c.advance d.advance := by
  have part : c.rest = ch :: (lead ++ stop) := head.part
  have whole : d.rest = ch :: (lead ++ (stop ++ more)) := head.whole
  have spent : endsLine ch (lead ++ (stop ++ more)) = endsLine ch (lead ++ stop) := by
    rw [endsLine_append (.inr (head.lines.ends.resolve_left (List.cons_ne_nil _ _))),
      endsLine_append (.inr (head.lines.ends.resolve_left (List.cons_ne_nil _ _)))]
  refine ⟨by rw [rest_advance, part]; rfl, by rw [rest_advance, whole]; rfl, ?_, head.tells.advance, head.tellsWhole.advance,
    ?_, head.lines.tail⟩
  · unfold Cursor.advance
    rw [part, whole]
    dsimp only
    rw [spent]
    split
    · rfl
    · split <;> simp [head.column]
  · rintro rfl
    obtain rfl : ch = '\n' := by simpa using head.lines.ends
    unfold Cursor.advance
    rw [part]
    rfl

theorem advanceBy (head : IsHead stop more lead c d) (within : n ≤ lead.length) :
    IsHead stop more (lead.drop n) (c.advanceBy n) (d.advanceBy n) := by
  induction n generalizing lead c d with
  | zero => exact head
  | succ n ih =>
    cases lead with
    | nil => simp at within
    | cons ch lead => exact ih head.advance (by simpa using within)

/-- Past characters of a line, one stays in it. -/
theorem advanceBy_onLine (head : IsHead stop more lead c d) (within : n < lead.length) :
    OnLine stop more (lead.length - n) (d.advanceBy n) (c.advanceBy n) := by
  refine ⟨lead.drop n, ?_, by simp, head.advanceBy (Nat.le_of_lt within)⟩
  rw [Ne, List.drop_eq_nil_iff]
  omega

/-- Past a character of a line that does not end it. -/
theorem advance_onLine (head : IsHead stop more lead c d) (inside : lead ≠ []) (inLine : c.next ≠ '\n') :
    OnLine stop more (lead.length - 1) d.advance c.advance := by
  obtain ⟨ch, lead, rfl⟩ := List.exists_cons_of_ne_nil inside
  rw [head.next_cons.1] at inLine
  exact ⟨lead, head.lines.ne_nil inLine, by simp, head.advance⟩

theorem skip_onLine (head : IsHead stop more lead c d) (inside : lead ≠ []) {p : Char → Bool} (stops : p '\n' = false) :
    OnLine stop more lead.length (d.skip p) (c.skip p) := by
  obtain ⟨same, shorter⟩ := head.run_eq inside stops
  unfold Cursor.skip
  rw [same]
  exact (head.advanceBy_onLine shorter).mono (Nat.sub_le ..)

/-- Spaces and a comment end in their line. -/
theorem pastComment_onLine (head : IsHead stop more lead c d) (inside : lead ≠ []) :
    OnLine stop more lead.length d.pastComment c.pastComment := by
  obtain ⟨lead₁, inside₁, few₁, head₁⟩ := head.skip_onLine inside (p := (· == ' ')) rfl
  unfold Cursor.pastComment
  rw [head₁.next_eq inside₁]
  split
  · exact (head₁.skip_onLine inside₁ rfl).mono few₁
  · exact ⟨lead₁, inside₁, few₁, head₁⟩

/-- A run of characters that are neither line feeds, dashes nor dots stops where the text is cut off. -/
theorem run_kind (fence : IsFence stop more) (head : IsHead stop more lead c d) {p : Char → Bool}
    (others : p '-' = false ∧ p '.' = false ∧ p endMark = false) (stops : p '\n' = false) :
    d.run p = c.run p ∧ (c.run p).length ≤ lead.length := by
  by_cases inside : lead = []
  · subst inside
    have empty {e : Cursor} (next : p e.next = false) : e.run p = [] := by
      unfold Cursor.run
      cases rest : e.rest with
      | nil => rfl
      | cons ch rest =>
        have none : p ch = false := by simpa [Cursor.next, Cursor.peek, rest] using next
        simp [none]
    obtain ⟨whole, part⟩ := head.next_nil fence
    have here : d.run p = [] ∧ c.run p = [] := by
      refine ⟨empty ?_, empty ?_⟩
      · rcases whole with next | next <;> simp [next, others]
      · rcases part with next | next | next <;> simp [next, others]
    simp [here]
  · obtain ⟨same, shorter⟩ := head.run_eq inside stops
    exact ⟨same, Nat.le_of_lt shorter⟩

theorem skip_onward (fence : IsFence stop more) (head : IsHead stop more lead c d) {p : Char → Bool}
    (others : p '-' = false ∧ p '.' = false ∧ p endMark = false) (stops : p '\n' = false) :
    Onward stop more lead.length (d.skip p) (c.skip p) := by
  obtain ⟨same, within⟩ := head.run_kind fence others stops
  unfold Cursor.skip
  rw [same]
  exact ⟨_, by simp, head.advanceBy within⟩

/-- A line break before the place where the text is cut off reads the same. -/
theorem lineBreak (head : IsHead stop more lead c d) (inside : lead ≠ []) (breaks : isBreak c.next = true) :
    d.lineBreak.1 = c.lineBreak.1 ∧ Onward stop more (lead.length - 1) d.lineBreak.2 c.lineBreak.2 := by
  obtain ⟨ch, lead, rfl⟩ := List.exists_cons_of_ne_nil inside
  rw [head.next_cons.1] at breaks
  by_cases pair : ch = '\r' ∧ lead.head? = some '\n'
  · obtain ⟨rfl, feed⟩ := pair
    obtain ⟨later, rfl⟩ := List.head?_eq_some_iff.mp feed
    have part : c.rest = '\r' :: '\n' :: (later ++ stop) := head.part
    have whole : d.rest = '\r' :: '\n' :: (later ++ (stop ++ more)) := head.whole
    rw [lineBreak_pair part, lineBreak_pair whole]
    exact ⟨rfl, later, by simp, head.advance.advance⟩
  · have apart (after : List Char) : ¬(ch = '\r' ∧ (lead ++ after).head? = some '\n') := by
      rintro ⟨rfl, feed⟩
      obtain ⟨next, later, rfl⟩ := List.exists_cons_of_ne_nil (head.lines.ne_nil (by decide : '\r' ≠ '\n'))
      exact pair ⟨rfl, feed⟩
    have part : c.rest = ch :: (lead ++ stop) := head.part
    have whole : d.rest = ch :: (lead ++ (stop ++ more)) := head.whole
    rw [lineBreak_single part breaks (apart _), lineBreak_single whole breaks (apart _)]
    exact ⟨rfl, lead, by simp, head.advance⟩

end Going

end IsHead

end Cursor

/-- Whether what is read in the whole is read in the text that is cut off, up to places that correspond. -/
def Rereads {α : Type} (R : Cursor → Cursor → Prop) : Except Failure (α × Cursor) → Except Failure (α × Cursor) → Prop :=
  Carries fun r r' => r'.1 = r.1 ∧ R r.2 r'.2

/-- Whether the word of a token that is read in the whole is read in the text that is cut off. -/
def RereadsWord (R : Cursor → Cursor → Prop) :
    Except Failure (Token × Cursor) → Except Failure (Token × Cursor) → Prop :=
  Carries fun r r' => r'.1.word = r.1.word ∧ R r.2 r'.2

section Reading

open Cursor (IsHead Onward OnLine)

variable {α β β' : Type} {R S : Cursor → Cursor → Prop} {stop more lead : List Char} {c d : Cursor} {began began' : Mark}
  {activity naming : Activity} {n m : Nat}

theorem rereads_ok {x : α} (related : R d c) : Rereads R (.ok (x, d)) (.ok (x, c)) := carries_ok ⟨rfl, related⟩

theorem rereads_fault {whole : Mark} {problem : Problem} {second : Except Failure (α × Cursor)} :
    Rereads R (tokenFault activity began problem whole) second := carries_error

theorem Rereads.mono {first second : Except Failure (α × Cursor)} (rereads : Rereads R first second)
    (implies : ∀ d c, R d c → S d c) : Rereads S first second :=
  Carries.mono rereads fun _ _ related => ⟨related.1, implies _ _ related.2⟩

/-- A reading and then another trial. -/
theorem Rereads.bind {Q : β → β' → Prop} {first second : Except Failure (α × Cursor)}
    {next : α × Cursor → Except Failure β} {next' : α × Cursor → Except Failure β'} (rereads : Rereads R first second)
    (rest : ∀ x d c, R d c → Carries Q (next (x, d)) (next' (x, c))) : Carries Q (first >>= next) (second >>= next') := by
  refine Carries.bind rereads fun (x, d) (y, c) ⟨same, related⟩ => ?_
  obtain rfl : y = x := same
  exact rest y d c related

/-- Behind the rest of a line another line starts. -/
theorem carries_skipLineRest (head : IsHead stop more lead c d) (inside : lead ≠ []) :
    Carries (fun d c => Onward stop more lead.length d c ∧ c.mark.column = 0) (skipLineRest activity began d)
      (skipLineRest activity began' c) := by
  obtain ⟨lead₁, inside₁, few₁, head₁⟩ := head.pastComment_onLine inside
  change Carries _ (if isLineEnd d.pastComment.next then _ else _) (if isLineEnd c.pastComment.next then _ else _)
  rw [head₁.next_eq inside₁]
  split
  · rename_i ends
    have breaks : isBreak c.pastComment.next = true := by simpa [isLineEnd, head₁.next_ne_end inside₁] using ends
    exact carries_ok ⟨(head₁.lineBreak inside₁ breaks).2.mono (by omega), c.pastComment.column_lineBreak breaks⟩
  · exact carries_error

theorem rereads_anchor (head : IsHead stop more lead c d) (inside : lead ≠ []) (inLine : c.next ≠ '\n') :
    RereadsWord (OnLine stop more lead.length) (readAnchor d) (readAnchor c) := by
  obtain ⟨lead₁, inside₁, few₁, head₁⟩ := head.advance_onLine inside inLine
  obtain ⟨same, shorter⟩ := head₁.run_eq inside₁ (p := isNameChar) rfl
  obtain ⟨lead₂, inside₂, few₂, head₂⟩ := head₁.advanceBy_onLine shorter
  unfold readAnchor
  dsimp only
  rw [head.next_eq inside, same, head₂.next_eq inside₂]
  split
  · exact carries_error
  · split
    · exact carries_error
    · exact carries_ok ⟨rfl, lead₂, inside₂, by omega, head₂⟩

/-- A run of escapes takes characters of the line, and at least one if there is an escape. -/
theorem rereads_escapedBytes (bound : Nat) (head : IsHead stop more lead c d) (inside : lead ≠ [])
    (enough : lead.length ≤ n)
    (enough' : lead.length ≤ m) (few : lead.length ≤ bound + 1) (fewer : c.next ≠ '%' → lead.length ≤ bound) :
    Rereads (OnLine stop more bound) (readEscapedBytes activity began n d) (readEscapedBytes activity began' m c) := by
  have some_left := List.length_pos_iff.mpr inside
  induction n generalizing m lead c d bound with
  | zero => omega
  | succ n ih =>
    obtain ⟨m, rfl⟩ : ∃ k, m = k + 1 := Nat.exists_eq_succ_of_ne_zero (by omega)
    rw [readEscapedBytes, readEscapedBytes, head.next_eq inside]
    split
    · rename_i other
      exact rereads_ok ⟨lead, inside, fewer (by simpa using other), head⟩
    · rename_i escape
      have percent : c.next = '%' := by simpa using escape
      obtain ⟨lead₁, inside₁, few₁, head₁⟩ := head.advance_onLine inside (percent ▸ by decide)
      dsimp only
      rw [head₁.next_eq inside₁]
      split
      · exact rereads_fault
      · rename_i first
        obtain ⟨lead₂, inside₂, few₂, head₂⟩ :=
          head₁.advance_onLine inside₁ (ne_feed (p := isHexDigit) (by simpa using first) rfl)
        rw [Cursor.peek_succ, Cursor.peek_succ c.advance]
        change Rereads _ (if !isHexDigit d.advance.advance.next then _ else _)
          (if !isHexDigit c.advance.advance.next then _ else _)
        rw [head₂.next_eq inside₂]
        split
        · exact rereads_fault
        · rename_i second
          obtain ⟨lead₃, inside₃, few₃, head₃⟩ :=
            head₂.advance_onLine inside₂ (ne_feed (p := isHexDigit) (by simpa using second) rfl)
          have digits : d.advance.rest.take 2 = c.advance.rest.take 2 := by
            have two : 2 ≤ lead₁.length := by
              have := List.length_pos_iff.mpr inside₂
              omega
            rw [head₁.part, head₁.whole, List.take_append_of_le_length two, List.take_append_of_le_length two]
          rw [digits]
          have left := List.length_pos_iff.mpr inside₃
          refine (ih bound head₃ inside₃ (by omega) (by omega) (by omega) (fun _ => by omega) left).bind
            fun bytes e f related => ?_
          exact rereads_ok related

theorem rereads_addressFrom (head : IsHead stop more lead c d) (inside : lead ≠ []) (enough : lead.length < n)
    (enough' : lead.length < m) :
    Rereads (OnLine stop more lead.length) (readAddressFrom activity began n d) (readAddressFrom activity began' m c) := by
  induction n generalizing m lead c d with
  | zero => omega
  | succ n ih =>
    obtain ⟨m, rfl⟩ : ∃ k, m = k + 1 := Nat.exists_eq_succ_of_ne_zero (by omega)
    obtain ⟨same, shorter⟩ := head.run_eq inside (p := fun ch => isAddressChar ch && ch != '%') rfl
    obtain ⟨lead₁, inside₁, few₁, head₁⟩ := head.advanceBy_onLine shorter
    rw [readAddressFrom, readAddressFrom]
    dsimp only
    rw [same, head₁.next_eq inside₁]
    split
    · exact rereads_ok ⟨lead₁, inside₁, by omega, head₁⟩
    · rename_i escape
      have chars : lead₁.length ≤ (d.advanceBy (c.run fun ch => isAddressChar ch && ch != '%').length).rest.length ∧
          lead₁.length ≤ (c.advanceBy (c.run fun ch => isAddressChar ch && ch != '%').length).rest.length := by
        rw [head₁.part, head₁.whole]
        simp
      have left := List.length_pos_iff.mpr inside₁
      refine (rereads_escapedBytes (lead₁.length - 1) head₁ inside₁ chars.1 chars.2 (by omega)
        (fun other => absurd (by simpa using escape) other)).bind fun bytes e f behind => ?_
      obtain ⟨lead₂, inside₂, few₂, head₂⟩ := behind
      dsimp only
      split
      · exact rereads_fault
      · refine (ih head₂ inside₂ (by omega) (by omega)).bind fun rest e f onLine => ?_
        exact rereads_ok (onLine.mono (by omega))

theorem rereads_address (ends : EndsLine stop more) (head : IsHead stop more lead c d) (inside : lead ≠ []) :
    Rereads (OnLine stop more lead.length) (readAddress activity naming began d) (readAddress activity naming began' c) := by
  have chars : lead.length < d.rest.length + 1 ∧ lead.length < c.rest.length + 1 := by
    rw [head.part, head.whole]
    simp only [List.length_append]
    omega
  unfold readAddress
  refine (rereads_addressFrom head inside chars.1 chars.2).bind fun text e f ⟨lead₁, inside₁, few₁, head₁⟩ => ?_
  dsimp only
  rw [head.mark ends, head₁.mark ends]
  split
  · exact rereads_fault
  · rename_i moved
    rw [if_neg (mt Mark.before_inj.mpr moved)]
    exact rereads_ok ⟨lead₁, inside₁, few₁, head₁⟩

theorem rereads_handle (head : IsHead stop more lead c d) (inside : lead ≠ []) :
    Rereads (OnLine stop more lead.length) (readHandle activity began d) (readHandle activity began' c) := by
  unfold readHandle
  rw [head.next_eq inside]
  split
  · exact rereads_fault
  · rename_i bang
    have inLine : c.next ≠ '\n' := ne_feed (p := (· == '!')) (by simpa using bang) rfl
    obtain ⟨lead₁, inside₁, few₁, head₁⟩ := head.advance_onLine inside inLine
    obtain ⟨same, shorter⟩ := head₁.run_eq inside₁ (p := isNameChar) rfl
    obtain ⟨lead₂, inside₂, few₂, head₂⟩ := head₁.advanceBy_onLine shorter
    dsimp only
    rw [head.peek_one inside inLine, same]
    split
    · exact rereads_ok ⟨lead₁, inside₁, by omega, head₁⟩
    · change Rereads _ (if (d.advance.advanceBy _).next != '!' then _ else Except.ok (_, (d.advance.advanceBy _).advance))
        (if (c.advance.advanceBy _).next != '!' then _ else Except.ok (_, (c.advance.advanceBy _).advance))
      rw [head₂.next_eq inside₂]
      split
      · exact rereads_fault
      · rename_i closed
        have onLine := head₂.advance_onLine inside₂ (ne_feed (p := (· == '!')) (by simpa using closed) rfl)
        exact rereads_ok (onLine.mono (by omega))

theorem rereads_tagBody (ends : EndsLine stop more) (head : IsHead stop more lead c d) (inside : lead ≠ [])
    (bang : c.next = '!') : Rereads (OnLine stop more lead.length) (readTagBody began d) (readTagBody began' c) := by
  have inLine : c.next ≠ '\n' := bang ▸ by decide
  obtain ⟨lead₁, inside₁, few₁, head₁⟩ := head.advance_onLine inside inLine
  have one : Rereads (OnLine stop more lead.length) (.ok ("!", d.advance) : Except Failure (String × Cursor))
    (.ok ("!", c.advance)) := rereads_ok ⟨lead₁, inside₁, by omega, head₁⟩
  unfold readTagBody
  dsimp only
  rw [head.peek_one inside inLine]
  split
  · rename_i angle
    have second : c.advance.next ≠ '\n' :=
      ne_feed (p := (· == '<')) (by simpa [Cursor.peek_succ, Cursor.next] using angle) rfl
    obtain ⟨lead₂, inside₂, few₂, head₂⟩ := head₁.advance_onLine inside₁ second
    refine (rereads_address ends head₂ inside₂).bind fun suffix e f behind => ?_
    obtain ⟨lead₃, inside₃, few₃, head₃⟩ := behind
    dsimp only
    rw [head₃.next_eq inside₃]
    split
    · exact rereads_fault
    · rename_i closed
      have onLine := head₃.advance_onLine inside₃ (ne_feed (p := (· == '>')) (by simpa using closed) rfl)
      exact rereads_ok (onLine.mono (by omega))
  · split
    · exact rereads_ok ⟨lead₁, inside₁, by omega, head₁⟩
    · have suffix (handle : String) {e f : Cursor} (onLine : OnLine stop more lead.length e f) :
          Rereads (OnLine stop more lead.length)
            (readAddress .tag .tagName began e >>= fun r => .ok (Word.tag (some handle) r.1, r.2))
            (readAddress .tag .tagName began' f >>= fun r => .ok (Word.tag (some handle) r.1, r.2)) := by
        obtain ⟨lead₂, inside₂, few₂, head₂⟩ := onLine
        refine (rereads_address ends head₂ inside₂).bind fun suffix g h onLine => ?_
        exact rereads_ok (onLine.mono few₂)
      rw [(head₁.run_eq inside₁ (p := (!isSpaceOrEnd ·)) rfl).1]
      split
      · exact (rereads_handle head inside).bind fun handle e f onLine => suffix handle onLine
      · exact one.bind fun handle e f onLine => suffix handle onLine

theorem rereads_tag (ends : EndsLine stop more) (head : IsHead stop more lead c d) (inside : lead ≠ [])
    (bang : c.next = '!') : RereadsWord (OnLine stop more lead.length) (readTag d) (readTag c) := by
  unfold readTag
  refine (rereads_tagBody ends head inside bang).bind fun word e f ⟨lead₁, inside₁, few₁, head₁⟩ => ?_
  dsimp only
  rw [head₁.next_eq inside₁]
  split
  · exact carries_error
  · exact carries_ok ⟨rfl, lead₁, inside₁, few₁, head₁⟩

theorem rereads_versionNumber (head : IsHead stop more lead c d) (inside : lead ≠ []) :
    Rereads (OnLine stop more lead.length) (readVersionNumber began d) (readVersionNumber began' c) := by
  obtain ⟨same, shorter⟩ := head.run_eq inside (p := Char.isDigit) rfl
  unfold readVersionNumber
  dsimp only
  rw [same]
  split
  · exact rereads_fault
  · split
    · exact carries_error
    · exact rereads_ok ((head.advanceBy_onLine shorter).mono (by omega))

theorem rereads_version (head : IsHead stop more lead c d) (inside : lead ≠ []) :
    Rereads (OnLine stop more lead.length) (readVersion began d) (readVersion began' c) := by
  obtain ⟨lead₁, inside₁, few₁, head₁⟩ := head.skip_onLine inside (p := (· == ' ')) rfl
  unfold readVersion
  refine (rereads_versionNumber head₁ inside₁).bind fun major e f ⟨lead₂, inside₂, few₂, head₂⟩ => ?_
  dsimp only
  rw [head₂.next_eq inside₂]
  split
  · exact rereads_fault
  · rename_i dot
    obtain ⟨lead₃, inside₃, few₃, head₃⟩ :=
      head₂.advance_onLine inside₂ (ne_feed (p := (· == '.')) (by simpa using dot) rfl)
    refine (rereads_versionNumber head₃ inside₃).bind fun minor g h ⟨lead₄, inside₄, few₄, head₄⟩ => ?_
    dsimp only
    rw [head₄.next_eq inside₄]
    split
    · exact rereads_fault
    · exact rereads_ok ⟨lead₄, inside₄, by omega, head₄⟩

theorem rereads_handleDirective (ends : EndsLine stop more) (head : IsHead stop more lead c d) (inside : lead ≠ []) :
    Rereads (OnLine stop more lead.length) (readHandleDirective began d) (readHandleDirective began' c) := by
  obtain ⟨lead₁, inside₁, few₁, head₁⟩ := head.skip_onLine inside (p := (· == ' ')) rfl
  unfold readHandleDirective
  refine (rereads_handle head₁ inside₁).bind fun handle e f ⟨lead₂, inside₂, few₂, head₂⟩ => ?_
  dsimp only
  rw [head₂.next_eq inside₂]
  split
  · exact rereads_fault
  · obtain ⟨lead₃, inside₃, few₃, head₃⟩ := head₂.skip_onLine inside₂ (p := (· == ' ')) rfl
    refine (rereads_address ends head₃ inside₃).bind fun expansion g h ⟨lead₄, inside₄, few₄, head₄⟩ => ?_
    dsimp only
    rw [head₄.next_eq inside₄]
    split
    · exact rereads_fault
    · exact rereads_ok ⟨lead₄, inside₄, by omega, head₄⟩

theorem rereads_directive (ends : EndsLine stop more) (head : IsHead stop more lead c d) (inside : lead ≠ [])
    (inLine : c.next ≠ '\n') :
    RereadsWord (fun d c => Onward stop more lead.length d c ∧ c.mark.column = 0) (readDirective d) (readDirective c) := by
  obtain ⟨lead₁, inside₁, few₁, head₁⟩ := head.advance_onLine inside inLine
  obtain ⟨same, shorter⟩ := head₁.run_eq inside₁ (p := isNameChar) rfl
  obtain ⟨lead₂, inside₂, few₂, head₂⟩ := head₁.advanceBy_onLine shorter
  unfold readDirective
  dsimp only
  rw [same, head₂.next_eq inside₂]
  split
  · exact carries_error
  · have ending (directive : Directive) (e f : Cursor) (onLine : OnLine stop more lead₂.length e f) :
        RereadsWord (fun d c => Onward stop more lead.length d c ∧ c.mark.column = 0)
          (do
            let after ← skipLineRest .directive d.mark e
            return (⟨.directive directive, d.mark, e.mark⟩, after))
          (do
            let after ← skipLineRest .directive c.mark f
            return (⟨.directive directive, c.mark, f.mark⟩, after)) := by
      obtain ⟨lead₃, inside₃, few₃, head₃⟩ := onLine
      refine (carries_skipLineRest head₃ inside₃).bind fun g h ⟨onward, first⟩ => ?_
      exact carries_ok ⟨rfl, onward.mono (by omega), first⟩
    split
    · exact (rereads_version head₂ inside₂).bind ending
    · split
      · exact (rereads_handleDirective ends head₂ inside₂).bind ending
      · exact Rereads.bind (rereads_ok (head₂.skip_onLine inside₂ (p := (!isLineEnd ·)) rfl)) ending

end Reading

end AccessPolicy.Yaml

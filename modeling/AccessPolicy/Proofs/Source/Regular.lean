import AccessPolicy.Proofs.Text.Lines
import AccessPolicy.Proofs.Yaml.Stepping
import AccessPolicy.Source.Part

namespace AccessPolicy.Source

open Text (Line lines)
open Yaml (Cursor countBreaks endsLine isGap)

/-- Whether nothing but line feeds ends lines. A carriage return may stand before one. -/
def EndsOnFeeds : List Char → Prop
  | [] => True
  | ch :: rest => (endsLine ch rest = true → ch = '\n') ∧ EndsOnFeeds rest

instance EndsOnFeeds.decide : (text : List Char) → Decidable (EndsOnFeeds text)
  | [] => .isTrue trivial
  | ch :: rest =>
    have := EndsOnFeeds.decide rest
    inferInstanceAs (Decidable ((endsLine ch rest = true → ch = '\n') ∧ EndsOnFeeds rest))

theorem EndsOnFeeds.of_append {before after : List Char} (ends : EndsOnFeeds (before ++ after)) : EndsOnFeeds after := by
  induction before with
  | nil => exact ends
  | cons ch before ih => exact ih ends.2

theorem endsLine_feed (rest : List Char) : endsLine '\n' rest = true := rfl

theorem count_feeds_le (text : List Char) : text.count '\n' ≤ countBreaks text := by
  induction text with
  | nil => exact Nat.le_refl _
  | cons ch rest ih =>
    rw [List.count_cons, countBreaks]
    by_cases feed : ch = '\n'
    · subst feed
      simp only [beq_self_eq_true, endsLine_feed, if_true]
      omega
    · simp only [beq_iff_eq, feed, if_false]
      omega

/-- Lines end as often as there are feeds exactly if nothing else ends lines. -/
theorem count_feeds_eq_iff {text : List Char} : text.count '\n' = countBreaks text ↔ EndsOnFeeds text := by
  induction text with
  | nil => exact iff_of_true rfl trivial
  | cons ch rest ih =>
    have fewer := count_feeds_le rest
    show _ ↔ (endsLine ch rest = true → ch = '\n') ∧ EndsOnFeeds rest
    rw [List.count_cons, countBreaks]
    by_cases feed : ch = '\n'
    · subst feed
      simp only [beq_self_eq_true, endsLine_feed, if_true, implies_true, true_and]
      exact Iff.trans (by omega) ih
    · cases ends : endsLine ch rest with
      | true =>
        simp only [beq_iff_eq, feed, if_false, if_true, true_implies, false_and, iff_false]
        omega
      | false => simpa [feed] using ih

/-- Whether a line starts with a mark that ends there or is followed by what counts as blank. -/
def hasMarkBy (blank : Char → Bool) (mark : List Char) (line : Line) : Bool :=
  mark.isPrefixOf line && ((line.drop mark.length).head?.all blank)

/-- What a line is, by what counts as blank. -/
def kindBy (blank : Char → Bool) (line : Line) : LineKind :=
  let bare := line.dropWhile blank
  if hasMarkBy blank ['-', '-', '-'] line then .opening
  else if hasMarkBy blank ['.', '.', '.'] line then .closing
  else if bare.isEmpty || bare.head? == some '#' || line.head? == some '%' then .prologue
  else .content

/-- Whether a text has the lines and the line kinds that the notation gives it. -/
structure IsRegular (text : List Char) : Prop where
  ends : EndsOnFeeds text
  noOrderMark : '\ufeff' ∉ text
  kinds : ∀ line ∈ lines text, lineKind line = kindBy isGap line
  directives : ∀ part ∈ parts (lines text), ∀ line ∈ part.lines.dropWhile (lineKind · == .prologue), line.head? ≠ some '%'

instance IsRegular.decide (text : List Char) : Decidable (IsRegular text) :=
  decidable_of_iff (EndsOnFeeds text ∧ '\ufeff' ∉ text ∧ (∀ line ∈ lines text, lineKind line = kindBy isGap line) ∧
      ∀ part ∈ parts (lines text), ∀ line ∈ part.lines.dropWhile (lineKind · == .prologue), line.head? ≠ some '%')
    ⟨fun ⟨ends, noOrderMark, kinds, directives⟩ => ⟨ends, noOrderMark, kinds, directives⟩,
      fun ⟨ends, noOrderMark, kinds, directives⟩ => ⟨ends, noOrderMark, kinds, directives⟩⟩

/-- In the first column a line starts. -/
theorem column_eq_zero_iff {text : List Char} (ends : EndsOnFeeds text) (noOrderMark : '\ufeff' ∉ text) {c : Cursor}
    (follows : (Cursor.start text).Follows c) :
    ∃ before, text = before ++ c.rest ∧ (c.mark.column = 0 ↔ before = [] ∨ before.getLast? = some '\n') := by
  refine follows.keeps (P := fun d => ∃ before, text = before ++ d.rest ∧
    (d.mark.column = 0 ↔ before = [] ∨ before.getLast? = some '\n')) (fun d known => ?_) ⟨[], rfl, by simp [Cursor.start]⟩
  obtain ⟨before, here, column⟩ := known
  cases rest : d.rest with
  | nil =>
    have stays : d.advance = d := by simp [Cursor.advance, rest]
    exact ⟨before, stays.symm ▸ here, stays.symm ▸ column⟩
  | cons ch rest' =>
    rw [rest] at here
    have feed : endsLine ch rest' = true → ch = '\n' := (here ▸ ends).of_append.1
    have noMark : ch ≠ '\ufeff' := by
      rintro rfl
      exact noOrderMark (by simp [here])
    refine ⟨before ++ [ch], by simp [Cursor.rest_advance, rest, here], ?_⟩
    rw [List.getLast?_concat, Option.some_inj]
    unfold Cursor.advance
    rw [rest]
    by_cases spent : endsLine ch rest' = true
    · obtain rfl := feed spent
      simp [spent]
    · have other : ch ≠ '\n' := by
        rintro rfl
        exact spent rfl
      simp [spent, noMark, other]

/-- A mark stands at a line exactly if the line starts with it. -/
theorem atDocumentMark_iff {c : Cursor} {line : Line} {later : List Char} (here : c.rest = line ++ later)
    (inLine : later = [] ∨ line.getLast? = some '\n') {ch : Char} (either : ch = '-' ∨ ch = '.') :
    c.atDocumentMark = true ∧ c.next = ch ↔ hasMarkBy isGap [ch, ch, ch] line = true := by
  have marked : c.atDocumentMark = true ∧ c.next = ch ↔
      c.peek 0 = ch ∧ c.peek 1 = ch ∧ c.peek 2 = ch ∧ isGap (c.peek 3) = true := by
    rw [Cursor.atDocumentMark_eq, Cursor.next]
    simp only [Bool.and_eq_true, Bool.or_eq_true, beq_iff_eq]
    grind
  rw [marked]
  unfold Cursor.peek hasMarkBy
  rw [here]
  have gap : isGap Yaml.endMark = true := rfl
  match line with
  | [] => rcases inLine with rfl | last <;> rcases either with rfl | rfl <;> simp_all [Yaml.endMark]
  | [a] => rcases inLine with rfl | last <;> rcases either with rfl | rfl <;> simp_all [Yaml.endMark]
  | [a, b] => rcases inLine with rfl | last <;> rcases either with rfl | rfl <;> simp_all [Yaml.endMark]
  | [a, b, d] =>
    rcases inLine with rfl | last
    · simp [gap, @eq_comm _ ch]
    · obtain rfl : d = '\n' := by simpa using last
      rcases either with rfl | rfl <;> simp
  | a :: b :: d :: e :: more => simp [and_assoc, @eq_comm _ ch]

theorem kindBy_eq_opening_iff {blank : Char → Bool} {line : Line} :
    kindBy blank line = .opening ↔ hasMarkBy blank ['-', '-', '-'] line = true := by
  unfold kindBy
  grind

theorem kindBy_eq_closing_iff {blank : Char → Bool} {line : Line} :
    kindBy blank line = .closing ↔ hasMarkBy blank ['.', '.', '.'] line = true := by
  have apart : hasMarkBy blank ['.', '.', '.'] line = true → hasMarkBy blank ['-', '-', '-'] line = false := by
    intro dots
    cases line with
    | nil => rfl
    | cons ch rest =>
      have dot : '.' = ch := by
        simp only [hasMarkBy, List.isPrefixOf, Bool.and_eq_true, beq_iff_eq] at dots
        exact dots.1.1
      simp [hasMarkBy, List.isPrefixOf, ← dot]
  unfold kindBy
  grind

end AccessPolicy.Source

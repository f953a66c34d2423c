import AccessPolicy.Proofs.Source.Bodies

namespace AccessPolicy.Source

open Text (Line)
open Yaml (Cursor Cutter EndsLine Event Grammar Token isGap)
open Yaml.Cutter (Runs markToken resting)
open Yaml.Grammar (Makes)

section Entering

variable {lead body stop rest : List Line} {head : Line} {g : Grammar} {events : List Event} {values : List Value}

/-- A part in a text: the lines before its document, those of the document, and what stands behind it. -/
structure IsPart (lead : List Line) (head : Line) (body stop rest : List Line) : Prop where
  plain : IsPlain (lead ++ (head :: body ++ (stop ++ rest))).flatten
  lines : Text.lines (lead ++ (head :: body ++ (stop ++ rest))).flatten = lead ++ (head :: body ++ (stop ++ rest))
  before : ∀ line ∈ lead, kindBy isGap line = .prologue
  inside : ∀ line ∈ body, IsQuiet line
  behind : Behind stop rest

namespace IsPart

theorem document (part : IsPart lead head body stop rest) : IsPart [] head body stop rest := by
  have plain := part.plain
  rw [List.flatten_append] at plain
  exact ⟨plain.of_append, Text.lines_flatten_of_behind part.lines, by simp, part.inside, part.behind⟩

theorem fed (part : IsPart lead head body stop rest) : ∀ line ∈ lead, IsFed line :=
  isFed_of_lines part.lines (by simp)

/-- The lines of a part end where the part does. -/
theorem ends (part : IsPart lead head body stop rest) :
    EndsLine ((head :: body).flatten ++ stop.flatten) rest.flatten := by
  cases rest with
  | nil => exact .inl rfl
  | cons line rest =>
    have lines := part.document.lines
    rw [List.nil_append, ← List.append_assoc] at lines
    rw [← List.flatten_append]
    exact .inr ((Text.getLast?_flatten_of_append lines (List.cons_ne_nil _ _)).imp_left (by simp [·]))

/-- The text of the part alone. -/
theorem partPlain (part : IsPart lead head body stop rest) : IsPlain (head :: body ++ stop).flatten := by
  have plain := part.document.plain
  rw [List.nil_append, ← List.append_assoc, List.flatten_append] at plain
  exact plain.part (by simpa using part.ends)

theorem partLines (part : IsPart lead head body stop rest) :
    Text.lines (head :: body ++ stop).flatten = head :: body ++ stop := by
  have lines := part.document.lines
  rw [List.nil_append, ← List.append_assoc] at lines
  exact Text.lines_flatten_of_append lines

/-- Where the document of a part starts, the part reads as the text does. -/
theorem isHead (part : IsPart lead head body stop rest) (left : stop.flatten ++ rest.flatten ≠ []) :
    Cursor.IsHead stop.flatten rest.flatten (head :: body).flatten (.start ((head :: body).flatten ++ stop.flatten))
      (.start ((head :: body).flatten ++ (stop.flatten ++ rest.flatten))) := by
  have lines := part.document.lines
  have plain := part.document.plain
  rw [List.nil_append] at lines plain
  have more : stop ++ rest ≠ [] := fun none => left (by rw [← List.flatten_append, none]; rfl)
  have feed : (head :: body).flatten = [] ∨ (head :: body).flatten.getLast? = some '\n' :=
    (Text.getLast?_flatten_of_append lines more).imp_left (by simp [·])
  rw [List.flatten_append] at plain
  exact ⟨rfl, rfl, rfl, Cursor.start_tells _, Cursor.start_tells _, fun _ => rfl, feed,
    fun member => plain.noEnd (List.mem_append_left _ member)⟩

/-- In the document of a part no token is a mark of documents, but where it starts. -/
theorem quiet (part : IsPart lead head body stop rest) {d : Cursor}
    (follows : (Cursor.start ((head :: body).flatten ++ (stop.flatten ++ rest.flatten))).Follows d)
    (before : (stop.flatten ++ rest.flatten).length < d.rest.length)
    (starts : IsQuiet head ∨ d.rest.length < ((head :: body).flatten ++ (stop.flatten ++ rest.flatten)).length) :
    d.Allows fun word => word.isBorder = false := by
  rw [← List.flatten_append, ← List.flatten_append] at follows starts
  rw [← List.flatten_append] at before
  exact allows_inside part.document.plain part.document.lines follows before part.inside starts

end IsPart

variable {ds ds' later : List Token} {l : Bool}

/-- What of a part stands behind the lines before its document. -/
abbrev fromDocument (head : Line) (body stop : List Line) : List Char := (head :: body).flatten ++ stop.flatten

theorem resting_isHead {stop more lead : List Char} {c d : Cursor} (head : Cursor.IsHead stop more lead c d) (k : Bool) :
    Cutter.IsHead stop more lead (resting c k) (resting d k) :=
  ⟨head, rfl, rfl, rfl, rfl, rfl, rfl, rfl⟩

/-- The mark that a document starts with is there in the text and in the part. -/
theorem IsPart.marked (part : IsPart lead head body stop rest) (opens : kindBy isGap head = .opening) :
    ((Cursor.start (fromDocument head body stop)).atDocumentMark = true ∧
        (markToken (fromDocument head body stop)).word = .documentStart) ∧
      ((Cursor.start (fromDocument head body stop ++ rest.flatten)).atDocumentMark = true ∧
        (markToken (fromDocument head body stop ++ rest.flatten)).word = .documentStart) := by
  have whole := markToken_of_opening opens (feed_of_lines part.document.lines)
  have alone := markToken_of_opening opens (feed_of_lines part.partLines)
  constructor
  · simpa [fromDocument] using alone
  · simpa [fromDocument] using whole

/-- A document with a mark is entered behind the mark. -/
theorem IsPart.enters_marked (part : IsPart lead head body stop rest) (opens : kindBy isGap head = .opening)
    (either : g.expected = [.firstDocument] ∨ g.expected = [.document])
    (led : IsLed (fromDocument head body stop) rest.flatten lead.flatten true g.tokens ds ds' later l)
    (makes : Makes g events) :
    ∃ event events' s t g', events = event :: events' ∧ event.what = .documentStart ∧ Makes g' events' ∧
      IsEntered (lead ++ (head :: body ++ stop)).flatten stop.flatten rest.flatten s t g' := by
  obtain ⟨⟨marked', starts'⟩, ⟨marked, starts⟩⟩ := part.marked opens
  obtain ⟨others, rfl, runs⟩ := (Yaml.Cutter.runs_mark marked l).mp led.later
  -- whatever the part holds behind its mark, the mark is read there as in the text
  have opened (others' : List Token) :=
    Yaml.Grammar.parallel_marked either (.inl rfl) led.directives led.words starts starts' led.tokens
      (show Grammar.tokens (.opening (ds' ++ markToken (fromDocument head body stop) :: others')) = _ from rfl)
  cases makes with
  | ended nothing => exact absurd nothing (opened []).1
  | @more _ g' event events' next makes' =>
    have whole : g'.IsInside ∧ event.what = .documentStart ∧ g'.tokens = others := by
      obtain ⟨_, _, same⟩ := (opened []).2 _ next
      exact ⟨.inl same.whole.2, same.starts.1, same.whole.1⟩
    have within : 3 ≤ (head :: body).flatten.length := by
      have long : 3 ≤ head.length := length_of_mark (kindBy_eq_opening_iff.mp opens)
      simp only [List.flatten_cons, List.length_append]
      omega
    refine ⟨event, events', resting ((Cursor.start (fromDocument head body stop ++ rest.flatten)).advanceBy 3) false,
      resting ((Cursor.start (fromDocument head body stop)).advanceBy 3) false, g', rfl, whole.2.1, makes', ?_⟩
    refine ⟨⟨rfl, rfl, rfl⟩, rfl, fun d follows before => ?_, fun left => ?_, fun none => ?_, whole.1, whole.2.2 ▸ runs, ?_⟩
    · have further : (Cursor.start (fromDocument head body stop ++ rest.flatten)).Follows d :=
        (Cursor.follows_advanceBy 3 _).trans follows
      have shorter := follows.length_le
      rw [fromDocument, List.append_assoc] at further
      refine part.quiet further before (.inr ?_)
      simp only [resting, Cursor.rest_advanceBy, Cursor.start, List.length_drop, fromDocument, List.append_assoc] at shorter
      simp only [List.length_append] at shorter ⊢
      omega
    · have there := (part.isHead left).advanceBy within
      rw [← List.append_assoc] at there
      exact ⟨_, resting_isHead there false⟩
    · rw [(List.append_eq_nil_iff.mp none).2, List.append_nil]
    · intro tokens' runs'
      have all := led.part _ ((Yaml.Cutter.runs_mark marked' l).mpr ⟨tokens', rfl, runs'⟩)
      obtain ⟨⟨event', h⟩, next', same⟩ := (opened tokens').2 _ next
      refine ⟨_, event', h, ?_, next', same.starts.2, same.part.1, same.part.2.trans same.whole.2.symm, same.handles⟩
      rw [List.flatten_append, List.flatten_append]
      exact all

/-- The first token of a document without a mark. -/
theorem IsPart.first_unmarked (part : IsPart lead head body stop rest) (content : kindBy isGap head = .content) {k : Bool}
    {tokens : List Token} :
    (Runs (resting (.start (fromDocument head body stop)) k) tokens →
        ∃ first others, tokens = first :: others ∧ first.word.isBorder = false) ∧
      (Runs (resting (.start (fromDocument head body stop ++ rest.flatten)) k) tokens →
        ∃ first others, tokens = first :: others ∧ first.word.isBorder = false) := by
  constructor
  · intro runs
    refine first_of_content part.partPlain part.partLines content (k := k) ?_
    simpa [fromDocument] using runs
  · intro runs
    refine first_of_content part.document.plain part.document.lines content (k := k) ?_
    simpa [fromDocument] using runs

/-- A document without a mark is the first one, without directives, and is entered where it starts. -/
theorem IsPart.enters_unmarked (part : IsPart lead head body stop rest) (content : kindBy isGap head = .content)
    (either : g.expected = [.firstDocument] ∨ g.expected = [.document])
    (led : IsLed (fromDocument head body stop) rest.flatten lead.flatten true g.tokens ds ds' later l)
    (makes : Makes g events) :
    ∃ event events' s t g', events = event :: events' ∧ event.what = .documentStart ∧ Makes g' events' ∧
      IsEntered (lead ++ (head :: body ++ stop)).flatten stop.flatten rest.flatten s t g' := by
  obtain ⟨first, others, split, inside⟩ := (part.first_unmarked content).2 led.later
  have tokens := led.tokens
  rw [split] at tokens
  have other {word : Yaml.Word} (border : word.isBorder = true) : first.word ≠ word := by
    rintro rfl
    simp [inside] at border
  obtain rfl : ds = [] := by
    by_contra some
    exact Yaml.Grammar.not_makes_of_directives either led.directives some (fun _ => other rfl) (other rfl) tokens makes
  obtain rfl : ds' = [] := List.map_eq_nil_iff.mp led.words
  obtain rfl : l = true := led.allowed rfl rfl
  rw [List.nil_append] at tokens
  have expected : g.expected = [.firstDocument] := either.resolve_right fun expected =>
    Yaml.Grammar.not_makes_of_inside expected tokens inside makes
  obtain ⟨events', rfl, makes'⟩ := makes.of_step (Yaml.Grammar.step_unmarked expected tokens (.inl inside))
  refine ⟨_, _, resting (.start (fromDocument head body stop ++ rest.flatten)) true,
    resting (.start (fromDocument head body stop)) true, _, rfl, rfl, makes', ?_⟩
  refine ⟨⟨rfl, rfl, rfl⟩, rfl, fun d follows before => ?_, fun left => ?_, fun none => ?_, .inr rfl, ?_, ?_⟩
  · have follows : (Cursor.start (fromDocument head body stop ++ rest.flatten)).Follows d := follows
    rw [fromDocument, List.append_assoc] at follows
    exact part.quiet follows before (.inl (isQuiet_of_content content))
  · have there := part.isHead left
    rw [← List.append_assoc] at there
    exact ⟨_, resting_isHead there true⟩
  · rw [(List.append_eq_nil_iff.mp none).2, List.append_nil]
  · change Runs _ g.tokens
    rw [tokens, ← split]
    exact led.later
  · intro tokens' runs'
    obtain ⟨first', others', rfl, inside'⟩ := (part.first_unmarked content).1 runs'
    refine ⟨_, _, _, ?_, Yaml.Grammar.step_unmarked rfl rfl (.inl inside'), rfl, rfl, rfl, rfl⟩
    rw [List.flatten_append, List.flatten_append]
    exact led.part _ runs'

/-- A part in a text that is read is loaded, and what is left behind it is read. -/
theorem IsPart.loads (part : IsPart lead head body stop rest)
    (starts : kindBy isGap head = .opening ∨ kindBy isGap head = .content)
    (allowed : Yaml.firstForbidden? (lead ++ (head :: body ++ stop)).flatten = none)
    (reads : Reads (lead ++ (head :: body ++ (stop ++ rest))).flatten values) :
    ∃ v vs, values = v :: vs ∧ Yaml.load (lead ++ (head :: body ++ stop)).flatten = .ok v ∧ Reads rest.flatten vs := by
  obtain ⟨g, events, either, runs, makes, loaded⟩ := reads
  have whole : (lead ++ (head :: body ++ (stop ++ rest))).flatten =
      lead.flatten ++ (fromDocument head body stop ++ rest.flatten) := by simp [fromDocument]
  have plain := part.plain
  rw [whole] at runs plain
  obtain ⟨ds, ds', later, l, led⟩ := exists_isLed plain part.fed part.before part.ends runs
  obtain ⟨event, events', s, t, g', rfl, opens, makes', entered⟩ : ∃ event events' s t g', events = event :: events' ∧
      event.what = .documentStart ∧ Makes g' events' ∧
      IsEntered (lead ++ (head :: body ++ stop)).flatten stop.flatten rest.flatten s t g' := by
    rcases starts with opening | content
    · exact part.enters_marked opening either led makes
    · exact part.enters_unmarked content either led makes
  have behind : IsPlain (stop ++ rest).flatten := by
    have plain := part.document.plain
    rw [List.nil_append, List.flatten_append] at plain
    exact plain.of_append
  have lines : Text.lines (stop ++ rest).flatten = stop ++ rest := Text.lines_flatten_of_behind part.document.lines
  obtain ⟨inner, inner', later, later', read⟩ := entered.exists_isBody part.behind behind lines makes'
  refine entered.loads read makes' opens loaded (fun marked => part.plain.noOrderMark ?_) allowed
  have member := List.mem_append_left rest.flatten (List.mem_of_head? marked)
  rw [← List.flatten_append] at member
  simpa using member

end Entering

end AccessPolicy.Source

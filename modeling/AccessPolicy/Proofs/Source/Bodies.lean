import AccessPolicy.Proofs.Source.Prologue
import AccessPolicy.Proofs.Yaml.Likeness

namespace AccessPolicy.Source

open Text (Line)
open Yaml (BordersAt Cursor Cutter Event EndsLine Grammar IsCutAt IsFence StartsAtBorder Token endMark isGap level)
open Yaml.Cutter (Runs markToken resting)
open Yaml.Grammar (IsClosing Makes)

variable {line : Line} {rest : List Line} {after : List Char} {tokens : List Token} {g : Grammar} {events : List Event}
  {values : List Value} {k : Bool}

/-- Whether the data of the documents of a text are these. A text may start before the first document or behind one. -/
def Reads (text : List Char) (values : List Value) : Prop :=
  ∃ g events, (g.expected = [.firstDocument] ∨ g.expected = [.document]) ∧ Runs (.fresh text) g.tokens ∧ Makes g events ∧
    Yaml.Composer.fresh.values none events = .ok values

section Ending

theorem reads_nil : Reads [] [] := by
  have runs : Runs (.fresh []) _ := (Yaml.Cutter.runs_end rfl).mpr rfl
  exact ⟨.opening _, _, .inl rfl, runs, (Yaml.Grammar.makes_streamEnd_iff (.inl rfl) rfl rfl).mpr rfl, rfl⟩

/-- At the end of the text there are no more documents. -/
theorem reads_of_streamEnd {token : Token} {others : List Token}
    (either : g.expected = [.firstDocument] ∨ g.expected = [.document]) (here : g.tokens = token :: others)
    (last : token.word = .streamEnd) (makes : Makes g events)
    (loaded : Yaml.Composer.fresh.values none events = .ok values) : Reads [] values := by
  rw [(Yaml.Grammar.makes_streamEnd_iff either here last).mp makes] at loaded
  cases loaded
  exact reads_nil

theorem markToken_of_opening (opens : kindBy isGap line = .opening) (inLine : after = [] ∨ line.getLast? = some '\n') :
    (Cursor.start (line ++ after)).atDocumentMark = true ∧ (markToken (line ++ after)).word = .documentStart := by
  obtain ⟨marked, next⟩ := (atDocumentMark_iff (c := .start (line ++ after)) rfl inLine (.inl rfl)).mpr
    (kindBy_eq_opening_iff.mp opens)
  exact ⟨marked, by simp [markToken, next]⟩

theorem markToken_of_closing (closes : kindBy isGap line = .closing) (inLine : after = [] ∨ line.getLast? = some '\n') :
    (Cursor.start (line ++ after)).atDocumentMark = true ∧ (markToken (line ++ after)).word = .documentEnd := by
  obtain ⟨marked, next⟩ := (atDocumentMark_iff (c := .start (line ++ after)) rfl inLine (.inr rfl)).mpr
    (kindBy_eq_closing_iff.mp closes)
  exact ⟨marked, by simp [markToken, next]⟩

theorem eq_of_mark {mark : List Char} {blank : Char → Bool} (marked : hasMarkBy blank mark line = true) :
    line = mark ++ line.drop mark.length := by
  rw [hasMarkBy, Bool.and_eq_true, List.isPrefixOf_iff_prefix] at marked
  obtain ⟨left, rfl⟩ := marked.1
  rw [List.drop_left]

theorem length_of_mark {mark : List Char} {blank : Char → Bool} (marked : hasMarkBy blank mark line = true) :
    mark.length ≤ line.length := by
  rw [eq_of_mark marked, List.length_append]
  exact Nat.le_add_right _ _

theorem isRestOf_drop (within : 3 ≤ line.length) (after : List Char) :
    IsRestOf line after (line.drop 3) ((Cursor.start (line ++ after)).advanceBy 3) := by
  refine ⟨Cursor.follows_advanceBy 3 _, ?_⟩
  rw [Cursor.rest_advanceBy]
  exact List.drop_append_of_le_length within

/-- Where a document has been read its mark is followed by nothing but a comment. -/
theorem blank_behind_closing (plain : IsPlain (line :: rest).flatten)
    (cut : Text.lines (line :: rest).flatten = line :: rest)
    (closes : kindBy isGap line = .closing) (expected : g.expected = [.document])
    (runs : Runs (resting ((Cursor.start (line ++ rest.flatten)).advanceBy 3) false) g.tokens) (makes : Makes g events) :
    IsBlankFrom (line.drop 3) := by
  by_contra filled
  have within : 3 ≤ line.length := length_of_mark (kindBy_eq_closing_iff.mp closes)
  have shorter : line.drop 3 ≠ line := fun same => by
    have lengths := congrArg List.length same
    rw [List.length_drop] at lengths
    omega
  obtain ⟨first, others, here, inside⟩ := (isRestOf_drop within rest.flatten).first_inside plain (isLine_of_lines cut) filled
    (fun same => absurd same shorter) runs
  exact Yaml.Grammar.not_makes_of_inside expected here inside makes

/-- Behind the line of a mark what is left of the text is read. -/
theorem reads_behind_closing (plain : IsPlain (line :: rest).flatten)
    (cut : Text.lines (line :: rest).flatten = line :: rest)
    (closes : kindBy isGap line = .closing) (expected : g.expected = [.document])
    (runs : Runs (resting ((Cursor.start (line ++ rest.flatten)).advanceBy 3) false) g.tokens) (makes : Makes g events)
    (loaded : Yaml.Composer.fresh.values none events = .ok values) : Reads rest.flatten values := by
  have blank := blank_behind_closing plain cut closes expected runs makes
  have marked := kindBy_eq_closing_iff.mp closes
  have within : 3 ≤ line.length := length_of_mark marked
  have there := isRestOf_drop within rest.flatten
  rcases line_cases cut with fed | ⟨rfl, inLine⟩
  · have filled : line.drop 3 ≠ [] := fun none => by
      have whole : line = ['.', '.', '.'] ++ line.drop 3 := eq_of_mark marked
      have feed := fed.getLast?
      rw [whole, none] at feed
      cases feed
    have ahead := there.ahead_of_blank plain fed filled blank false
    exact ⟨g, events, .inr expected, runs.of_step (Yaml.Cutter.step_eq_of_ahead ahead), makes, loaded⟩
  · have spent := there.ahead_of_last plain (.inr inLine) blank false
    exact reads_of_streamEnd (.inr expected) ((Yaml.Cutter.runs_end spent).mp runs) rfl makes loaded

end Ending

/-- What stands behind the document of a part: in the part, and behind the part. -/
inductive Behind : List Line → List Line → Prop
  | last : Behind [] []
  | opened {line : Line} {rest : List Line} (opens : kindBy isGap line = .opening) : Behind [] (line :: rest)
  | closed {line : Line} {rest : List Line} (closes : kindBy isGap line = .closing) : Behind [line] rest

/-- What is cut of a document and of what stands behind it in the text, and in the part alone. -/
structure IsBody (rest : List Char) (t : Cutter) (tokens inner inner' later later' : List Token) : Prop where
  tokens : tokens = inner ++ later
  clear : ∀ token ∈ inner, token.word.isBorder = false
  words : inner'.map (·.word) = inner.map (·.word)
  marked : StartsAtBorder later
  part : Runs t (inner' ++ later')
  closing : IsClosing later'
  behind : ∀ {g : Grammar} {events : List Event}, g.tokens = later → g.expected = [.documentEnd] → Makes g events →
    ∃ event events', events = event :: events' ∧ event.what = .documentEnd ∧
      ∀ values, Yaml.Composer.fresh.values none events' = .ok values → Reads rest values

section Bodies

variable {stop more lead : List Char} {s t : Cutter} {inner inner' later : List Token}

/-- Where a document is read that is cut up to a mark, no bracket is open at the mark. -/
theorem exists_isCutAt (fence : IsFence stop more) (head : Cutter.IsHead stop more lead t s) (sound : s.IsSound)
    (nothing : s.made = [])
    (quiet : ∀ d, s.cursor.Follows d → (stop ++ more).length < d.rest.length → d.Allows fun word => word.isBorder = false)
    (runs : Runs s g.tokens) (inside : g.IsInside) (makes : Makes g events) :
    ∃ inner inner' later, IsCutAt stop more t g.tokens inner inner' later := by
  obtain ⟨n, borders, cut⟩ := Yaml.cut_at_fence fence head sound (by simp [nothing]) quiet runs
  exact cut (makes.closed inside borders)

/-- The document of a part before the mark of another one. -/
theorem IsBody.of_opened (cut : IsCutAt [] (line :: rest).flatten t tokens inner inner' later)
    (opens : kindBy isGap line = .opening) (inLine : rest.flatten = [] ∨ line.getLast? = some '\n') :
    ∃ later', IsBody (line :: rest).flatten t tokens inner inner' later later' := by
  obtain ⟨marked, starts⟩ := markToken_of_opening opens inLine
  have runs : Runs (resting (.start (line ++ rest.flatten)) true) later := cut.later
  obtain ⟨others, rfl, _⟩ := (Yaml.Cutter.runs_mark marked true).mp runs
  have runs' : Runs (.fresh []) _ := (Yaml.Cutter.runs_end rfl).mpr rfl
  refine ⟨_, cut.tokens, cut.clear, cut.words, ⟨_, others, rfl, by rw [starts]; rfl⟩, cut.part _ runs', .last rfl, ?_⟩
  intro g events here expected makes
  obtain ⟨events', rfl, makes'⟩ := makes.documentEnd_unmarked expected here (by simp [starts])
  refine ⟨_, events', rfl, rfl, fun values loaded => ⟨_, events', .inr rfl, ?_, makes', loaded⟩⟩
  exact runs

/-- The document of a part that is closed by a mark. -/
theorem IsBody.of_closed (cut : IsCutAt line rest.flatten t tokens inner inner' later)
    (plain : IsPlain (line :: rest).flatten) (lines : Text.lines (line :: rest).flatten = line :: rest)
    (closes : kindBy isGap line = .closing) (here : g.tokens = later) (expected : g.expected = [.documentEnd])
    (makes : Makes g events) : ∃ later', IsBody rest.flatten t tokens inner inner' later later' := by
  have inLine := feed_of_lines lines
  obtain ⟨marked, ends⟩ := markToken_of_closing closes inLine
  obtain ⟨marked', ends'⟩ :
      (Cursor.start (line ++ [])).atDocumentMark = true ∧ (markToken (line ++ [])).word = .documentEnd :=
    markToken_of_closing closes (.inl rfl)
  rw [List.append_nil] at marked' ends'
  obtain ⟨others, rfl, runs⟩ := (Yaml.Cutter.runs_mark marked true).mp cut.later
  obtain ⟨_, _, makes'⟩ := makes.documentEnd expected here ends
  have blank := blank_behind_closing plain lines closes rfl runs makes'
  have plain' : IsPlain (line ++ []) := by
    rw [List.append_nil]
    exact plain.part (inLine.imp_right .inr)
  have within : 3 ≤ line.length := length_of_mark (kindBy_eq_closing_iff.mp closes)
  have spent := (isRestOf_drop within []).ahead_of_last plain' (isLine_of_lines lines) blank false
  rw [List.append_nil] at spent
  have runs' := (Yaml.Cutter.runs_mark marked' true).mpr ⟨_, rfl, (Yaml.Cutter.runs_end spent).mpr rfl⟩
  refine ⟨_, cut.tokens, cut.clear, cut.words, ⟨_, others, rfl, by rw [ends]; rfl⟩, cut.part _ runs', .marked ends' rfl, ?_⟩
  intro g events here expected makes
  obtain ⟨events', rfl, makes'⟩ := makes.documentEnd expected here ends
  exact ⟨_, events', rfl, rfl, fun values loaded => reads_behind_closing plain lines closes rfl runs makes' loaded⟩

/-- Where no mark of documents stands to come, the only one that is cut is the end of the text. -/
theorem eq_streamEnd_of_quiet (sound : s.IsSound) (nothing : s.made = [])
    (quiet : ∀ d, s.cursor.Follows d → 0 < d.rest.length → d.Allows fun word => word.isBorder = false)
    (runs : Runs s tokens) : ∀ token ∈ tokens, token.word.isBorder = true → token.word = .streamEnd := by
  have others (word : Yaml.Word) (inside : word.isBorder = false) : word.isBorder = true → word = .streamEnd := by
    simp [inside]
  have allows (d : Cursor) (follows : s.cursor.Follows d) :
      d.Allows fun word => word.isBorder = true → word = .streamEnd := by
    by_cases spent : d.rest = []
    · have next : d.next = endMark := by simp [Cursor.next, Cursor.peek, spent]
      exact ⟨fun _ percent => by simp [next, endMark] at percent, fun _ dash => by simp [next, endMark] at dash,
        fun _ dot => by simp [next, endMark] at dot, fun _ _ => rfl⟩
    · have quiet := quiet d follows (List.length_pos_iff.mpr spent)
      exact ⟨fun first percent d => others _ (quiet.directive first percent d),
        fun first dash marked => others _ (quiet.opening first dash marked),
        fun first dot marked => others _ (quiet.closing first dot marked), fun none => absurd none spent⟩
  intro token member
  exact (runs.grows others allows sound).forall others (by simp [nothing]) token (List.mem_reverse.mpr member)

/-- The last document of a text is cut up to the end of the text. -/
theorem IsBody.of_last (sound : s.IsSound) (nothing : s.made = [])
    (quiet : ∀ d, s.cursor.Follows d → 0 < d.rest.length → d.Allows fun word => word.isBorder = false)
    (runs : Runs s tokens) : ∃ inner later, IsBody [] s tokens inner inner later later := by
  have split : tokens.takeWhile (!·.word.isBorder) ++ tokens.dropWhile (!·.word.isBorder) = tokens :=
    List.takeWhile_append_dropWhile
  have clear : ∀ token ∈ tokens.takeWhile (!·.word.isBorder), token.word.isBorder = false := fun token member => by
    simpa using List.mem_takeWhile_imp member
  obtain ⟨ending, member, last⟩ := runs.exists_streamEnd sound
  cases later : tokens.dropWhile (!·.word.isBorder) with
  | nil =>
    have border : ending.word.isBorder = true := by rw [last]; rfl
    have inside := List.dropWhile_eq_nil_iff.mp later ending member
    simp [border] at inside
  | cons border others =>
    have marked : border.word.isBorder = true := by
      simpa [later] using List.head?_dropWhile_not (!·.word.isBorder) tokens
    have member : border ∈ tokens := (List.dropWhile_sublist _).mem (later ▸ List.mem_cons_self)
    have last : border.word = .streamEnd := eq_streamEnd_of_quiet sound nothing quiet runs border member marked
    rw [later] at split
    refine ⟨_, _, split.symm, clear, rfl, ⟨border, others, rfl, marked⟩, split.symm ▸ runs, .last last, ?_⟩
    intro g events here expected makes
    obtain ⟨events', rfl, makes'⟩ := makes.documentEnd_unmarked expected here (by simp [last])
    exact ⟨_, events', rfl, rfl, fun values loaded => reads_of_streamEnd (.inr rfl) rfl last makes' loaded⟩

/-- Whether the document of a part has been entered in the text, and how it is entered in the part alone. -/
structure IsEntered (text stop more : List Char) (s t : Cutter) (g : Grammar) : Prop where
  sound : s.IsSound
  nothing : s.made = []
  quiet : ∀ d, s.cursor.Follows d → (stop ++ more).length < d.rest.length → d.Allows fun word => word.isBorder = false
  head : stop ++ more ≠ [] → ∃ lead, Cutter.IsHead stop more lead t s
  same : stop ++ more = [] → t = s
  inside : g.IsInside
  runs : Runs s g.tokens
  part : ∀ tokens', Runs t tokens' → ∃ all event g', Runs (.fresh text) all ∧ (Grammar.opening all).step = .ok (event, g') ∧
    event.what = .documentStart ∧ g'.tokens = tokens' ∧ g'.expected = g.expected ∧ g'.handles = g.handles

theorem ne_nil_of_isFence (fence : IsFence stop more) : stop ++ more ≠ [] := fun none => by
  have marked := fence.whole
  simp [none, Cursor.start, Cursor.atDocumentMark] at marked

/-- What is cut of a document and of what stands behind it, if it is read to its end. -/
theorem IsEntered.exists_isBody {text : List Char} {stop rest : List Line}
    (entered : IsEntered text stop.flatten rest.flatten s t g) (behind : Behind stop rest)
    (plain : IsPlain (stop ++ rest).flatten) (lines : Text.lines (stop ++ rest).flatten = stop ++ rest)
    (makes : Makes g events) : ∃ inner inner' later later', IsBody rest.flatten t g.tokens inner inner' later later' := by
  have cut (fence : IsFence stop.flatten rest.flatten) :
      ∃ inner inner' later, IsCutAt stop.flatten rest.flatten t g.tokens inner inner' later := by
    obtain ⟨lead, head⟩ := entered.head (ne_nil_of_isFence fence)
    exact exists_isCutAt fence head entered.sound entered.nothing entered.quiet entered.runs entered.inside makes
  cases behind with
  | last =>
    obtain rfl := entered.same rfl
    obtain ⟨inner, later, body⟩ := IsBody.of_last entered.sound entered.nothing entered.quiet entered.runs
    exact ⟨inner, inner, later, later, body⟩
  | @opened line rest opens =>
    have inLine := feed_of_lines lines
    have fence : IsFence [] (line :: rest).flatten := ⟨(markToken_of_opening opens inLine).1, .inl rfl, .inr (.inl rfl)⟩
    obtain ⟨inner, inner', later, cut⟩ := cut fence
    obtain ⟨later', body⟩ := IsBody.of_opened cut opens inLine
    exact ⟨inner, inner', later, later', body⟩
  | @closed line rest closes =>
    have inLine := feed_of_lines lines
    obtain ⟨marked, ends⟩ := markToken_of_closing closes inLine
    have fence : IsFence [line].flatten rest.flatten := by
      rw [List.flatten_singleton]
      have part := (markToken_of_closing closes (.inl rfl)).1
      rw [List.append_nil] at part
      exact ⟨marked, .inr part, inLine.imp_right .inr⟩
    obtain ⟨inner, inner', later, cut⟩ := cut fence
    rw [List.flatten_singleton] at cut
    obtain ⟨others, split, _⟩ := (Yaml.Cutter.runs_mark marked true).mp cut.later
    have border : StartsAtBorder later := ⟨_, others, split, by rw [ends]; rfl⟩
    obtain ⟨_, h, events', here, expected, makes'⟩ := makes.exists_behind entered.inside cut.tokens cut.clear border
    obtain ⟨later', body⟩ := IsBody.of_closed cut plain lines closes here expected makes'
    exact ⟨inner, inner', later, later', body⟩

/-- A part whose document has been entered is loaded, and what is left behind it is read. -/
theorem IsEntered.loads {text rest : List Char} {later later' : List Token} {event : Event}
    (entered : IsEntered text stop more s t g) (body : IsBody rest t g.tokens inner inner' later later')
    (makes : Makes g events) (starts : event.what = .documentStart)
    (loaded : Yaml.Composer.fresh.values none (event :: events) = .ok values)
    (unmarked : text.head? ≠ some '\ufeff') (allowed : Yaml.firstForbidden? text = none) :
    ∃ v vs, values = v :: vs ∧ Yaml.load text = .ok v ∧ Reads rest vs := by
  obtain ⟨all, event', g', runs', step', starts', tokens', expected', handles'⟩ := entered.part _ body.part
  obtain ⟨_, nodes, nodes', others, h, h', read⟩ := (entered.inside.pair body.tokens tokens' body.words body.clear body.marked
    body.closing.startsAtBorder expected' handles').exists_isReadTo makes
  obtain ⟨ending, others, rfl, ends, reads⟩ := body.behind read.whole.1 read.whole.2 read.rest
  obtain ⟨closing, last, closes, ended, makes'⟩ := Makes.of_isClosing (read.part.1 ▸ body.closing) read.part.2
  have makes' : Makes (.opening all) (event' :: (nodes' ++ [closing, last])) := .more step' (read.makes _ makes')
  rw [read.events] at loaded
  obtain ⟨v, vs, rfl, behind, made⟩ :=
    Yaml.Composer.values_document starts ends read.nodes read.same starts' closes ended loaded
  exact ⟨v, vs, rfl, (Yaml.load_of_makes unmarked allowed runs' makes').trans made, reads vs behind⟩

end Bodies

end AccessPolicy.Source

import AccessPolicy.Proofs.Source.Composition
import AccessPolicy.Proofs.Text.Lines

namespace AccessPolicy.Source

open Text (Line)

/-- Lines that may all stand before a document. -/
def IsLead (lines : List Line) : Prop := ∀ line ∈ lines, lineKind line = .prologue

/-- The lines of a part that may go on: behind the lead, a line that opens the document or is content of it, and then
lines that are no marks. -/
inductive IsOpen : List Line → Prop
  | begins {lead : List Line} {line : Line} (before : IsLead lead)
      (starts : lineKind line = .opening ∨ lineKind line = .content) : IsOpen (lead ++ [line])
  | goesOn {lines : List Line} {line : Line} (sofar : IsOpen lines)
      (inside : lineKind line = .prologue ∨ lineKind line = .content) : IsOpen (lines ++ [line])

/-- The lines of a part, the last of which may close the document. -/
inductive IsWhole : List Line → Prop
  | unclosed {lines : List Line} (sofar : IsOpen lines) : IsWhole lines
  | closed {lines : List Line} {line : Line} (sofar : IsOpen lines) (closes : lineKind line = .closing) :
      IsWhole (lines ++ [line])

/-- Why a part ends where it does: the lines end, its last line closes the document, or the next one opens another. -/
inductive Ends (block rest : List Line) : Prop
  | last (nothing : rest = [])
  | closed (closes : block.getLast?.map lineKind = some .closing)
  | opened (opens : rest.head?.map lineKind = some .opening)

/-- A layout of lines in parts, behind so many other lines. -/
inductive Layout : Nat → List Line → List Part → Prop
  | leftover {start : Nat} {lines : List Line} (lead : IsLead lines) : Layout start lines []
  | skipped {start : Nat} {lead rest : List Line} {line : Line} {parts : List Part} (before : IsLead lead)
      (closes : lineKind line = .closing) (later : Layout (start + lead.length + 1) rest parts) :
      Layout start (lead ++ line :: rest) parts
  | part {start : Nat} {block rest : List Line} {parts : List Part} (whole : IsWhole block) (ends : Ends block rest)
      (later : Layout (start + block.length) rest parts) : Layout start (block ++ rest) (⟨start, block⟩ :: parts)

theorem isLead_nil : IsLead [] := fun _ member => absurd member List.not_mem_nil

theorem IsLead.concat {lines : List Line} {line : Line} (lead : IsLead lines) (prologue : lineKind line = .prologue) :
    IsLead (lines ++ [line]) := by
  intro other member
  rcases List.mem_append.mp member with earlier | last
  · exact lead other earlier
  · rwa [List.mem_singleton.mp last]

/-- The form of what has been seen: the lead of a part, or a part that may go on. -/
inductive Pending.IsSound : Pending → Prop
  | lead {start : Nat} {seen : List Line} (before : IsLead seen.reverse) : IsSound ⟨start, seen, false⟩
  | inside {start : Nat} {seen : List Line} (sofar : IsOpen seen.reverse) : IsSound ⟨start, seen, true⟩

theorem Pending.startingAt_isSound (start : Nat) : (startingAt start).IsSound :=
  .lead isLead_nil

/-- A line keeps the form of what has been seen. If what is seen then and the lines to come are laid out in parts, so are
what was seen before and these lines, in the part that the line completes and those parts. -/
theorem Pending.IsSound.step {p : Pending} (sound : p.IsSound) (line : Line) :
    (p.step line).1.IsSound ∧ ∀ rest parts,
      Layout (p.step line).1.start ((p.step line).1.seen.reverse ++ rest) parts →
        Layout p.start (p.seen.reverse ++ line :: rest) ((p.step line).2.toList ++ parts) := by
  cases sound with
  | @lead start seen before =>
    cases kind : lineKind line with
    | opening =>
      rw [step_opening kind]
      exact ⟨.inside (by simpa using IsOpen.begins before (.inl kind)), fun rest parts later => by simpa using later⟩
    | closing =>
      rw [step_closing kind]
      refine ⟨startingAt_isSound _, fun rest parts later => .skipped before kind ?_⟩
      simpa [position, startingAt, part?] using later
    | prologue =>
      rw [step_prologue kind]
      exact ⟨.lead (by simpa using before.concat kind), fun rest parts later => by simpa using later⟩
    | content =>
      rw [step_content kind]
      exact ⟨.inside (by simpa using IsOpen.begins before (.inr kind)), fun rest parts later => by simpa using later⟩
  | @inside start seen sofar =>
    cases kind : lineKind line with
    | opening =>
      rw [step_opening kind]
      have alone : IsOpen ([] ++ [line]) := .begins isLead_nil (.inl kind)
      refine ⟨.inside alone, fun rest parts later => .part (.unclosed sofar) (.opened (by simp [kind])) ?_⟩
      simpa [position] using later
    | closing =>
      rw [step_closing kind]
      refine ⟨startingAt_isSound _, fun rest parts later => ?_⟩
      have whole : Layout start ((seen.reverse ++ [line]) ++ rest) (⟨start, seen.reverse ++ [line]⟩ :: parts) :=
        .part (.closed sofar kind) (.closed (by simp [kind]))
          (by simpa [position, startingAt, Nat.add_assoc] using later)
      simpa [part?] using whole
    | prologue =>
      rw [step_prologue kind]
      exact ⟨.inside (by simpa using sofar.goesOn (.inl kind)), fun rest parts later => by simpa using later⟩
    | content =>
      rw [step_content kind]
      exact ⟨.inside (by simpa using sofar.goesOn (.inr kind)), fun rest parts later => by simpa using later⟩

theorem Pending.IsSound.run {p : Pending} (sound : p.IsSound) (lines : List Line) : (p.run lines).2.IsSound := by
  induction lines generalizing p with
  | nil => exact sound
  | cons line rest ih => exact ih (sound.step line).1

/-- What has been seen and the lines to come are laid out in the parts that come of them. -/
theorem Pending.IsSound.layout {p : Pending} (sound : p.IsSound) (lines : List Line) :
    Layout p.start (p.seen.reverse ++ lines) (p.parts lines) := by
  induction lines generalizing p with
  | nil =>
    cases sound with
    | lead before => exact .leftover (by simpa using before)
    | inside sofar =>
      exact .part (.unclosed sofar) (.last rfl) (.leftover isLead_nil)
  | cons line rest ih =>
    obtain ⟨next, grown⟩ := sound.step line
    rw [parts_cons]
    exact grown rest _ (ih next)

theorem run_lead {start : Nat} {lead : List Line} (before : IsLead lead) {seen : List Line} {hasContent : Bool} :
    Pending.run ⟨start, seen, hasContent⟩ lead = ([], ⟨start, lead.reverse ++ seen, hasContent⟩) := by
  induction lead generalizing seen with
  | nil => rfl
  | cons line rest ih =>
    obtain ⟨here, later⟩ := List.forall_mem_cons.mp before
    rw [Pending.run_cons, Pending.step_prologue here, ih later]
    simp

theorem IsOpen.run {lines : List Line} (sofar : IsOpen lines) (start : Nat) :
    (Pending.startingAt start).run lines = ([], ⟨start, lines.reverse, true⟩) := by
  induction sofar with
  | @begins lead line before starts =>
    rw [Pending.run_append, Pending.startingAt, run_lead before, Pending.run_cons]
    rcases starts with opens | content
    · simp [Pending.step_opening opens, Pending.run]
    · simp [Pending.step_content content, Pending.run]
  | @goesOn lines line sofar inside ih =>
    rw [Pending.run_append, ih, Pending.run_cons]
    rcases inside with prologue | content
    · simp [Pending.step_prologue prologue, Pending.run]
    · simp [Pending.step_content content, Pending.run]

theorem IsOpen.getLast?_ne {lines : List Line} (sofar : IsOpen lines) : lines.getLast?.map lineKind ≠ some .closing := by
  cases sofar with
  | begins before starts => rcases starts with kind | kind <;> simp [kind]
  | goesOn sofar inside => rcases inside with kind | kind <;> simp [kind]

/-- The parts that come of the lines of one part and those behind it. -/
theorem IsWhole.parts_append {block rest : List Line} (whole : IsWhole block) (ends : Ends block rest) (start : Nat) :
    (Pending.startingAt start).parts (block ++ rest) =
      ⟨start, block⟩ :: (Pending.startingAt (start + block.length)).parts rest := by
  rw [Pending.parts_append]
  cases whole with
  | unclosed sofar =>
    have stops : rest = [] ∨ rest.head?.map lineKind = some .opening := by
      cases ends with
      | last nothing => exact .inl nothing
      | closed closes => exact absurd closes sofar.getLast?_ne
      | opened opens => exact .inr opens
    rw [sofar.run start, Pending.parts_of_content rfl stops]
    simp [Pending.part?, Pending.position]
  | closed sofar closes =>
    rw [Pending.run_append, sofar.run start, Pending.run_cons, Pending.step_closing closes]
    simp [Pending.run, Pending.part?, Pending.position, Nat.add_assoc]

/-- Any layout of lines is the one in the parts that come of them. -/
theorem Layout.parts_eq {start : Nat} {lines : List Line} {parts : List Part} (layout : Layout start lines parts) :
    (Pending.startingAt start).parts lines = parts := by
  induction layout with
  | leftover lead => simp [Pending.parts, Pending.startingAt, run_lead lead, Pending.part?]
  | @skipped start lead rest line parts before closes later ih =>
    rw [Pending.parts_append, Pending.startingAt, run_lead before, Pending.parts_cons, Pending.step_closing closes,
      ← ih]
    simp [Pending.part?, Pending.position]
  | part whole ends later ih => rw [whole.parts_append ends, ih]

/-- Lines are laid out in parts in one way, which is how they are cut. -/
theorem parts_eq_iff {lines : List Line} {ps : List Part} : parts lines = ps ↔ Layout 0 lines ps := by
  constructor
  · rintro rfl
    exact (Pending.startingAt_isSound 0).layout lines
  · exact Layout.parts_eq

/-- Lines that are in no part: a lead, and the line that closes nothing behind it or the end. -/
inductive IsGap (block rest : List Line) : Prop
  | closed {lead : List Line} {line : Line} (split : block = lead ++ [line]) (before : IsLead lead)
      (closes : lineKind line = .closing)
  | last (lead : IsLead block) (nothing : rest = [])

theorem IsOpen.form {lines : List Line} (sofar : IsOpen lines) :
    ∃ lead head body, lines = lead ++ head :: body ∧ IsLead lead ∧
      (lineKind head = .opening ∨ lineKind head = .content) ∧
      ∀ line ∈ body, lineKind line ≠ .opening ∧ lineKind line ≠ .closing := by
  induction sofar with
  | @begins lead line before starts => exact ⟨lead, line, [], rfl, before, starts, by simp⟩
  | @goesOn lines line sofar inside ih =>
    obtain ⟨lead, head, body, rfl, before, starts, marked⟩ := ih
    refine ⟨lead, head, body ++ [line], by simp, before, starts, fun other member => ?_⟩
    rcases List.mem_append.mp member with earlier | last
    · exact marked other earlier
    · rw [List.mem_singleton.mp last]
      rcases inside with kind | kind <;> simp [kind]

theorem IsOpen.not_closing {lines : List Line} (sofar : IsOpen lines) : ∀ line ∈ lines, lineKind line ≠ .closing := by
  obtain ⟨lead, head, body, rfl, before, starts, marked⟩ := sofar.form
  intro line member
  rcases List.mem_append.mp member with early | late
  · simp [before line early]
  · rcases List.mem_cons.mp late with rfl | inside
    · rcases starts with kind | kind <;> simp [kind]
    · exact (marked line inside).2

theorem IsWhole.form {lines : List Line} (whole : IsWhole lines) :
    ∃ lead head body, lines = lead ++ head :: body ∧ IsLead lead ∧
      (lineKind head = .opening ∨ lineKind head = .content) ∧ (∀ line ∈ body, lineKind line ≠ .opening) ∧
      ∀ line ∈ lines.dropLast, lineKind line ≠ .closing := by
  cases whole with
  | unclosed sofar =>
    obtain ⟨lead, head, body, split, before, starts, marked⟩ := sofar.form
    exact ⟨lead, head, body, split, before, starts, fun line member => (marked line member).1,
      fun line member => sofar.not_closing line (List.dropLast_subset _ member)⟩
  | @closed lines line sofar closes =>
    obtain ⟨lead, head, body, rfl, before, starts, marked⟩ := sofar.form
    refine ⟨lead, head, body ++ [line], by simp, before, starts, fun other member => ?_, fun other member => ?_⟩
    · rcases List.mem_append.mp member with earlier | last
      · exact (marked other earlier).1
      · simp [List.mem_singleton.mp last, closes]
    · rw [List.dropLast_concat] at member
      exact sofar.not_closing other member

namespace Layout

variable {start : Nat} {lines : List Line} {parts : List Part}

/-- Each part is a block of the lines. -/
theorem exists_block (layout : Layout start lines parts) {p : Part} (member : p ∈ parts) :
    IsWhole p.lines ∧ ∃ before after, lines = before ++ (p.lines ++ after) ∧ p.start = start + before.length := by
  induction layout with
  | leftover lead => exact absurd member List.not_mem_nil
  | @skipped start lead rest line parts before closes later ih =>
    obtain ⟨whole, early, after, rfl, place⟩ := ih member
    refine ⟨whole, lead ++ line :: early, after, by simp, ?_⟩
    simp only [place, List.length_append, List.length_cons]
    omega
  | @part start block rest parts whole ends later ih =>
    rcases List.mem_cons.mp member with rfl | member
    · exact ⟨whole, [], rest, rfl, rfl⟩
    · obtain ⟨whole, early, after, rfl, place⟩ := ih member
      refine ⟨whole, block ++ early, after, by simp, ?_⟩
      simp only [place, List.length_append]
      omega

theorem start_le (layout : Layout start lines parts) : ∀ p ∈ parts, start ≤ p.start := by
  intro p member
  obtain ⟨_, before, _, _, place⟩ := layout.exists_block member
  omega

/-- The parts come one behind another. -/
theorem ordered (layout : Layout start lines parts) :
    parts.Pairwise fun p q => p.start + p.lines.length ≤ q.start := by
  induction layout with
  | leftover lead => exact .nil
  | skipped before closes later ih => exact ih
  | part whole ends later ih => exact List.pairwise_cons.mpr ⟨later.start_le, ih⟩

/-- What is in no part is in a gap. -/
theorem exists_gap (layout : Layout start lines parts) {i : Nat} (bound : i < lines.length)
    (outside : ∀ p ∈ parts, start + i < p.start ∨ p.start + p.lines.length ≤ start + i) :
    ∃ before block after, lines = before ++ (block ++ after) ∧ before.length ≤ i ∧ i < before.length + block.length ∧
      IsGap block after ∧ ∀ p ∈ parts, p.start + p.lines.length ≤ start + before.length ∨
        start + before.length + block.length ≤ p.start := by
  induction layout generalizing i with
  | @leftover start lines lead =>
    exact ⟨[], lines, [], by simp, Nat.zero_le _, by simpa using bound, .last lead rfl, by simp⟩
  | @skipped start lead rest line parts before closes later ih =>
    by_cases here : i < lead.length + 1
    · refine ⟨[], lead ++ [line], rest, by simp, Nat.zero_le _, by simpa using here, .closed rfl before closes, ?_⟩
      intro p member
      have behind := later.start_le p member
      simp only [List.length_append, List.length_singleton, List.length_nil]
      omega
    · simp only [List.length_append, List.length_cons] at bound
      obtain ⟨early, block, after, rfl, lower, upper, gap, apart⟩ :=
        @ih (i - (lead.length + 1)) (by omega) fun p member => by
          have := outside p member
          omega
      refine ⟨lead ++ line :: early, block, after, by simp, ?_, ?_, gap, fun p member => ?_⟩
      · simp only [List.length_append, List.length_cons]
        omega
      · simp only [List.length_append, List.length_cons]
        omega
      · have := apart p member
        simp only [List.length_append, List.length_cons]
        omega
  | @part start block rest parts whole ends later ih =>
    have behind : block.length ≤ i := by
      have := outside ⟨start, block⟩ (List.mem_cons_self ..)
      simp only at this
      omega
    simp only [List.length_append] at bound
    obtain ⟨early, gap, after, rfl, lower, upper, isGap, apart⟩ := @ih (i - block.length) (by omega) fun p member => by
      have := outside p (List.mem_cons_of_mem _ member)
      omega
    refine ⟨block ++ early, gap, after, by simp, ?_, ?_, isGap, fun p member => ?_⟩
    · simp only [List.length_append]
      omega
    · simp only [List.length_append]
      omega
    · rw [List.length_append]
      rcases List.mem_cons.mp member with rfl | member
      · exact .inl (by simp only; omega)
      · have := apart p member
        omega

end Layout

/-- What parts lines are cut into. -/
structure IsCut (lines : List Line) (parts : List Part) : Prop where
  /-- Each part is a block of some of the lines, at its own place, and they come one behind another. -/
  block : ∀ p ∈ parts, p.lines ≠ [] ∧ p.lines = (lines.drop p.start).take p.lines.length
  ordered : parts.Pairwise fun p q => p.start + p.lines.length ≤ q.start
  /-- Behind a lead a part has a line that opens it or is content. No later line opens a document, and none but the last
  closes one. -/
  form : ∀ p ∈ parts, ∃ lead head body, p.lines = lead ++ head :: body ∧ IsLead lead ∧
    (lineKind head = .opening ∨ lineKind head = .content) ∧ (∀ line ∈ body, lineKind line ≠ .opening) ∧
    ∀ line ∈ p.lines.dropLast, lineKind line ≠ .closing
  /-- A line that is in no part is in a gap, and so are the lines of the gap. -/
  gap : ∀ i < lines.length, (∀ p ∈ parts, i < p.start ∨ p.start + p.lines.length ≤ i) →
    ∃ before block after, lines = before ++ (block ++ after) ∧ before.length ≤ i ∧ i < before.length + block.length ∧
      IsGap block after ∧
      ∀ p ∈ parts, p.start + p.lines.length ≤ before.length ∨ before.length + block.length ≤ p.start

/-- Lines are cut into parts such that none is lost, and the lines of a part of a text are cut into that part. -/
theorem parts_account_for_lines :
    (∀ lines, IsCut lines (parts lines)) ∧
      ∀ text, ∀ p ∈ parts (Text.lines text), parts (Text.lines p.text) = [⟨0, p.lines⟩] := by
  constructor
  · intro lines
    have layout : Layout 0 lines (parts lines) := parts_eq_iff.mp rfl
    refine ⟨fun p member => ?_, layout.ordered, fun p member => (layout.exists_block member).1.form, ?_⟩
    · obtain ⟨whole, before, after, split, place⟩ := layout.exists_block member
      obtain ⟨lead, head, body, form, _⟩ := whole.form
      refine ⟨by simp [form], ?_⟩
      rw [split, place, Nat.zero_add, List.drop_left, List.take_left]
    · intro i bound outside
      simpa using layout.exists_gap bound (by simpa using outside)
  · intro text p member
    obtain ⟨whole, before, after, split, _⟩ := (parts_eq_iff.mp rfl : Layout 0 _ (parts _)).exists_block member
    have behind : Text.lines (p.lines ++ after).flatten = p.lines ++ after := Text.lines_flatten_of_behind split
    have same : Text.lines p.text = p.lines := Text.lines_flatten_of_append behind
    have alone : Layout 0 (p.lines ++ []) [⟨0, p.lines⟩] :=
      .part whole (.last rfl) (.leftover isLead_nil)
    rw [same, parts_eq_iff]
    rwa [List.append_nil] at alone

end AccessPolicy.Source

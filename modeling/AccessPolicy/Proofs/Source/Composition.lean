import AccessPolicy.Source.Part
import Mathlib.Data.List.Basic

namespace AccessPolicy.Source

open Text (Line)

/-- A part with so many more lines before it. -/
def Part.shift (n : Nat) (p : Part) : Part := { p with start := n + p.start }

/-- The lines of one document: its only mark opens it. -/
structure IsDocument (lines : List Line) : Prop where
  opens : lines.head?.map lineKind = some .opening
  single : ∀ line ∈ lines.tail, lineKind line ≠ .opening ∧ lineKind line ≠ .closing

instance IsDocument.decide (lines : List Line) : Decidable (IsDocument lines) :=
  decidable_of_iff (lines.head?.map lineKind = some .opening ∧
      ∀ line ∈ lines.tail, lineKind line ≠ .opening ∧ lineKind line ≠ .closing)
    ⟨fun ⟨opens, single⟩ => ⟨opens, single⟩, fun ⟨opens, single⟩ => ⟨opens, single⟩⟩

namespace Pending

/-- What has been seen, with so many more lines before it. -/
def shift (n : Nat) (p : Pending) : Pending := { p with start := n + p.start }

theorem step_opening {p : Pending} {line : Line} (opens : lineKind line = .opening) :
    p.step line =
      if p.hasContent then (⟨p.position, [line], true⟩, p.part?) else (⟨p.start, line :: p.seen, true⟩, none) := by
  simp only [step, opens]

theorem step_closing {p : Pending} {line : Line} (closes : lineKind line = .closing) :
    p.step line = (startingAt (p.position + 1), part? ⟨p.start, line :: p.seen, p.hasContent⟩) := by
  simp only [step, closes]

theorem step_prologue {p : Pending} {line : Line} (prologue : lineKind line = .prologue) :
    p.step line = (⟨p.start, line :: p.seen, p.hasContent⟩, none) := by
  simp only [step, prologue]

theorem step_content {p : Pending} {line : Line} (content : lineKind line = .content) :
    p.step line = (⟨p.start, line :: p.seen, true⟩, none) := by
  simp only [step, content]

theorem position_step (p : Pending) (line : Line) : (p.step line).1.position = p.position + 1 := by
  cases kind : lineKind line with
  | opening =>
    rw [step_opening kind]
    split <;> simp [position, Nat.add_assoc]
  | closing => simp [step_closing kind, position, startingAt]
  | prologue => simp [step_prologue kind, position, Nat.add_assoc]
  | content => simp [step_content kind, position, Nat.add_assoc]

theorem step_shift (n : Nat) (p : Pending) (line : Line) :
    (p.shift n).step line = ((p.step line).1.shift n, (p.step line).2.map (Part.shift n)) := by
  cases kind : lineKind line with
  | opening =>
    rw [step_opening kind, step_opening kind]
    by_cases content : p.hasContent = true <;> simp [content, shift, part?, position, Part.shift, Nat.add_assoc]
  | closing =>
    rw [step_closing kind, step_closing kind]
    by_cases content : p.hasContent = true <;>
      simp [content, shift, part?, position, startingAt, Part.shift, Nat.add_assoc]
  | prologue => simp [step_prologue kind, shift]
  | content => simp [step_content kind, shift]

theorem run_cons (p : Pending) (line : Line) (rest : List Line) :
    p.run (line :: rest) =
      ((p.step line).2.toList ++ ((p.step line).1.run rest).1, ((p.step line).1.run rest).2) := rfl

theorem run_append (p : Pending) (before after : List Line) :
    p.run (before ++ after) =
      ((p.run before).1 ++ ((p.run before).2.run after).1, ((p.run before).2.run after).2) := by
  induction before generalizing p with
  | nil => rfl
  | cons line before ih => simp only [List.cons_append, run_cons, ih, List.append_assoc]

theorem position_run (p : Pending) (lines : List Line) : (p.run lines).2.position = p.position + lines.length := by
  induction lines generalizing p with
  | nil => rfl
  | cons line rest ih => rw [run_cons, ih, position_step, List.length_cons, Nat.add_assoc, Nat.add_comm 1]

theorem run_shift (n : Nat) (p : Pending) (lines : List Line) :
    (p.shift n).run lines = ((p.run lines).1.map (Part.shift n), (p.run lines).2.shift n) := by
  induction lines generalizing p with
  | nil => rfl
  | cons line rest ih => cases part : (p.step line).2 <;> simp [run_cons, step_shift, ih, part]

theorem parts_shift (n : Nat) (p : Pending) (lines : List Line) :
    (p.shift n).parts lines = (p.parts lines).map (Part.shift n) := by
  have last : ((p.run lines).2.shift n).part? = (p.run lines).2.part?.map (Part.shift n) := by
    by_cases content : (p.run lines).2.hasContent = true <;> simp [part?, shift, content, Part.shift]
  cases part : (p.run lines).2.part? <;> simp [parts, run_shift, last, part]

theorem parts_startingAt (n : Nat) (lines : List Line) :
    (startingAt n).parts lines = (Source.parts lines).map (Part.shift n) :=
  parts_shift n (startingAt 0) lines

theorem parts_append (p : Pending) (before after : List Line) :
    p.parts (before ++ after) = (p.run before).1 ++ (p.run before).2.parts after := by
  simp only [parts, run_append, List.append_assoc]

theorem parts_cons (p : Pending) (line : Line) (rest : List Line) :
    p.parts (line :: rest) = (p.step line).2.toList ++ (p.step line).1.parts rest := by
  simp only [parts, run_cons, List.append_assoc]

/-- Where a document opens behind content, or the lines end, the part that has begun ends, and nothing is left of it. -/
theorem parts_of_content {p : Pending} {lines : List Line} (content : p.hasContent = true)
    (stops : lines = [] ∨ lines.head?.map lineKind = some .opening) :
    p.parts lines = p.part?.toList ++ (startingAt p.position).parts lines := by
  rcases stops with rfl | opens
  · exact (List.append_nil _).symm
  · obtain ⟨line, first, kind⟩ := Option.map_eq_some_iff.mp opens
    obtain ⟨rest, rfl⟩ := List.head?_eq_some_iff.mp first
    rw [parts_cons, parts_cons, step_opening kind, step_opening kind]
    simp [content, startingAt]

/-- Lines that are no marks do not end a part with content. -/
theorem run_of_content {p : Pending} {lines : List Line} (content : p.hasContent = true)
    (inside : ∀ line ∈ lines, lineKind line ≠ .opening ∧ lineKind line ≠ .closing) :
    p.run lines = ([], ⟨p.start, lines.reverse ++ p.seen, true⟩) := by
  induction lines generalizing p with
  | nil =>
    obtain ⟨start, seen, hasContent⟩ := p
    obtain rfl : hasContent = true := content
    rfl
  | cons line rest ih =>
    obtain ⟨here, later⟩ := List.forall_mem_cons.mp inside
    have step : p.step line = (⟨p.start, line :: p.seen, true⟩, none) := by
      cases kind : lineKind line with
      | opening => exact absurd kind here.1
      | closing => exact absurd kind here.2
      | prologue => rw [step_prologue kind, content]
      | content => rw [step_content kind]
    rw [run_cons, step, ih rfl later]
    simp

/-- A document is added to what precedes it in its part; a part with content ends before it. -/
theorem run_document {p : Pending} {document : List Line} (single : IsDocument document) :
    p.run document =
      if p.hasContent then (p.part?.toList, ⟨p.position, document.reverse, true⟩)
      else ([], ⟨p.start, document.reverse ++ p.seen, true⟩) := by
  obtain ⟨line, first, kind⟩ := Option.map_eq_some_iff.mp single.opens
  obtain ⟨rest, rfl⟩ := List.head?_eq_some_iff.mp first
  have goesOn (start : Nat) (seen : List Line) :
      run ⟨start, line :: seen, true⟩ rest = ([], ⟨start, rest.reverse ++ line :: seen, true⟩) :=
    run_of_content rfl single.single
  rw [run_cons, step_opening kind]
  by_cases content : p.hasContent = true <;> simp [content, goesOn]

end Pending

/-- Where lines may be cut off: at their start, behind a line that closes a document, or before a line that opens one
if the part that has begun has content. -/
inductive Joins (before after : List Line) : Prop
  | start (nothing : before = [])
  | closed (closes : before.getLast?.map lineKind = some .closing)
  | opened (content : ((Pending.startingAt 0).run before).2.hasContent = true)
      (opens : after.head?.map lineKind = some .opening)

theorem parts_append {before after : List Line} (joins : Joins before after) :
    parts (before ++ after) = parts before ++ (parts after).map (Part.shift before.length) := by
  have position : ((Pending.startingAt 0).run before).2.position = before.length := by
    rw [Pending.position_run]
    exact Nat.zero_add _
  have resumes : ((Pending.startingAt 0).run before).2.parts after =
      ((Pending.startingAt 0).run before).2.part?.toList ++ (Pending.startingAt before.length).parts after := by
    cases joins with
    | start nothing =>
      subst nothing
      rfl
    | closed closes =>
      obtain ⟨line, last, kind⟩ := Option.map_eq_some_iff.mp closes
      obtain ⟨others, rfl⟩ := List.getLast?_eq_some_iff.mp last
      have done : ((Pending.startingAt 0).run (others ++ [line])).2 = Pending.startingAt (others ++ [line]).length := by
        rw [Pending.run_append, Pending.run_cons, Pending.step_closing kind, Pending.position_run]
        simp [Pending.run, Pending.position, Pending.startingAt]
      rw [done]
      rfl
    | opened content opens => rw [Pending.parts_of_content content (.inr opens), position]
  calc parts (before ++ after)
      = ((Pending.startingAt 0).run before).1 ++ ((Pending.startingAt 0).run before).2.parts after :=
        Pending.parts_append _ before after
    _ = parts before ++ (Pending.startingAt before.length).parts after := by
        rw [resumes, ← List.append_assoc]
        rfl
    _ = parts before ++ (parts after).map (Part.shift before.length) := by rw [Pending.parts_startingAt]

theorem parts_document {document : List Line} (single : IsDocument document) : parts document = [⟨0, document⟩] := by
  rw [parts, Pending.parts, Pending.run_document single]
  simp [Pending.startingAt, Pending.part?]

/-- Documents one behind another are its parts, each behind as many lines as those before it have. -/
theorem parts_flatten {documents : List (List Line)} (single : ∀ document ∈ documents, IsDocument document) :
    parts documents.flatten = documents.mapIdx fun i document => ⟨(documents.take i).flatten.length, document⟩ := by
  induction documents with
  | nil => rfl
  | cons document rest ih =>
    obtain ⟨here, later⟩ := List.forall_mem_cons.mp single
    have split : parts (document ++ rest.flatten) =
        parts document ++ (parts rest.flatten).map (Part.shift document.length) := by
      cases rest with
      | nil => simp [show parts [] = [] from rfl]
      | cons next rest =>
        refine parts_append (.opened ?_ ?_)
        · simp [Pending.run_document here, Pending.startingAt]
        · have opens := (later next (List.mem_cons_self ..)).opens
          cases next with
          | nil => simp at opens
          | cons line more => simpa using opens
    rw [List.flatten_cons, split, parts_document here, ih later, List.mapIdx_cons, List.singleton_append]
    congr 1
    refine List.ext_getElem? fun i => ?_
    simp [Part.shift, Function.comp_def]

/-- Behind a boundary lines are cut as they are alone, but for the lines that stand before them. So documents whose only
mark opens them are found again, each at its own place. -/
theorem parts_compositional :
    (∀ before after, Joins before after →
      parts (before ++ after) = parts before ++ (parts after).map (Part.shift before.length)) ∧
    ∀ documents : List (List Line), (∀ document ∈ documents, IsDocument document) →
      parts documents.flatten = documents.mapIdx fun i document => ⟨(documents.take i).flatten.length, document⟩ :=
  ⟨fun _ _ joins => parts_append joins, fun _ single => parts_flatten single⟩

theorem three_lines_compose :
    parts (["# a\n".toList, "b\n".toList] ++ ["--- c\n".toList]) =
        parts ["# a\n".toList, "b\n".toList] ++ (parts ["--- c\n".toList]).map (Part.shift 2) ∧
      parts [["---\n".toList, "a: [\n".toList], ["--- b".toList]].flatten =
        [⟨0, ["---\n".toList, "a: [\n".toList]⟩, ⟨2, ["--- b".toList]⟩] :=
  ⟨parts_compositional.1 _ _ (.opened (by decide +kernel) (by decide +kernel)),
    parts_compositional.2 _ (by decide +kernel)⟩

end AccessPolicy.Source

import AccessPolicy.Proofs.Source.Entering
import AccessPolicy.Proofs.Source.Layout
import AccessPolicy.Proofs.Source.Padding

namespace AccessPolicy.Source

open Text (Line)
open Yaml (isGap)

section Layouts

variable {start : Nat} {lines block rest : List Line} {ps : List Part} {values : List Value}

theorem dropWhile_lead {lead others : List Line} {head : Line} (before : IsLead lead)
    (starts : lineKind head ≠ .prologue) :
    (lead ++ head :: others).dropWhile (lineKind · == .prologue) = head :: others := by
  rw [List.dropWhile_append_of_pos (fun line member => by simp [before line member])]
  simp [starts]

/-- A part of a layout, as the notation has it. -/
theorem IsWhole.exists_isPart (whole : IsWhole block) (ends : Ends block rest) (plain : IsPlain (block ++ rest).flatten)
    (cut : Text.lines (block ++ rest).flatten = block ++ rest)
    (kinds : ∀ line ∈ block ++ rest, lineKind line = kindBy isGap line)
    (directives : ∀ line ∈ block.dropWhile (lineKind · == .prologue), line.head? ≠ some '%') :
    ∃ lead head body stop, block = lead ++ (head :: body ++ stop) ∧ IsPart lead head body stop rest ∧
      (kindBy isGap head = .opening ∨ kindBy isGap head = .content) := by
  have form {lead body stop : List Line} {head : Line} (split : block = lead ++ (head :: body ++ stop)) (before : IsLead lead)
      (starts : lineKind head = .opening ∨ lineKind head = .content)
      (marked : ∀ line ∈ body, lineKind line ≠ .opening ∧ lineKind line ≠ .closing) (behind : Behind stop rest) :
      IsPart lead head body stop rest ∧ (kindBy isGap head = .opening ∨ kindBy isGap head = .content) := by
    have known (line : Line) (member : line ∈ block) : lineKind line = kindBy isGap line :=
      kinds line (List.mem_append_left _ member)
    have kept : block.dropWhile (lineKind · == .prologue) = head :: (body ++ stop) := by
      rw [split]
      exact dropWhile_lead before (by rcases starts with kind | kind <;> simp [kind])
    rw [kept] at directives
    rw [split, List.append_assoc, List.append_assoc] at plain cut
    refine ⟨⟨plain, cut, fun line member => ?_, fun line member => ?_, behind⟩, ?_⟩
    · rw [← known line (by simp [split, member])]
      exact before line member
    · have kind := marked line member
      rw [known line (by simp [split, member])] at kind
      exact ⟨kind.1, kind.2, directives line (by simp [member])⟩
    · rwa [← known head (by simp [split])]
  cases whole with
  | unclosed sofar =>
    obtain ⟨lead, head, body, split, before, starts, marked⟩ := sofar.form
    have split : block = lead ++ (head :: body ++ []) := by rw [split, List.append_nil]
    refine ⟨lead, head, body, [], split, form split before starts marked ?_⟩
    cases ends with
    | last nothing => exact nothing ▸ .last
    | closed closes => exact absurd closes sofar.getLast?_ne
    | opened opens =>
      cases rest with
      | nil => simp at opens
      | cons line rest =>
        rw [List.head?_cons, Option.map_some, kinds line (by simp)] at opens
        exact .opened (Option.some.inj opens)
  | @closed lines line sofar closes =>
    obtain ⟨lead, head, body, split, before, starts, marked⟩ := sofar.form
    have split : lines ++ [line] = lead ++ (head :: body ++ [line]) := by simp [split]
    refine ⟨lead, head, body, [line], split, form split before starts marked ?_⟩
    rw [kinds line (by simp)] at closes
    exact .closed closes

/-- Behind the last part there is no document. -/
theorem reads_of_lead (plain : IsPlain lines.flatten) (cut : Text.lines lines.flatten = lines)
    (kinds : ∀ line ∈ lines, kindBy isGap line = .prologue) (reads : Reads lines.flatten values) : values = [] := by
  obtain ⟨g, events, either, runs, makes, loaded⟩ := reads
  obtain ⟨first, others, here, kind⟩ := first_of_prologue plain cut kinds runs
  have last : first.word = .streamEnd := kind.resolve_right fun ⟨d, directive⟩ => by
    obtain ⟨ending, member, last⟩ := runs.exists_streamEnd ⟨rfl, rfl, rfl⟩
    exact Yaml.Grammar.not_makes_of_directive either here directive (not_opens_of_prologue plain cut kinds runs)
      ⟨ending, member, fun d => by simp [last]⟩ makes
  rw [(Yaml.Grammar.makes_streamEnd_iff either here last).mp makes] at loaded
  cases loaded
  rfl

/-- A document that is ended in no part is none. -/
theorem reads_of_skipped {lead : List Line} {line : Line} (plain : IsPlain (lead ++ line :: rest).flatten)
    (cut : Text.lines (lead ++ line :: rest).flatten = lead ++ line :: rest)
    (before : ∀ line ∈ lead, kindBy isGap line = .prologue) (closes : kindBy isGap line = .closing)
    (reads : Reads (lead ++ line :: rest).flatten values) : Reads rest.flatten values := by
  obtain ⟨g, events, either, runs, makes, loaded⟩ := reads
  rw [List.flatten_append, ← List.append_nil (line :: rest).flatten] at plain runs
  obtain ⟨ds, ds', later, l, led⟩ := exists_isLed plain (isFed_of_lines cut (by simp)) before (.inl rfl) runs
  have lines : Text.lines (line :: rest).flatten = line :: rest := Text.lines_flatten_of_behind cut
  obtain ⟨marked, ends⟩ := markToken_of_closing closes (feed_of_lines lines)
  have behind := led.later
  rw [List.append_nil] at behind plain
  obtain ⟨others, rfl, left⟩ := (Yaml.Cutter.runs_mark marked l).mp behind
  have here := led.tokens
  obtain rfl : ds = [] := by
    by_contra some
    exact Yaml.Grammar.not_makes_of_directives either led.directives some (fun d => by simp [ends]) (by simp [ends]) here makes
  have expected : g.expected = [.document] := either.resolve_left fun expected =>
    Yaml.Grammar.not_makes_of_documentEnd expected here ends makes
  have some : others ≠ [] := by
    obtain ⟨token, member, _⟩ := left.exists_streamEnd ⟨rfl, rfl, rfl⟩
    exact List.ne_nil_of_mem member
  have makes' := makes.of_documentEnd expected here ends some
  exact reads_behind_closing plain.of_append lines closes
    (show Yaml.Grammar.expected { g with tokens := others } = _ from expected) left makes' loaded

theorem firstForbidden_eq_none_iff {text : List Char} :
    Yaml.firstForbidden? text = none ↔ ∀ ch ∈ text, Yaml.isAllowed ch = true := by
  rw [← List.dropWhile_eq_nil_iff]
  unfold Yaml.firstForbidden?
  split <;> simp [*]

/-- The parts of lines that are read are loaded to the data that are read. -/
theorem Layout.loads (layout : Layout start lines ps) (plain : IsPlain lines.flatten)
    (cut : Text.lines lines.flatten = lines) (kinds : ∀ line ∈ lines, lineKind line = kindBy isGap line)
    (directives : ∀ p ∈ ps, ∀ line ∈ p.lines.dropWhile (lineKind · == .prologue), line.head? ≠ some '%')
    (allowed : ∀ ch ∈ lines.flatten, Yaml.isAllowed ch = true) (reads : Reads lines.flatten values) :
    List.Forall₂ (fun p v => p.load = .ok v) ps values := by
  -- along the parts: each takes its own data, and leaves a text that is read by itself
  induction layout generalizing values with
  | leftover lead =>
    obtain rfl := reads_of_lead plain cut (fun line member => kinds line member ▸ lead line member) reads
    exact .nil
  | @skipped start lead rest line ps before closes later ih =>
    have reads := reads_of_skipped plain cut (fun line member => kinds line (by simp [member]) ▸ before line member)
      (kinds line (by simp) ▸ closes) reads
    have split : lead ++ line :: rest = lead ++ [line] ++ rest := by simp
    rw [split, List.flatten_append] at plain allowed
    rw [split] at cut
    refine ih plain.of_append (Text.lines_flatten_of_behind cut) (fun line member => kinds line (by simp [member])) directives
      (fun ch member => allowed ch (List.mem_append_right _ member)) reads
  | @part start block rest ps whole ends later ih =>
    obtain ⟨here, directivesLater⟩ := List.forall_mem_cons.mp directives
    obtain ⟨lead, head, body, stop, rfl, part, starts⟩ := whole.exists_isPart ends plain cut kinds here
    rw [List.flatten_append] at plain allowed
    have forbidden : Yaml.firstForbidden? (lead ++ (head :: body ++ stop)).flatten = none :=
      firstForbidden_eq_none_iff.mpr fun ch member => allowed ch (List.mem_append_left _ member)
    obtain ⟨v, vs, rfl, loaded, reads⟩ := part.loads starts forbidden (by simpa using reads)
    have unmarked : (lead ++ (head :: body ++ stop)).flatten.head? ≠ some '\ufeff' := fun marked =>
      plain.noOrderMark (List.mem_append_left _ (List.mem_of_head? marked))
    refine .cons ?_ (ih plain.of_append (Text.lines_flatten_of_behind cut)
      (fun line member => kinds line (List.mem_append_right _ member)) directivesLater
      (fun ch member => allowed ch (List.mem_append_right _ member)) reads)
    -- the empty lines that stand for the text before a part change no data
    have loaded : Yaml.load (Part.text ⟨start, lead ++ (head :: body ++ stop)⟩) = .ok v := loaded
    rw [load_eq ⟨start, lead ++ (head :: body ++ stop)⟩ unmarked, loaded]
    rfl

end Layouts

/-- The data of the parts of a text, one after another. -/
def loadParts (text : List Char) : Except Trouble (List Value) :=
  (parts (Text.lines text)).mapM Part.load

/-- A text with the lines of the notation is cut where its documents begin and end: what its documents are loaded to, all at
once, its parts are loaded to, one after another. -/
theorem IsRegular.loads_parts {text : List Char} {values : List Value} (regular : IsRegular text)
    (loaded : Yaml.loadAll text = .ok values) : loadParts text = .ok values := by
  have unmarked : text.head? ≠ some '\ufeff' := fun marked => regular.noOrderMark (List.mem_of_head? marked)
  obtain ⟨allowed, tokens, events, runs, makes, made⟩ := Yaml.exists_makes_of_loadAll unmarked loaded
  have allowed := firstForbidden_eq_none_iff.mp allowed
  have noEnd : Yaml.endMark ∉ text := fun member => by
    have forbidden : Yaml.isAllowed Yaml.endMark = false := rfl
    simp [allowed _ member] at forbidden
  have whole := Text.flatten_lines text
  refine mapM_eq_ok_iff.mpr ((parts_eq_iff.mp rfl).loads ?_ (by rw [whole]) regular.kinds regular.directives
    (whole.symm ▸ allowed) ?_)
  · rw [whole]
    exact ⟨regular.ends, regular.noOrderMark, noEnd⟩
  · rw [whole]
    exact ⟨.opening tokens, events, .inl rfl, runs, makes, made⟩

/-- Two documents: one with a directive and an end, the other behind a comment. -/
def twoDocuments : List Char := "%YAML 1.1\n--- a\n...\n# b\n---\n- c\n".toList

theorem two_documents_load :
    IsRegular twoDocuments ∧ ∃ values, Yaml.loadAll twoDocuments = .ok values ∧
      (Value.list values).same (.list [.text "a", .list [.text "c"]]) = true ∧ loadParts twoDocuments = .ok values := by
  have regular : IsRegular twoDocuments := by decide +kernel
  have read : ((Yaml.loadAll twoDocuments).map fun values =>
      (Value.list values).same (.list [.text "a", .list [.text "c"]])).toOption = some true := by decide +kernel
  cases loaded : Yaml.loadAll twoDocuments with
  | error failure => simp [loaded, Except.map, Except.toOption] at read
  | ok values =>
    have same : (Value.list values).same (.list [.text "a", .list [.text "c"]]) = true := by
      simpa [loaded, Except.map, Except.toOption] using read
    exact ⟨regular, values, rfl, same, regular.loads_parts loaded⟩

/-- Three dashes before a wide blank are no mark, so the text has one document; but they are taken for one when the
text is cut. -/
theorem wide_blank_cuts :
    ((Yaml.loadAll "a\n---\u00a0b\n".toList).map fun values =>
        (Value.list values).same (.list [.text "a ---\u00a0b"])).toOption = some true ∧
      ((loadParts "a\n---\u00a0b\n".toList).map fun values =>
        (Value.list values).same (.list [.text "a", .text "---\u00a0b"])).toOption = some true := by
  constructor <;> decide +kernel

end AccessPolicy.Source

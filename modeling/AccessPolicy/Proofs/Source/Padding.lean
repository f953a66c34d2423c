import AccessPolicy.Proofs.Trials
import AccessPolicy.Proofs.Yaml.Telling
import AccessPolicy.Source.Item

namespace AccessPolicy.Source

/-- Whether a text further down comes to the same as a text: to the same data, or to the same failure, of which the same
is told but for the numbers of lines, each of which is larger by so many. Of a character that may not occur no line is
told but its position. -/
inductive LoadsBehind (n : Nat) : Except Trouble Value → Except Trouble Value → Prop
  | value (v : Value) : LoadsBehind n (.ok v) (.ok v)
  | failure {text text' : List Char} {failure : Yaml.Failure} (noCharacter : ∀ c position, failure ≠ .character c position)
    (before : failure.message? text = (failure.pieces? text).map Yaml.tell)
    (behind : failure.message? text' = (failure.pieces? text).map (Yaml.tellBehind n)) :
    LoadsBehind n (.error (.markup text failure)) (.error (.markup text' failure))
  | character {text text' : List Char} (c : Char) (position : Nat) :
    LoadsBehind n (.error (.markup text (.character c position))) (.error (.markup text' (.character c (n + position))))

/-- The same text at the start of a source. -/
def Part.alone (p : Part) : Part := { p with start := 0 }

/-- A failure that tells no position of a character tells places of the text. -/
theorem places_of_load {text : List Char} {failure : Yaml.Failure} (failed : Yaml.load text = .error failure)
    (noCharacter : ∀ c position, failure ≠ .character c position) : failure.Places (Yaml.Mark.Within text) := by
  cases found : Yaml.firstForbidden? text with
  | some character =>
    obtain ⟨c, position⟩ := character
    rw [Yaml.load_of_forbidden found] at failed
    exact absurd (Except.error.inj failed).symm (noCharacter c position)
  | none => exact (Yaml.meets_load (Yaml.start_ahead_within text) found).of_error failed

theorem loadsBehind_of_failed (n : Nat) {text : List Char} {failure : Yaml.Failure}
    (failed : Yaml.load text = .error failure) (noCharacter : ∀ c position, failure ≠ .character c position) :
    LoadsBehind n (.error (.markup text failure)) (.error (.markup (Yaml.padded n text) failure)) := by
  have places := places_of_load failed noCharacter
  refine .failure noCharacter (Yaml.message_eq_map_tell failure) ?_
  rw [Yaml.message_eq_map_tell, Yaml.failure_pieces_padded n places, Option.map_map]
  rfl

theorem load_eq (p : Part) (unmarked : p.text.head? ≠ some '\ufeff') :
    p.load = ((Yaml.load p.text).mapError (.behind p.start)).mapError (.markup p.padded) := by
  rw [← Yaml.load_padded p.start unmarked]
  rfl

/-- Where a part stands makes no difference to its data, and to what is told of it only that the numbers of lines are
those of the source. -/
theorem load_behind_lines (p : Part) (unmarked : p.text.head? ≠ some '\ufeff') :
    LoadsBehind p.start p.alone.load p.load := by
  have alone : p.alone.load = (Yaml.load p.text).mapError (.markup p.text) := rfl
  rw [alone, load_eq p unmarked]
  cases loaded : Yaml.load p.text with
  | ok v => exact .value v
  | error failure =>
    cases failure with
    | character c position => exact .character c position
    | form fault => exact loadsBehind_of_failed p.start loaded fun _ _ same => nomatch same
    | scalar fault => exact loadsBehind_of_failed p.start loaded fun _ _ same => nomatch same

/-- A bracket that is not closed, in a document behind three lines. -/
def unclosedPart : Part := ⟨3, ["---\n".toList, "a: [b\n".toList, "c: d\n".toList]⟩

theorem unclosed_behind_lines :
    unclosedPart.text.head? ≠ some '\ufeff' ∧ LoadsBehind 3 unclosedPart.alone.load unclosedPart.load :=
  ⟨by decide, load_behind_lines unclosedPart (by decide)⟩

example : (fault? unclosedPart.load).bind Trouble.wording? = some
    "while parsing a flow sequence\n  in \"<unicode string>\", line 5, column 4:\n    a: [b\n       ^\nexpected ',' or ']', but got ':'\n  in \"<unicode string>\", line 6, column 2:\n    c: d\n     ^" := by
  decide +kernel

end AccessPolicy.Source

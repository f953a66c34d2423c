import AccessPolicy.Pattern.Matching
import AccessPolicy.Pattern.Reading

namespace AccessPolicy

/-- A pattern with its text. The text decides the pattern, so patterns with one text are the same. -/
structure Pattern where
  source : String
  form : Pattern.Form
  denoted : Pattern.read source.toList = .ok form

/-- The pattern that a text denotes. -/
def Pattern.ofText (source : String) : Except Pattern.Fault Pattern :=
  match h : Pattern.read source.toList with
  | .ok form => .ok ⟨source, form, h⟩
  | .error fault => .error fault

/-- Whether a text is matched from end to end. -/
def Pattern.fits (p : Pattern) (text : String) : Except Pattern.Tangle Bool :=
  p.form.fits text.toList

end AccessPolicy

import AccessPolicy.Pattern.Node
import AccessPolicy.Text.Ranges
import AccessPolicy.Text.Case
import AccessPolicy.Text.Numeral
import AccessPolicy.Text.Word

namespace AccessPolicy.Pattern

/-- Whether a code point has a property. -/
def Category.holds (ascii : Bool) (n : Nat) : Category → Bool
  | .digit => let c := Char.ofNat n; if ascii then c.isDigit else Text.isDigit c
  | .space => let c := Char.ofNat n; if ascii then Text.isAsciiBlank c else Text.isBlank c
  | .word => let c := Char.ofNat n; if ascii then c.isAlphanum || c == '_' else Text.isWord c

/-- Whether a character is the one of a pattern. -/
def Fold.isChar (fold : Fold) (code n : Nat) : Bool :=
  match fold with
  | .exact => n == code
  | .ascii => Text.asciiLower n == Text.asciiLower code
  | .full =>
    if Text.isCasedCode code then (Text.kin (Text.lowerCode code)).contains (Text.lowerCode n) else n == code

/-- Whether case makes a difference for a character. -/
def Fold.minds (fold : Fold) (code : Nat) : Bool :=
  match fold with
  | .exact => false
  | .ascii => Text.asciiLower code != code || Text.asciiLowerSources code != [code]
  | .full => Text.isCasedCode code

/-- Whether a character stands for more than its two cases. -/
def Fold.isMany (fold : Fold) (code : Nat) : Bool :=
  fold == .full && 1 < (Text.kin (Text.lowerCode code)).length

/-- The form in which a character is looked up in a set. -/
def Fold.key (fold : Fold) (n : Nat) : Nat :=
  match fold with
  | .exact => n
  | .ascii => Text.asciiLower n
  | .full => Text.lowerCode n

/-- The number of code points for which sets keep full account of case. Beyond them sets keep to their entries as written.
-/
def foldLimit : Nat := 0x10000

/-- Whether case makes a difference for an entry of a set. -/
def Fold.mindsMember (fold : Fold) : Member → Bool
  | .code n => fold != .exact && (foldLimit ≤ n || fold.minds n)
  | .range low high =>
    fold != .exact && (foldLimit ≤ high || (List.range (high + 1 - low)).any fun i => fold.minds (low + i))
  | .property .. => false

/-- Whether a range takes a code point in lower case. Beyond the limit it also takes a character whose upper case form lies
in it. -/
def Fold.inRange (fold : Fold) (low high key : Nat) : Bool :=
  let within := fun n => low ≤ n && n ≤ high
  let folded := fun n => within n && n < foldLimit
  let beyond := foldLimit ≤ high && (within key || within (Text.upperCode key))
  match fold with
  | .exact => within key
  | .ascii => (Text.asciiLowerSources key).any folded || beyond
  | .full => ((Text.kin key).any fun n => (Text.lowerSources n).any folded) || beyond

/-- Whether an entry of a set takes a code point in the form in which it is looked up. -/
def Member.takes (fold : Fold) (ascii : Bool) (key : Nat) : Member → Bool
  | .code n =>
    match fold with
    | .exact => key == n
    | .ascii => key == Text.asciiLower n
    | .full =>
      if Text.lowerCode n < foldLimit then (Text.kin (Text.lowerCode n)).contains key else key == n
  | .range low high => fold.inRange low high key
  | .property category negated => category.holds ascii key != negated

/-- Whether a set takes a character. -/
def takesChar (fold : Fold) (ascii negated : Bool) (members : List Member) (c : Char) : Bool :=
  let key := fold.key c.toNat
  members.any (Member.takes fold ascii key) != negated

end AccessPolicy.Pattern

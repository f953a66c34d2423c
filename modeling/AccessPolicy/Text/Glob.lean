namespace AccessPolicy.Text

/-- One piece of a pattern. -/
inductive GlobPiece where
  | any
  | one
  | among (negated : Bool) (ranges : List (Char × Char))
  | char (c : Char)
deriving DecidableEq, Repr

/-- A text in brackets cut at the hyphens that make ranges. None stands among the first characters, whose number
is given, nor among the two behind another, nor at the end. -/
def hyphenParts (untouched : Nat) (s : List Char) : List (List Char) :=
  match _h : (s.drop untouched).dropWhile (· != '-') with
  | [] => [s]
  | hyphen :: rest =>
    let first := s.take untouched ++ (s.drop untouched).takeWhile (· != '-')
    if rest.isEmpty then [first ++ [hyphen]] else first :: hyphenParts 2 rest
termination_by s.length
decreasing_by
  have bound := (List.dropWhile_suffix (l := s.drop untouched) (· != '-')).length_le
  rw [_h, List.length_drop, List.length_cons] at bound
  omega

/-- Joins parts between which a range would end before it starts; both of its ends are left out. -/
def joinEmptyRanges : List (List Char) → List (List Char)
  | [] => []
  | first :: rest =>
    match joinEmptyRanges rest with
    | [] => [first]
    | second :: more =>
      if second.headD '\x00' < first.getLastD '\x00' then (first.dropLast ++ second.drop 1) :: more
      else first :: second :: more

/-- The ranges in a list of characters, where nothing in place of a character stands for a hyphen that makes a
range. -/
def rangesOf : List (Option Char) → List (Char × Char)
  | [] => []
  | some first :: none :: some last :: rest => (first, last) :: rangesOf rest
  | some c :: rest => (c, c) :: rangesOf rest
  | none :: rest => ('-', '-') :: rangesOf rest

/-- The piece that a text in brackets stands for. An exclamation mark in front, once empty ranges are gone, turns
the meaning round. -/
def bracketPiece (body : List Char) : GlobPiece :=
  let parts := joinEmptyRanges (hyphenParts (if body.head? == some '!' then 2 else 1) body)
  match ([none] : List (Option Char)).intercalate (parts.map fun part => part.map some) with
  | some '!' :: rest => .among true (rangesOf rest)
  | all => .among false (rangesOf all)

/-- The text up to the bracket that closes, and what follows that. A bracket that comes at once, or behind an
exclamation mark, does not close. -/
def bracket? (text : List Char) : Option (List Char × List Char) :=
  let (mark, rest) := match text with
    | '!' :: rest => (['!'], rest)
    | rest => ([], rest)
  let (first, rest) := match rest with
    | ']' :: rest => ([']'], rest)
    | rest => ([], rest)
  match rest.dropWhile (· != ']') with
  | _ :: after => some (mark ++ first ++ rest.takeWhile (· != ']'), after)
  | [] => none

/-- Reads a pattern of at most the given number of pieces. -/
def globPieces : Nat → List Char → List GlobPiece
  | 0, _ | _, [] => []
  | n + 1, '*' :: rest => .any :: globPieces n rest
  | n + 1, '?' :: rest => .one :: globPieces n rest
  | n + 1, '[' :: rest =>
    match bracket? rest with
    | some (body, after) => bracketPiece body :: globPieces n after
    | none => .char '[' :: globPieces n rest
  | n + 1, c :: rest => .char c :: globPieces n rest

/-- The pieces of a pattern. -/
def glob (pattern : List Char) : List GlobPiece := globPieces pattern.length pattern

/-- Whether a piece stands for a character. -/
def GlobPiece.accepts : GlobPiece → Char → Bool
  | any, _ | one, _ => true
  | among negated ranges, c => (ranges.any fun (first, last) => first ≤ c && c ≤ last) != negated
  | char x, c => x == c

/-- Whether pieces stand for a whole text. -/
def globFits : List GlobPiece → List Char → Bool
  | [], text => text.isEmpty
  | .any :: rest, text => (List.range (text.length + 1)).any fun n => globFits rest (text.drop n)
  | _ :: _, [] => false
  | piece :: rest, c :: text => piece.accepts c && globFits rest text

end AccessPolicy.Text

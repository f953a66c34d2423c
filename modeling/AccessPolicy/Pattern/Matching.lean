import AccessPolicy.Pattern.Repetition

namespace AccessPolicy.Pattern

/-- Why it cannot be told whether a text is matched: in the match, a group ends before it begins. -/
structure Tangle where
  group : Nat
deriving DecidableEq, Repr

/-- Whether the character before a position is a word character. -/
def wordBefore (text : Array Char) (ascii : Bool) (position : Nat) : Bool :=
  position != 0 && ((text[position - 1]?).map fun c => Category.word.holds ascii c.toNat).getD false

/-- Whether the character at a position is a word character. -/
def wordAt (text : Array Char) (ascii : Bool) (position : Nat) : Bool :=
  ((text[position]?).map fun c => Category.word.holds ascii c.toNat).getD false

/-- Whether a place of the text is as described. An empty text has no word boundary, nor anything else that
would be none. -/
def Anchor.holds (text : Array Char) (position : Nat) : Anchor → Bool
  | .textStart => position == 0
  | .lineStart => position == 0 || text[position - 1]? == some '\n'
  | .textEnd => position == text.size
  | .lastLineEnd => position == text.size || (position + 1 == text.size && text[position]? == some '\n')
  | .lineEnd => position == text.size || text[position]? == some '\n'
  | .boundary ascii negated =>
    !text.isEmpty && (wordBefore text ascii position == wordAt text ascii position) == negated

/-- Goes on behind a character of a kind. -/
def takeOne (text : Array Char) (ok : Char → Bool) (rest : Rest) : Rest := fun p t =>
  match text[p]? with
  | some c => if ok c then rest (p + 1) t else (false, t)
  | none => (false, t)

/-- Goes on behind what a group took, as far as a fold tells characters apart. -/
def takeAgain (text : Array Char) (fold : Fold) (first last : Nat) (rest : Rest) : Rest := fun p t =>
  let size := last - first
  let same := (List.range size).all fun i =>
    match text[first + i]?, text[p + i]? with
    | some c, some d => fold.key c.toNat == fold.key d.toNat
    | _, _ => false
  if same then rest (p + size) t else (false, t)

/-- Goes on if what is looked for from a place on is there, or if it is not there. -/
def lookFrom (inside positive : Bool) (place : Nat) (seek : Rest) (rest : Rest) : Rest := fun p t =>
  let r := seek place (t.moveTo place)
  if positive then if r.1 then rest p r.2 else r
  else if r.1 then (false, r.2)
  else rest p (r.2.undo inside t.marks)

mutual
/-- Runs a part of a pattern, inside a repetition or not, given what comes next. The first way to take the part that suits
the rest counts; to try another way is to run the rest at another position. -/
def Node.run (text : Array Char) : Node → Bool → Lead → Rest → Rest
  | .char fold code, _, _, rest => takeOne text (fun c => fold.isChar code c.toNat) rest
  | .notChar fold code, _, _, rest => takeOne text (fun c => !fold.isChar code c.toNat) rest
  | .any lineBreaks, _, _, rest => takeOne text (fun c => lineBreaks || c != '\n') rest
  | .set fold ascii negated members, _, _, rest => takeOne text (takesChar fold ascii negated members) rest
  | .anchor place, _, _, rest => fun p t => if place.holds text p then rest p t else (false, t)
  | .seq parts, inside, next, rest => runAll text parts inside next rest
  | .choice options, inside, _, rest => fun p t => runAny text options inside rest t.marks p t
  | .group none body, inside, next, rest => body.run text inside next rest
  | .group (some number) body, inside, _, rest => fun p t =>
    body.run text inside .unknown (fun q t => rest q (t.mark (2 * number - 1) q)) p (t.mark (2 * number - 2) p)
  | .reference fold number, _, _, rest => fun p t =>
    match t.extent? number with
    | some (first, last) => takeAgain text fold first last rest p t
    | none => (false, t)
  | .conditional number present absent, inside, next, rest => fun p t =>
    if (t.extent? number).isSome then
      present.run text inside (if absent matches .seq [] then next else .unknown) rest p t
    else absent.run text inside next rest p t
  | .repetition manner least most body, inside, next, rest =>
    match body.single? with
    | some one => repeatSingle text inside next manner least most one rest
    | none =>
      repeatTurns text.size inside manner least most (fun rest => body.run text true .unknown rest)
        (fun t => body.run text inside .unknown arrive t.place t) rest
  | .look none positive body, inside, _, rest => fun p =>
    lookFrom inside positive p (body.run text inside .unknown arrive) rest p
  | .look (some width) positive body, inside, _, rest => fun p t =>
    if width.least ≤ p then
      lookFrom inside positive (p - width.least) (body.run text inside .unknown arrive) rest p t
    else if positive then (false, t)
    else rest p t
  | .atomic body, inside, _, rest => fun p t =>
    let r := body.run text inside .unknown arrive p (t.moveTo p)
    if r.1 then rest r.2.place r.2 else (false, r.2.moveTo p)

/-- Runs parts in a row. -/
def runAll (text : Array Char) : List Node → Bool → Lead → Rest → Rest
  | [], _, _, rest => rest
  | part :: parts, inside, next, rest => part.run text inside (leadOf next parts) (runAll text parts inside next rest)

/-- Runs the first of several parts that suits the rest. Those that the next character rules out are passed
over. -/
def runAny (text : Array Char) : List Node → Bool → Rest → List (Option Nat) → Rest
  | [], _, _, _ => fun _ t => (false, t)
  | option :: options, inside, rest, before => fun p t =>
    if (option.lead .unknown).refuses text p then runAny text options inside rest before p t
    else
      (option.run text inside .unknown rest p (t.moveTo p)).orElse fun t =>
        runAny text options inside rest before p (t.undo inside before)
end

/-- The end of the text. -/
def atEnd (text : Array Char) : Rest := fun p t =>
  if p == text.size then arrive p t else (false, t)

/-- Whether a pattern matches a text from end to end. -/
def Form.fits (f : Form) (text : List Char) : Except Tangle Bool :=
  let chars := text.toArray
  if chars.size < f.least then .ok false
  else
    let r := f.body.run chars false .unknown (atEnd chars) 0 ⟨[], 0⟩
    if r.1 then (r.2.crossed?.map fun number => .error ⟨number⟩).getD (.ok true) else .ok false

end AccessPolicy.Pattern

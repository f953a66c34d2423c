import AccessPolicy.Pattern.Lead

namespace AccessPolicy.Pattern

/-- Tries the rest at a position and, where it fails, at the positions before it, at most so many. Positions that
the next character rules out are passed over. -/
def fromLast (text : Array Char) (inside : Bool) (next : Lead) (rest : Rest) (before : List (Option Nat)) :
    Nat → Rest
  | 0, p, t => (attempt p t).orElse fun t => (false, t.undo inside before)
  | n + 1, p, t => (attempt p t).orElse fun t => fromLast text inside next rest before n (p - 1) (t.undo inside before)
where
  attempt (p : Nat) (t : Trail) : Outcome :=
    if next.charOnly.refuses text p then (false, t) else rest p (t.moveTo p)

/-- Tries the rest at a position and, where it fails, behind one more character, so many times. -/
def fromFirst (text : Array Char) (inside : Bool) (one : Single) (rest : Rest) (before : List (Option Nat)) :
    Nat → Rest
  | 0, _, t => (false, t)
  | n + 1, p, t =>
    (rest p (t.moveTo p)).orElse fun t =>
      let t := (t.undo inside before).moveTo p
      if countFrom text one.takes 1 p = 0 then (false, t)
      else fromFirst text inside one rest before n (p + 1) (if one.moves then t.moveTo (p + 1) else t)

/-- Takes characters of a kind, at least and at most so many, and goes on with their number. -/
def takeMany (text : Array Char) (one : Single) (least most : Nat) (goOn : Nat → Rest) : Rest := fun p t =>
  if text.size < p + least then (false, t)
  else
    let n := countFrom text one.takes (min most (text.size - p)) p
    let t := t.moveTo (if one.moves then p + n else p)
    if n < least then (false, t) else goOn n (p + n) t

/-- A repetition of one character. -/
def repeatSingle (text : Array Char) (inside : Bool) (next : Lead) (manner : Manner) (least : Nat)
    (most : Option Nat) (one : Single) (rest : Rest) : Rest :=
  let bound := most.getD text.size
  match manner with
  | .greedy => takeMany text one least bound fun n p t => fromLast text inside next rest t.marks (n - least) p t
  | .lazy => takeMany text one least least fun _ p t =>
      fromFirst text inside one rest t.marks (bound - least + 1) p t
  | .possessive => takeMany text one least bound fun _ => rest

/-- A number of turns that all have to be taken. -/
def turns (turn : Rest → Rest) (rest : Rest) : Nat → Rest
  | 0, p, t => rest p t
  | n + 1, p, t => (turn (turns turn rest n) p (t.moveTo p)).backTo p

/-- Whether another turn may be tried: the bound is not reached, and the last turn tried did not begin here. -/
def mayTurn (most last : Option Nat) (p : Nat) : Bool :=
  most != some 0 && last != some p

/-- Further turns, as many as possible first. -/
def manyTurns (turn : Rest → Rest) (rest : Rest) : Nat → Option Nat → Option Nat → Rest
  | 0, _, _, p, t => (rest p (t.moveTo p)).backTo p
  | fuel + 1, most, last, p, t =>
    if mayTurn most last p then
      (turn (manyTurns turn rest fuel (most.map (· - 1)) (some p)) p (t.moveTo p)).orElse fun _ =>
        (rest p (t.moveTo p)).backTo p
    else (rest p (t.moveTo p)).backTo p

/-- Further turns, as few as possible first. -/
def fewTurns (inside : Bool) (turn : Rest → Rest) (rest : Rest) : Nat → Option Nat → Option Nat → Rest
  | 0, _, _, p, t => (rest p (t.moveTo p)).backTo p
  | fuel + 1, most, last, p, t =>
    (rest p (t.moveTo p)).orElse fun after =>
      let t := (after.undo inside t.marks).moveTo p
      if mayTurn most last p then
        (turn (fewTurns inside turn rest fuel (most.map (· - 1)) (some p)) p t).backTo p
      else (false, t)

/-- A number of turns that all have to be taken, each the first way that it can be taken. -/
def firmly (turn : Trail → Outcome) : Nat → Trail → Outcome
  | 0, t => (true, t)
  | n + 1, t =>
    let r := turn t
    if r.1 then firmly turn n r.2 else r

/-- Further turns, each taken the first way that it can be taken and never again. A turn that fails does not give
back the place that it has reached. -/
def firmTurns (turn : Trail → Outcome) : Nat → Option Nat → Option Nat → Trail → Trail
  | 0, _, _, t => t
  | fuel + 1, most, last, t =>
    if mayTurn most last t.place then
      let r := turn t
      if r.1 then firmTurns turn fuel (most.map (· - 1)) (some t.place) r.2 else { r.2 with marks := t.marks }
    else t

/-- How many turns there can be beyond those that have to be taken: a repetition without a bound comes to an end
since no position is of use twice. -/
def furtherTurns (size least : Nat) (most : Option Nat) : Nat :=
  (most.map (· - least)).getD ((size + 2) * (size + 2))

/-- A repetition, given how a turn is searched for when more of the pattern follows, and how it is searched for on its own.
A repeated part that is one character is counted at once instead. -/
def repeatTurns (size : Nat) (inside : Bool) (manner : Manner) (least : Nat) (most : Option Nat)
    (turn : Rest → Rest) (alone : Trail → Outcome) (rest : Rest) : Rest :=
  let further := most.map (· - least)
  let fuel := furtherTurns size least most
  match manner with
  | .greedy => fun p t => turns turn (manyTurns turn rest fuel further none) least p (t.moveTo p)
  | .lazy => fun p t => turns turn (fewTurns inside turn rest fuel further none) least p (t.moveTo p)
  | .possessive => fun p t =>
    let r := firmly alone least (t.moveTo p)
    if r.1 then
      let t := firmTurns alone fuel further none r.2
      rest t.place t
    else (false, r.2.moveTo p)

end AccessPolicy.Pattern

import AccessPolicy.Source

namespace AccessPolicy.Source

open Text (Line)

/-- A reader: which opening of the source it reads, what it has seen of its next part, and whether it is done. -/
structure Reader where
  opening : Nat
  pending : Pending
  isDone : Bool
deriving DecidableEq, Repr

/-- A source in use: how often it has been opened, and what is left to read if it is open. All its readers share the lines
that are left. A text is always open; a file is opened anew after it has been closed, and whoever still reads the closed one
fails. -/
structure Session where
  source : Source
  openings : Nat
  remaining : Option Feed
deriving DecidableEq, Repr

/-- Reads lines up to the end of the next part. The lines that are left come last. -/
def Pending.pull (p : Pending) : List Line → Option Part × Pending × List Line
  | [] => (none, p, [])
  | line :: rest =>
    match p.step line with
    | (next, some part) => (some part, next, rest)
    | (next, none) => next.pull rest

namespace Session

/-- A source that nobody has read yet. -/
def start (s : Source) : Session :=
  match s.origin with
  | .text content => ⟨s, 0, some (.ofText content.toList)⟩
  | .path .. => ⟨s, 0, none⟩

/-- A reader of what is left. It counts lines from where it begins. -/
def reader (s : Session) : Reader := ⟨s.openings, .startingAt 0, false⟩

/-- Begins to read; a source that is closed is opened first. -/
def read (s : Session) : Except OpenFault (Session × Reader) :=
  match s.remaining with
  | some _ => .ok (s, s.reader)
  | none => s.source.feed.map fun feed =>
    let s := { s with openings := s.openings + 1, remaining := some feed }
    (s, s.reader)

/-- Closes the source. A text stays open. -/
def close (s : Session) : Session :=
  match s.source.origin with
  | .text _ => s
  | .path .. => { s with remaining := none }

/-- What a reader still has to read, unless its opening has been closed. -/
def remainingFor (s : Session) (r : Reader) : Option Feed :=
  if r.opening = s.openings then s.remaining else none

/-- What a reader makes of the end of the lines. -/
def atEnd (fault : Option Text.Utf8Fault) (pending : Pending) : Outcome :=
  match fault with
  | some fault => .failed (.encoding fault)
  | none =>
    match pending.part? with
    | some part => part.outcome
    | none => .ended

/-- The next outcome. After the end of the lines, or a failure to read them, a reader is done. -/
def next (s : Session) (r : Reader) : Outcome × Session × Reader :=
  if r.isDone then (.ended, s, r)
  else
    match s.remainingFor r with
    | none => (.failed .closed, s, { r with isDone := true })
    | some feed =>
      match r.pending.pull feed.lines with
      | (some part, pending, lines) =>
        (part.outcome, { s with remaining := some { feed with lines } }, { r with pending })
      | (none, pending, lines) =>
        (atEnd feed.fault pending, { s with remaining := some ⟨lines, none⟩ }, { r with pending, isDone := true })

/-- Reads at most the given number of items. -/
def take (s : Session) (r : Reader) : Nat → Except Trouble (List Item) × Session × Reader
  | 0 => (.ok [], s, r)
  | n + 1 =>
    match s.next r with
    | (.item i, s, r) =>
      let (rest, s, r) := s.take r n
      (rest.map (i :: ·), s, r)
    | (.failed t, s, r) => (.error t, s, r)
    | (_, s, r) => (.ok [], s, r)

/-- Reads all that is left. Each line ends at most one part, and one part may follow the last line. -/
def rest (s : Session) (r : Reader) : Except Trouble (List Item) × Session × Reader :=
  s.take r ((s.remaining.map fun feed => feed.lines.length).getD 0 + 2)

end Session

end AccessPolicy.Source

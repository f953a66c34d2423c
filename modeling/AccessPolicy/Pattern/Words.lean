import AccessPolicy.Pattern.Character
import AccessPolicy.Pattern.Width

namespace AccessPolicy.Pattern

/-- Whether an entry is kept in spans: it is no property, and it lies below the limit. -/
def Member.isMapped : Member → Bool
  | .code n => n < foldLimit
  | .range _ high => high < foldLimit
  | .property .. => false

/-- The code points below the limit that an entry covers, as spans. Where case is overlooked, each stands for the
characters that it is the same as. -/
def Member.spans (fold : Fold) : Member → List (Nat × Nat)
  | .code n => if n < foldLimit then spanOf n else []
  | .range low high =>
    if fold == .exact then if low < foldLimit then [(low, min high (foldLimit - 1))] else []
    else (List.range (min (high + 1) foldLimit - low)).flatMap fun i => spanOf (low + i)
  | .property .. => []
where
  spanOf (n : Nat) : List (Nat × Nat) :=
    if fold == .full then (Text.kin (fold.key n)).map fun k => (k, k) else [(fold.key n, fold.key n)]

/-- Spans in order with gaps between them. -/
def joinSpans (spans : List (Nat × Nat)) : List (Nat × Nat) :=
  let join := fun (joined : List (Nat × Nat)) (span : Nat × Nat) =>
    match joined with
    | last :: rest => if span.1 ≤ last.2 + 1 then (last.1, max last.2 span.2) :: rest else span :: joined
    | [] => [span]
  ((spans.mergeSort fun a b => a.1 ≤ b.1).foldl join []).reverse

/-- The word that says that the next one is a jump. The property of not being a word character has the same. -/
def jumpWord : Nat := 15

/-- The last word of an entry of a set. -/
def Member.lastWord (ascii : Bool) : Member → Nat
  | .code n => n
  | .range _ high => high
  | .property category negated => if category == .word && negated && !ascii then jumpWord else 0

/-- The part of spans that lies in a block of code points, counted from the start of the block. -/
def clip (spans : List (Nat × Nat)) (start size : Nat) : List (Nat × Nat) :=
  (spans.filter fun s => s.1 < start + size && start ≤ s.2).map fun s =>
    (max s.1 start - start, min s.2 (start + size - 1) - start)

/-- The last word of a map of spans, which tells of the last 32 code points of its last block. Blocks that are
alike are kept once. -/
def mapWord (spans : List (Nat × Nat)) (isWide : Bool) : Nat :=
  let blocks := if isWide then ((List.range 256).map fun i => clip spans (256 * i) 256).eraseDups
    else [clip spans 0 256]
  let bits := clip (blocks.getLast?.getD []) 224 32
  bits.foldl (fun word s => word + (Nat.pow 2 (s.2 + 1) - Nat.pow 2 s.1)) 0

/-- The last word of the entries of a set. Entries are laid out as a map where that takes more than two spans, and
else as spans if that is shorter than what is written. -/
def setWord (fold : Fold) (ascii : Bool) (members : List Member) : Nat :=
  let spans := joinSpans (members.flatMap (Member.spans fold))
  let others := members.filter fun m => !m.isMapped
  let last := fun (ms : List Member) => ms.getLast?.map (Member.lastWord ascii)
  let isWide := spans.any (fun s => 256 ≤ s.2) || others.any fun m => !(m matches .property ..)
  if 2 < spans.length then (last others).getD (mapWord spans isWide)
  else if fold != .exact || spans.length + others.length < members.length then
    ((last others).or (spans.getLast?.map Prod.snd)).getD 0
  else (last members).getD 0

mutual
/-- The last two words of a part, the very last one first. Operators other than the jump are written as nought. -/
def Node.lastWords : Node → List Nat
  | .char _ code | .notChar _ code => [code, 0]
  | .any _ => [0]
  | .set fold ascii _ members => [0, setWord fold ascii members]
  | .anchor _ | .choice _ => [0, 0]
  | .reference _ number => [number - 1, 0]
  | .seq parts => lastWordsOf parts
  | .group none body => body.lastWords
  | .group (some number) _ => [2 * number - 1, 0]
  | .conditional number present absent =>
    let jump := if absent matches .seq [] then present.lastWords ++ [0, number - 1]
      else absent.lastWords ++ [0, jumpWord]
    jump.take 2
  | .repetition _ _ most body => (0 :: (body.lastWords ++ [most.getD countLimit])).take 2
  | .look _ _ body | .atomic body => (0 :: (body.lastWords ++ [0])).take 2

/-- The last two words of parts in a row. -/
def lastWordsOf : List Node → List Nat
  | [] => []
  | part :: parts => (lastWordsOf parts ++ part.lastWords).take 2
end

/-- The first width that a look behind cannot have. -/
def behindLimit : Nat := Nat.pow 2 31

mutual
/-- Whether the words of a part are mistaken for something else: a condition for one with another part, or a width for
something that is no width. A condition is followed by what holds if its group has taken part and, where there is another
part for the other case, by a jump over that part: two words, the first of which says that it is a jump. So a condition
without another part is mistaken if the last word but one of its part happens to be that word. -/
def Node.isMistaken : Node → Bool
  | .seq parts | .choice parts => anyMistaken parts
  | .group _ body | .repetition _ _ _ body | .atomic body => body.isMistaken
  | .conditional _ present absent =>
    (absent matches .seq []) && present.lastWords[1]? == some jumpWord || present.isMistaken || absent.isMistaken
  | .look behind _ body => (behind.map fun w => decide (behindLimit ≤ w.least)).getD false || body.isMistaken
  | _ => false

/-- Whether the words of one of several parts are mistaken. -/
def anyMistaken : List Node → Bool
  | [] => false
  | part :: parts => part.isMistaken || anyMistaken parts
end

end AccessPolicy.Pattern

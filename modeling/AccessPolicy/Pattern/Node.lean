namespace AccessPolicy.Pattern

/-- Which case differences a part of a pattern overlooks: none, those of ASCII letters, or those of all
letters. -/
inductive Fold where
  | exact
  | ascii
  | full
deriving DecidableEq, Repr

/-- A property of characters. -/
inductive Category where
  | digit
  | space
  | word
deriving DecidableEq, Repr

/-- One entry of a set of characters. Code points are numbers, since a pattern may name ones that are no
characters. -/
inductive Member where
  | code (n : Nat)
  | range (low high : Nat)
  | property (category : Category) (negated : Bool)
deriving DecidableEq, Repr

/-- A place in the text. -/
inductive Anchor where
  | textStart
  | lineStart
  | textEnd
  | lastLineEnd
  | lineEnd
  | boundary (ascii negated : Bool)
deriving DecidableEq, Repr

/-- How many characters a part of a pattern takes: at least and at most. -/
structure Width where
  least : Nat
  most : Nat
deriving DecidableEq, Repr

/-- In what order the turns of a repetition are tried: as many as possible first, as few as possible first, or
as many as possible with no second thoughts. -/
inductive Manner where
  | greedy
  | lazy
  | possessive
deriving DecidableEq, Repr

/-- A part of a pattern. A repetition without `most` has no upper bound; a group without a number only carries
its body; what is looked for behind the current place has a width. -/
inductive Node where
  | char (fold : Fold) (code : Nat)
  | notChar (fold : Fold) (code : Nat)
  | any (lineBreaks : Bool)
  | set (fold : Fold) (ascii negated : Bool) (members : List Member)
  | anchor (place : Anchor)
  | seq (parts : List Node)
  | choice (options : List Node)
  | group (number : Option Nat) (body : Node)
  | reference (fold : Fold) (number : Nat)
  | conditional (number : Nat) (present absent : Node)
  | repetition (manner : Manner) (least : Nat) (most : Option Nat) (body : Node)
  | look (behind : Option Width) (positive : Bool) (body : Node)
  | atomic (body : Node)
deriving Inhabited, Repr

/-- A pattern as a whole, with the number of characters that it takes at least. -/
structure Form where
  body : Node
  least : Nat
deriving Repr

end AccessPolicy.Pattern

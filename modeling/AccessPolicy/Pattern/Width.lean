import AccessPolicy.Pattern.Node

namespace AccessPolicy.Pattern

/-- The count that stands for any number, which is the first one that cannot be asked for. -/
def countLimit : Nat := Nat.pow 2 32 - 1

/-- A width cut off at the largest count, and just below it for what is taken at least. -/
def Width.cut (w : Width) : Width :=
  ⟨min w.least (countLimit - 1), min w.most countLimit⟩

/-- The width of one part behind another. -/
def Width.add (v w : Width) : Width :=
  ⟨v.least + w.least, v.most + w.most⟩

/-- The width of one part or another. -/
def Width.join (v w : Width) : Width :=
  ⟨min v.least w.least, max v.most w.most⟩

/-- The width of a repeated part. -/
def Width.times (w : Width) (least : Nat) (most : Option Nat) : Width :=
  ⟨w.least * least, w.most * most.getD countLimit⟩

/-- The width of a group that is complete. -/
def groupWidth (groups : List (Option Width)) (number : Nat) : Width :=
  ((groups[number - 1]?).join).getD ⟨0, 0⟩

mutual
/-- The width of a part, given the widths of the groups. -/
def Node.width (groups : List (Option Width)) : Node → Width
  | .char .. | .notChar .. | .any _ | .set .. => ⟨1, 1⟩
  | .anchor _ | .look .. => ⟨0, 0⟩
  | .seq parts => (totalWidth groups parts).cut
  | .choice options => (widestWidth groups options).cut
  | .group _ body | .atomic body => body.width groups
  | .reference _ number => groupWidth groups number
  | .conditional _ present absent => ((present.width groups).join (absent.width groups)).cut
  | .repetition _ least most body => ((body.width groups).times least most).cut

/-- The width of several parts in a row. -/
def totalWidth (groups : List (Option Width)) : List Node → Width
  | [] => ⟨0, 0⟩
  | part :: parts => (part.width groups).add (totalWidth groups parts)

/-- The width of one of several parts. -/
def widestWidth (groups : List (Option Width)) : List Node → Width
  | [] => ⟨countLimit - 1, 0⟩
  | option :: options => (option.width groups).join (widestWidth groups options)
end

end AccessPolicy.Pattern

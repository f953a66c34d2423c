import AccessPolicy.Policy
import AccessPolicy.Source
import AccessPolicy.Source.Intake

namespace AccessPolicy

/-- What ends the making of a collection: a path that cannot be one, trouble that is not confined to one item, or
a fault of a policy that is not one of its form. -/
inductive CollectionFault where
  | path
  | trouble (t : Source.Trouble)
  | policy (fault : PolicyFault)

/-- The policies of several sources with all their rules, and what has been told about the rest. -/
structure Collection where
  sources : List Source
  policies : List Policy
  rules : RuleSet
  diagnostics : Diagnostics

namespace Collection

/-- Policies and messages, as far as a collection has come. -/
structure Progress where
  policies : List Policy
  diagnostics : Diagnostics

/-- Takes in one more outcome of a source; none if it was the last. The stream of the source and the collection count
on their own: what the stream tells goes by its ordinal, what becomes of a document by the index of the collection. -/
def Progress.take (p : Progress) (pinned : Option (List Attribute)) (source : String) (ordinal index : Nat)
    (o : Source.Outcome) : Except CollectionFault (Option Progress) :=
  match o.reception with
  | .stop => .ok none
  | .abort t => .error (.trouble t)
  | .silent => .ok (some p)
  | .told message =>
    .ok (some { p with diagnostics := p.diagnostics.add (Source.itemIdentity source ordinal) message })
  | .document d =>
    let identity := Source.itemIdentity source index
    match Policy.ofDocument d identity index pinned with
    | .ok policy => .ok (some { p with policies := p.policies ++ [policy] })
    | .error fault =>
      if fault.isFormal then .ok (some { p with diagnostics := p.diagnostics.add identity fault.message })
      else .error (.policy fault)

/-- Takes in outcomes of a source, the first of which has the given ordinal and index. -/
def Progress.takeFrom (p : Progress) (pinned : Option (List Attribute)) (source : String) (ordinal index : Nat) :
    List Source.Outcome → Except CollectionFault Progress
  | [] => .ok p
  | o :: rest => do
    match ← p.take pinned source ordinal index o with
    | some p => p.takeFrom pinned source (ordinal + 1) (index + 1) rest
    | none => return p

/-- Takes in a source. One that cannot be opened is told under its own identity. -/
def Progress.takeSource (pinned : Option (List Attribute)) (p : Progress) (s : Source) :
    Except CollectionFault Progress :=
  match s.outcomes with
  | .ok outcomes => p.takeFrom pinned s.identity 1 1 outcomes
  | .error .nullCharacter => .error .path
  | .error fault =>
    let message := "Unable to read the policy source: " ++ fault.message
    .ok { p with diagnostics := p.diagnostics.add (some s.identity) message }

/-- The collection of some sources, in the scope that the caller pins or else in those that the documents declare.
What has been told before stays. -/
def ofSources (sources : List Source) (pinned : Option (List Attribute)) (prior : Diagnostics) :
    Except CollectionFault Collection := do
  let p ← sources.foldlM (Progress.takeSource pinned) ⟨[], prior⟩
  return ⟨sources, p.policies, .merge (p.policies.map Policy.rules), p.diagnostics⟩

/-- Texts as sources, which are numbered from one. -/
def textSources (texts : List String) : List Source :=
  texts.zipIdx.map fun (text, i) => Source.ofText text ("<string:" ++ toString (i + 1) ++ ">")

/-- The collection in short. -/
def text (c : Collection) : String :=
  s!"<PolicyCollection policies={c.policies.length} rules={c.rules.size}>"

end Collection

end AccessPolicy

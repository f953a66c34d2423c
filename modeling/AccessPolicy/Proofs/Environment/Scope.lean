import AccessPolicy.Proofs.Environment.Pinning
import AccessPolicy.Proofs.Pattern.Simple
import AccessPolicy.Proofs.Policy.Soundness

namespace AccessPolicy

namespace Environment

/-- A value of which each character stands for one character when it is read as a pattern. -/
def IsSimple (value : String) : Prop := ∀ c ∈ value.toList, Pattern.isSimple c = true

/-- A value that stands for itself when it is read as a pattern. -/
def IsPlain (value : String) : Prop := IsSimple value ∧ '.' ∉ value.toList

/-- Which requests are in a scope that comes from pinned attributes. One of the attributes is the scope's own. If its
value is no pattern or a plain one, in the scope are the requests with that attribute; if the value is simple or no
pattern, those made of the pinned attributes are among them. In general the value is a pattern, and the first attribute
with the property whose value the pattern fits decides. -/
structure PinnedBy (e : Environment) (attributes : List Attribute) : Prop where
  given : ⟨e.uri, e.value⟩ ∈ attributes
  exact : e.criterion.isPattern = false ∨ IsPlain e.value →
    ∀ request, e.includes request = .ok (decide (⟨e.uri, e.value⟩ ∈ request))
  own : e.criterion.isPattern = false ∨ IsSimple e.value →
    ∀ request, attributes ⊆ request → e.includes request = .ok true
  simple : IsSimple e.value → ∀ request, e.includes request =
    .ok (request.any fun a => a.property = e.uri && Pattern.resembles e.value.toList a.value.toList)
  pattern : e.criterion.isPattern = true → ∃ p, Pattern.ofText e.value = .ok p ∧
    ∀ request, e.includes request = .ok true ↔ ∃ before a after, request = before ++ a :: after ∧
      a.property = e.uri ∧ p.fits a.value = .ok true ∧ ∀ b ∈ before, b.property = e.uri → p.fits b.value = .ok false

section Requests

variable {e : Environment}

theorem includes_cons (a : Attribute) (rest : List Attribute) :
    e.includes (a :: rest) =
      if a.property = e.uri then
        match e.criterion.accepts a.value with
        | .ok true => .ok true
        | .ok false => e.includes rest
        | .error tangle => .error tangle
      else e.includes rest := by
  rw [includes, List.anyM_cons]
  split
  · cases e.criterion.accepts a.value with
    | error tangle => rfl
    | ok accepted => cases accepted <;> rfl
  · rfl

/-- Where it can always be told whether a value is accepted, any attribute of the request may be the one. -/
theorem includes_eq {accepts : String → Bool} (tells : ∀ value, e.criterion.accepts value = .ok (accepts value))
    (request : List Attribute) :
    e.includes request = .ok (request.any fun a => a.property = e.uri && accepts a.value) := by
  induction request with
  | nil => rfl
  | cons a rest ih =>
    rw [includes_cons, List.any_cons, tells, ih]
    by_cases own : a.property = e.uri
    · cases accepts a.value <;> simp [own]
    · simp [own]

theorem includes_of_first {before after : List Attribute} {a : Attribute} (own : a.property = e.uri)
    (accepted : e.criterion.accepts a.value = .ok true)
    (refused : ∀ b ∈ before, b.property = e.uri → e.criterion.accepts b.value = .ok false) :
    e.includes (before ++ a :: after) = .ok true := by
  induction before with
  | nil => rw [List.nil_append, includes_cons, if_pos own, accepted]
  | cons b before ih =>
    obtain ⟨here, later⟩ := List.forall_mem_cons.mp refused
    rw [List.cons_append, includes_cons]
    split
    · rename_i same
      rw [here same]
      exact ih later
    · exact ih later

theorem exists_first {request : List Attribute} (included : e.includes request = .ok true) :
    ∃ before a after, request = before ++ a :: after ∧ a.property = e.uri ∧ e.criterion.accepts a.value = .ok true ∧
      ∀ b ∈ before, b.property = e.uri → e.criterion.accepts b.value = .ok false := by
  induction request with
  | nil => cases included
  | cons a rest ih =>
    have passed : (a.property = e.uri → e.criterion.accepts a.value = .ok false) → e.includes rest = .ok true →
        ∃ before b after, a :: rest = before ++ b :: after ∧ b.property = e.uri ∧
          e.criterion.accepts b.value = .ok true ∧
          ∀ b ∈ before, b.property = e.uri → e.criterion.accepts b.value = .ok false := by
      intro here later
      obtain ⟨before, b, after, rfl, own, accepted, refused⟩ := ih later
      exact ⟨a :: before, b, after, rfl, own, accepted, List.forall_mem_cons.mpr ⟨here, refused⟩⟩
    rw [includes_cons] at included
    by_cases own : a.property = e.uri
    · rw [if_pos own] at included
      cases tried : e.criterion.accepts a.value with
      | error tangle => simp [tried] at included
      | ok accepted =>
        cases accepted with
        | true => exact ⟨[], a, rest, rfl, own, tried, by simp⟩
        | false => exact passed (fun _ => tried) (by simpa [tried] using included)
    · rw [if_neg own] at included
      exact passed (fun same => absurd same own) included

end Requests

section Pinned

variable {base : String} {attributes : List Attribute} {e : Environment}

/-- A scope is made of one of the attributes that are given, and its value is a pattern whenever it can be. -/
theorem given_of_ofAttributes (made : ofAttributes base attributes = .ok e) :
    ⟨e.uri, e.value⟩ ∈ attributes ∧ (isPattern e.value = true → e.criterion.isPattern = true) := by
  obtain ⟨pairs, last, given, taken⟩ := exists_last made
  have member : last ∈ inside base attributes := by simp [given]
  obtain ⟨a, inAttributes, key, value⟩ := mem_inside.mp member
  obtain ⟨sameKey, sameBase, sameValue, pattern⟩ := ofPair_eq_ok taken
  refine ⟨?_, fun found => pattern.trans (anyPattern_eq_true_iff.mpr ⟨last, member, by rw [← sameValue]; exact found⟩)⟩
  rw [uri, sameKey, sameBase, sameValue, ← Attribute.key?_eq_some_iff.mp key, ← value]
  exact inAttributes

theorem isPattern_of_isSimple {value : String} (simple : IsSimple value) : isPattern value = true := by
  obtain ⟨p, read⟩ := Pattern.exists_ofText simple
  rw [isPattern, read]
  rfl

theorem accepts_of_literal (literal : e.criterion.isPattern = false) (value : String) :
    e.criterion.accepts value = .ok (value == e.value) := by
  obtain ⟨key, base, criterion⟩ := e
  cases criterion with
  | literal own => rfl
  | pattern p => cases literal

/-- A pattern as the value of a scope. -/
theorem exists_pattern (pattern : e.criterion.isPattern = true) : ∃ p, e.criterion = .pattern p ∧ p.source = e.value := by
  obtain ⟨key, base, criterion⟩ := e
  cases criterion with
  | literal own => cases pattern
  | pattern p => exact ⟨p, rfl, rfl⟩

theorem accepts_of_isSimple (pattern : e.criterion.isPattern = true) (simple : IsSimple e.value) (value : String) :
    e.criterion.accepts value = .ok (Pattern.resembles e.value.toList value.toList) := by
  obtain ⟨p, criterion, source⟩ := exists_pattern pattern
  rw [criterion, ← source]
  rw [← source] at simple
  exact Pattern.fits_simple simple value

theorem any_eq_mem {accepts : String → Bool} (same : ∀ value, accepts value = true ↔ value = e.value)
    (request : List Attribute) :
    (request.any fun a => a.property = e.uri && accepts a.value) = decide (⟨e.uri, e.value⟩ ∈ request) := by
  rw [Bool.eq_iff_iff, List.any_eq_true, decide_eq_true_iff]
  constructor
  · rintro ⟨⟨property, value⟩, member, found⟩
    obtain ⟨rfl, accepted⟩ : property = e.uri ∧ accepts value = true := by simpa using found
    rwa [← (same value).mp accepted]
  · intro member
    exact ⟨_, member, by simpa using (same e.value).mpr rfl⟩

/-- A scope that comes from pinned attributes has them as its own requests as far as their values allow. -/
theorem pinnedBy_of_ofAttributes (made : ofAttributes base attributes = .ok e) : e.PinnedBy attributes := by
  obtain ⟨given, pattern⟩ := given_of_ofAttributes made
  have bySimple : IsSimple e.value → ∀ value,
      e.criterion.accepts value = .ok (Pattern.resembles e.value.toList value.toList) := fun simple =>
    accepts_of_isSimple (pattern (isPattern_of_isSimple simple)) simple
  have exact : e.criterion.isPattern = false ∨ IsPlain e.value →
      ∀ request, e.includes request = .ok (decide (⟨e.uri, e.value⟩ ∈ request)) := by
    rintro (literal | ⟨simple, noStop⟩) request
    · rw [includes_eq (accepts_of_literal literal), @any_eq_mem e (· == e.value) fun _ => beq_iff_eq]
    · rw [includes_eq (bySimple simple), any_eq_mem fun value =>
        (Pattern.resembles_iff_eq noStop).trans String.toList_inj]
  refine ⟨given, exact, ?_, fun simple => includes_eq (bySimple simple), ?_⟩
  · rintro (literal | simple) request subset
    · rw [exact (Or.inl literal), decide_eq_true (subset given)]
    · rw [includes_eq (bySimple simple), List.any_eq_true.mpr ⟨_, subset given, by simp [Pattern.resembles_self]⟩]
  · intro isPattern
    obtain ⟨p, criterion, source⟩ := exists_pattern isPattern
    have fits : ∀ value, e.criterion.accepts value = p.fits value := fun value => by rw [criterion]; rfl
    refine ⟨p, by rw [← source]; exact p.ofText_source, fun request => ?_⟩
    simp only [← fits]
    constructor
    · exact exists_first
    · rintro ⟨before, a, after, rfl, own, accepted, refused⟩
      exact includes_of_first own accepted refused

end Pinned

/-- The scope of a document without one of its own is that of the pinned attributes, and all rules are in that scope. -/
theorem pinnedBy_of_resolve {attributes : List Attribute} {base : String} {d : Document} {e : Environment}
    (resolved : resolve (some attributes) base d = .ok e) :
    e.PinnedBy attributes ∧ ∀ source index p, base = Attribute.standardBase →
      Policy.ofDocument d source index (some attributes) = .ok p → ∀ r ∈ p.rules.rules, r.environment = e := by
  obtain ⟨given, exact, own, simple, pattern⟩ := pinnedBy_of_ofAttributes (resolve_pinned resolved)
  refine ⟨⟨List.mem_eraseDups.mp given, exact, ?_, simple, pattern⟩, ?_⟩
  · intro stands request subset
    exact own stands request fun a member => subset (List.mem_eraseDups.mp member)
  · rintro source index p rfl created r member
    have made := Policy.ofDocument_eq_ok_iff.mp created
    obtain ⟨_, _, _, follows⟩ := made.exists_follows member
    rw [follows.environment]
    exact Except.ok.inj (made.resolved.symm.trans resolved)

/-- A document without a scope of its own. -/
def scopeless : Document where
  description := some "d"
  scope := none
  included := some ⟨.null, .text "dev", .null⟩
  excluded := none
  rules := some ⟨[("node", [⟨.text "read", .null, ⟨none, none, none, none⟩⟩])], by decide⟩

theorem dotted_pinned :
    ∃ e, resolve (some [.ofKey "project" "ops.eu"]) Attribute.standardBase scopeless = .ok e ∧
      IsSimple e.value ∧ e.PinnedBy [.ofKey "project" "ops.eu"] ∧
      e.includes [.ofKey "project" "ops.eu"] = .ok true := by
  have passes : ((resolve (some [.ofKey "project" "ops.eu"]) Attribute.standardBase scopeless).map
      Environment.value).toOption = some "ops.eu" := by decide +kernel
  cases resolved : resolve (some [.ofKey "project" "ops.eu"]) Attribute.standardBase scopeless with
  | error fault => simp [resolved, Except.map, Except.toOption] at passes
  | ok e =>
    obtain ⟨pinned, _⟩ := pinnedBy_of_resolve resolved
    have value : e.value = "ops.eu" := by simpa [resolved, Except.map, Except.toOption] using passes
    have simple : IsSimple e.value := by
      rw [value]
      exact List.all_eq_true.mp (by decide +kernel : "ops.eu".toList.all Pattern.isSimple = true)
    exact ⟨e, rfl, simple, pinned, pinned.own (Or.inr simple) _ (List.Subset.refl _)⟩

/-- A value with a special character can be a pattern that does not fit it, but something else. -/
theorem plus_out_of_scope :
    ∃ e, resolve (some [.ofKey "project" "a+"]) Attribute.standardBase scopeless = .ok e ∧
      e.includes [.ofKey "project" "a+"] = .ok false ∧ e.includes [.ofKey "project" "aa"] = .ok true := by
  have outcome : ((resolve (some [.ofKey "project" "a+"]) Attribute.standardBase scopeless).map fun e =>
      ((e.includes [.ofKey "project" "a+"]).toOption, (e.includes [.ofKey "project" "aa"]).toOption)).toOption =
      some (some false, some true) := by decide +kernel
  cases resolved : resolve (some [.ofKey "project" "a+"]) Attribute.standardBase scopeless with
  | error fault => simp [resolved, Except.map, Except.toOption] at outcome
  | ok e =>
    cases own : e.includes [.ofKey "project" "a+"] with
    | error tangle => simp [resolved, own, Except.map, Except.toOption] at outcome
    | ok first =>
      cases other : e.includes [.ofKey "project" "aa"] with
      | error tangle => simp [resolved, other, Except.map, Except.toOption] at outcome
      | ok second =>
        obtain ⟨rfl, rfl⟩ : first = false ∧ second = true := by
          simpa [resolved, own, other, Except.map, Except.toOption] using outcome
        exact ⟨e, rfl, own, other⟩

end Environment

end AccessPolicy

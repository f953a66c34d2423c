import AccessPolicy.Policy
import AccessPolicy.Proofs.Distinct
import AccessPolicy.Proofs.Environment.Pinning

namespace AccessPolicy.Environment

/-- There is one key with one value at most. -/
def Agreed (base : String) (attributes : List Attribute) : Prop :=
  ∀ p ∈ inside base attributes, ∀ q ∈ inside base attributes, p = q

/-- There is one key with several values. -/
def Contested (base : String) (attributes : List Attribute) : Prop :=
  OneKey base attributes ∧ ¬Agreed base attributes

/-- The attributes are refused, because none of them is in the namespace or because several are. -/
def Refuses (base : String) (attributes : List Attribute) : Prop :=
  ofAttributes base attributes = .error (.noneInside base) ∨
    ofAttributes base attributes = .error (.severalInside base attributes)

/-- What a caller is told: the scope, or the wording of the fault. -/
def told : Except ScopeFault Environment → Except String Environment
  | .ok e => .ok e
  | .error fault => .error fault.message

/-- What is promised of pinned attributes. Their order is of no influence, and neither is it to give some of them again;
they come to a scope or to a fault of form; and they are refused unless there is one key with one value. -/
structure Settled (base : String) (attributes : List Attribute) : Prop where
  alike : ∀ again ⊆ attributes, ∀ others, others.Perm (attributes ++ again) →
    told (ofAttributes base others) = told (ofAttributes base attributes)
  formal : ∀ fault, ofAttributes base attributes = .error fault → (PolicyFault.scope fault).isFormal = true
  refused : (¬∃! pair, pair ∈ inside base attributes) → Refuses base attributes

theorem told_severalInside (base : String) (attributes : List Attribute) :
    told (.error (.severalInside base attributes)) =
      .error ("Context section is not valid: expected exactly one entry, but was: " ++ attributesText base attributes) :=
  rfl

theorem told_pinned (base : String) (attributes : List Attribute) :
    told (.error (.pinned base attributes)) =
      .error ("Context section should not be specified, it is already set to: " ++ attributesText base attributes) :=
  rfl

section Order

variable {base : String} {attributes others : List Attribute}

theorem Contested.congr (contested : Contested base attributes) (same : ∀ a, a ∈ others ↔ a ∈ attributes) :
    Contested base others := by
  simpa only [Contested, OneKey, Agreed, mem_inside_congr same] using contested

/-- Each of the values of one key is taken if it comes last. -/
theorem exists_perm_taken {pair : String × String} (confined : Confined base attributes)
    (oneKey : OneKey base attributes) (member : pair ∈ inside base attributes) :
    ∃ others, List.Perm others attributes ∧
      ofAttributes base others = ofPair base (anyPattern base attributes) pair := by
  obtain ⟨a, given, found⟩ := List.mem_filterMap.mp member
  obtain ⟨before, after, rfl⟩ := List.append_of_mem given
  have perm : List.Perm (before ++ after ++ [a]) (before ++ a :: after) := by
    rw [List.append_assoc]
    exact (List.perm_append_singleton a after).append_left before
  have same := fun b => @List.Perm.mem_iff _ b _ _ perm
  have last : inside base (before ++ after ++ [a]) = inside base (before ++ after) ++ [pair] := by simp [inside, found]
  have oneKey' : OneKey base (before ++ after ++ [a]) := by simpa only [OneKey, mem_inside_congr same] using oneKey
  exact ⟨_, perm, by rw [ofAttributes_last (confined.congr same) oneKey' last, anyPattern_congr same]⟩

theorem exists_taken (confined : Confined base attributes) (oneKey : OneKey base attributes)
    (some : inside base attributes ≠ []) :
    ∃ pair ∈ inside base attributes, ∃ others e, List.Perm others attributes ∧ ofAttributes base others = .ok e ∧
      e.value = pair.2 := by
  -- If some value is a pattern, the last one is taken for one as well, so only a pattern is safe there.
  obtain ⟨pair, member, may⟩ : ∃ pair ∈ inside base attributes,
      anyPattern base attributes = true → isPattern pair.2 = true := by
    by_cases pattern : ∃ pair ∈ inside base attributes, isPattern pair.2 = true
    · obtain ⟨pair, member, pattern⟩ := pattern
      exact ⟨pair, member, fun _ => pattern⟩
    · obtain ⟨pair, member⟩ := List.exists_mem_of_ne_nil _ some
      exact ⟨pair, member, fun any => absurd (anyPattern_eq_true_iff.mp any) pattern⟩
  obtain ⟨others, perm, taken⟩ := exists_perm_taken confined oneKey member
  obtain ⟨e, made⟩ := @exists_ofPair base pair _ may
  exact ⟨pair, member, others, e, perm, taken.trans made, (ofPair_eq_ok made).2.2.1⟩

/-- Where one key has several values, the order decides. -/
theorem Contested.exists_differ (contested : Contested base attributes) (confined : Confined base attributes) :
    ∃ others more, List.Perm others attributes ∧ List.Perm more attributes ∧
      told (ofAttributes base others) ≠ told (ofAttributes base more) := by
  obtain ⟨oneKey, disagree⟩ := contested
  simp only [Agreed, not_forall] at disagree
  obtain ⟨p, inP, q, inQ, different⟩ := disagree
  obtain ⟨pair, member, others, e, perm, taken, value⟩ := exists_taken confined oneKey (List.ne_nil_of_mem inP)
  obtain ⟨rival, inRival, unlike⟩ : ∃ rival ∈ inside base attributes, rival.2 ≠ pair.2 := by
    by_contra none
    push Not at none
    exact different (Prod.ext (oneKey p inP q inQ) ((none p inP).trans (none q inQ).symm))
  obtain ⟨more, perm', taken'⟩ := exists_perm_taken confined oneKey inRival
  refine ⟨others, more, perm, perm', fun same => unlike ?_⟩
  rw [taken] at same
  cases outcome : ofAttributes base more with
  | error fault => simp [outcome, told] at same
  | ok e' =>
    obtain rfl : e = e' := by simpa [outcome, told] using same
    rw [← value, (ofPair_eq_ok (taken'.symm.trans outcome)).2.2.1]

end Order

section Settling

variable {base : String} {attributes others : List Attribute}

theorem ofAttributes_agreed {pair : String × String} (confined : Confined base attributes)
    (agreed : Agreed base attributes) (member : pair ∈ inside base attributes) :
    ofAttributes base attributes = ofPair base (isPattern pair.2) pair := by
  have same : ∀ other ∈ inside base attributes, other = pair := fun other inOther => agreed other inOther pair member
  obtain ⟨pairs, last, given⟩ :=
    (List.eq_nil_or_concat' (inside base attributes)).resolve_left (List.ne_nil_of_mem member)
  obtain rfl := same last (by simp [given])
  have any : anyPattern base attributes = isPattern last.2 := by
    rw [Bool.eq_iff_iff, anyPattern_eq_true_iff]
    exact ⟨fun ⟨other, inOther, pattern⟩ => same other inOther ▸ pattern, fun pattern => ⟨last, member, pattern⟩⟩
  rw [ofAttributes_last confined (fun p inP q inQ => congrArg Prod.fst (agreed p inP q inQ)) given, any]

/-- As long as no key has several values, all that matters is which attributes are given. -/
theorem Agreed.ofAttributes_congr (agreed : Agreed base attributes) (confined : Confined base attributes)
    (same : ∀ a, a ∈ others ↔ a ∈ attributes) : ofAttributes base others = ofAttributes base attributes := by
  have members := @mem_inside_congr base _ _ same
  have agreed' : Agreed base others := by simpa only [Agreed, members] using agreed
  by_cases none : inside base attributes = []
  · have none' : inside base others = [] := by
      refine List.eq_nil_iff_forall_not_mem.mpr fun pair member => ?_
      simpa [none] using (members pair).mp member
    rw [ofAttributes_none none, ofAttributes_none none']
  · obtain ⟨pair, member⟩ := List.exists_mem_of_ne_nil _ none
    rw [ofAttributes_agreed confined agreed member,
      ofAttributes_agreed (confined.congr same) agreed' ((members pair).mpr member)]

/-- Where neither one key has several values nor all attributes agree, there are several keys. -/
theorem ofAttributes_disagreed (peaceful : ¬Contested base attributes) (disagree : ¬Agreed base attributes)
    (confined : Confined base attributes) (same : ∀ a, a ∈ others ↔ a ∈ attributes) :
    ofAttributes base others = .error (.severalInside base others) := by
  have keys : ¬OneKey base attributes := fun oneKey => peaceful ⟨oneKey, disagree⟩
  simp only [OneKey, not_forall] at keys
  obtain ⟨p, inP, q, inQ, different⟩ := keys
  have members := @mem_inside_congr base _ _ same
  exact ofAttributes_several (confined.congr same) ((members p).mpr inP) ((members q).mpr inQ) different

/-- Unless one key has several values, the order of the attributes is of no influence, and if a fault shows all of them,
it shows them sorted. -/
theorem told_perm (peaceful : ¬Contested base attributes) (confined : Confined base attributes)
    (perm : List.Perm others attributes) : told (ofAttributes base others) = told (ofAttributes base attributes) := by
  have same := fun a => @List.Perm.mem_iff _ a _ _ perm
  by_cases agreed : Agreed base attributes
  · rw [agreed.ofAttributes_congr confined same]
  · rw [ofAttributes_disagreed peaceful agreed confined same,
      ofAttributes_disagreed peaceful agreed confined fun _ => Iff.rfl]
    rw [told_severalInside, told_severalInside, attributesText_perm perm]

theorem told_perm_iff (confined : Confined base attributes) :
    (∀ others, List.Perm others attributes → told (ofAttributes base others) = told (ofAttributes base attributes)) ↔
      ¬Contested base attributes := by
  refine ⟨fun alike contested => ?_, fun peaceful others => told_perm peaceful confined⟩
  obtain ⟨others, more, perm, perm', differ⟩ := contested.exists_differ confined
  exact differ ((alike others perm).trans (alike more perm').symm)

/-- What is pinned is a set, so neither order nor repetition is of any influence, unless one key has several values. -/
theorem told_resolve_iff (confined : Confined base attributes) :
    (∀ others, (∀ a, a ∈ others ↔ a ∈ attributes) → ∀ d,
      told (resolve (some others) base d) = told (resolve (some attributes) base d)) ↔ ¬Contested base attributes := by
  have members : ∀ a, a ∈ attributes.eraseDups ↔ a ∈ attributes := fun a => List.mem_eraseDups
  have confined' := confined.congr members
  constructor
  · intro alike contested
    obtain ⟨others, more, perm, perm', differ⟩ := (contested.congr members).exists_differ confined'
    -- What is given without repetition is pinned as it stands, so its order shows.
    have pinned : ∀ list : List Attribute, list.Perm attributes.eraseDups →
        told (ofAttributes base list) = told (resolve (some attributes) base ⟨none, none, none, none, none⟩) := by
      intro list perm
      have given := fun a => (perm.mem_iff).trans (members a)
      have nodup : list.eraseDups = list := eraseDups_of_nodup (perm.nodup_iff.mpr nodup_eraseDups)
      rw [← alike list given ⟨none, none, none, none, none⟩]
      exact congrArg (fun list => told (ofAttributes base list)) nodup.symm
    exact differ ((pinned others perm).trans (pinned more perm').symm)
  · intro peaceful others same d
    have perm := eraseDups_perm same
    have peaceful' : ¬Contested base attributes.eraseDups := fun contested =>
      peaceful (contested.congr fun a => (members a).symm)
    cases declared : d.scope with
    | none => simpa [resolve, declared] using told_perm peaceful' confined' perm
    | some scope =>
      have refused : ∀ list, resolve (some list) base d = .error (.pinned base list.eraseDups) := fun list => by
        simp [resolve, declared]
      rw [refused, refused, told_pinned, told_pinned, attributesText_perm perm]

/-- Attributes that do not come down to one key with one value are refused, unless one key has several values. -/
theorem refuses_iff (confined : Confined base attributes) :
    ((¬∃! pair, pair ∈ inside base attributes) → Refuses base attributes) ↔ ¬Contested base attributes := by
  constructor
  · rintro refused ⟨oneKey, disagree⟩
    have several : ¬∃! pair, pair ∈ inside base attributes := fun ⟨pair, _, only⟩ =>
      disagree fun p inP q inQ => (only p inP).trans (only q inQ).symm
    have some : inside base attributes ≠ [] := fun none => disagree (by simp [Agreed, none])
    obtain ⟨pairs, last, given⟩ := (List.eq_nil_or_concat' (inside base attributes)).resolve_left some
    have taken := ofAttributes_last confined oneKey given
    rcases refused several with failed | failed <;>
      obtain ⟨_, _, _, unlike⟩ := fault_of_ofPair (taken.symm.trans failed) <;> cases unlike
  · intro peaceful notOne
    by_cases none : inside base attributes = []
    · exact Or.inl (ofAttributes_none none)
    · obtain ⟨pair, member⟩ := List.exists_mem_of_ne_nil _ none
      have disagree : ¬Agreed base attributes := fun agreed =>
        notOne ⟨pair, member, fun other inOther => agreed other inOther pair member⟩
      exact Or.inr (ofAttributes_disagreed peaceful disagree confined fun _ => Iff.rfl)

theorem Settled.confined (settled : Settled base attributes) : Confined base attributes := by
  by_contra escapes
  obtain ⟨pair, _, fault, _, beyond, ended⟩ := ofAttributes_escapes escapes
  have formal := settled.formal _ ended
  simp [PolicyFault.isFormal, beyond] at formal

theorem Settled.agreed (settled : Settled base attributes) : Agreed base attributes := by
  have confined := settled.confined
  have peaceful : ¬Contested base attributes :=
    (told_perm_iff confined).mp fun others perm => settled.alike [] (List.nil_subset _) others (by simpa using perm)
  by_contra disagree
  have some : attributes ≠ [] := fun none => disagree (by simp [Agreed, none, inside])
  have same : ∀ a, a ∈ attributes ++ attributes ↔ a ∈ attributes := by simp
  -- All attributes are shown, so those that are given twice are shown twice.
  have alike := settled.alike attributes (List.Subset.refl _) _ (.refl _)
  rw [ofAttributes_disagreed peaceful disagree confined same,
    ofAttributes_disagreed peaceful disagree confined fun _ => Iff.rfl, told_severalInside, told_severalInside] at alike
  exact attributesText_append_ne some some ((String.append_right_inj _).mp (Except.error.inj alike))

theorem settled_of_agreed (confined : Confined base attributes) (agreed : Agreed base attributes) :
    Settled base attributes where
  alike again subset others perm := by
    have same : ∀ a, a ∈ others ↔ a ∈ attributes := by
      intro a
      rw [perm.mem_iff, List.mem_append]
      exact or_iff_left_of_imp fun member => subset member
    rw [agreed.ofAttributes_congr confined same]
  formal fault failed := by
    by_cases none : inside base attributes = []
    · rw [ofAttributes_none none] at failed
      obtain rfl := Except.error.inj failed
      rfl
    · obtain ⟨pair, member⟩ := List.exists_mem_of_ne_nil _ none
      obtain ⟨e, made⟩ := @exists_ofPair base pair _ id
      rw [ofAttributes_agreed confined agreed member, made] at failed
      cases failed
  refused := (refuses_iff confined).mpr fun contested => contested.2 agreed

/-- The promise is kept exactly for attributes that come down to one key with one value at most, as far as their values
are within what patterns are checked for. Short of repetition in the fault about several keys, all that breaks it is one
key with several values. -/
theorem settled_iff (base : String) (attributes : List Attribute) :
    (Settled base attributes ↔ Confined base attributes ∧ Agreed base attributes) ∧
      (Confined base attributes →
        ((∀ others, List.Perm others attributes →
          told (ofAttributes base others) = told (ofAttributes base attributes)) ↔ ¬Contested base attributes) ∧
        ((∀ others, (∀ a, a ∈ others ↔ a ∈ attributes) → ∀ d,
          told (resolve (some others) base d) = told (resolve (some attributes) base d)) ↔
            ¬Contested base attributes) ∧
        (((¬∃! pair, pair ∈ inside base attributes) → Refuses base attributes) ↔ ¬Contested base attributes)) :=
  ⟨⟨fun settled => ⟨settled.confined, settled.agreed⟩, fun ⟨confined, agreed⟩ => settled_of_agreed confined agreed⟩,
    fun confined => ⟨told_perm_iff confined, told_resolve_iff confined, refuses_iff confined⟩⟩

end Settling

/-- One project twice over, by different names, is taken for the one that is named last. -/
theorem two_projects_unsettled :
    ¬Settled Attribute.standardBase [.ofKey "project" "a", .ofKey "project" "b"] := by
  intro settled
  have one : inside Attribute.standardBase [.ofKey "project" "a", .ofKey "project" "b"] =
      [("project", "a"), ("project", "b")] := by decide +kernel
  have taken : ((ofAttributes Attribute.standardBase [.ofKey "project" "a", .ofKey "project" "b"]).map
      Environment.value).toOption = some "b" := by decide +kernel
  have several : ¬∃! pair, pair ∈ inside Attribute.standardBase [.ofKey "project" "a", .ofKey "project" "b"] := by
    rintro ⟨pair, _, only⟩
    rw [one] at only
    have same := (only ("project", "a") (by decide)).trans (only ("project", "b") (by decide)).symm
    exact absurd same (by decide)
  rcases settled.refused several with refused | refused <;> simp [refused, Except.map, Except.toOption] at taken

end AccessPolicy.Environment

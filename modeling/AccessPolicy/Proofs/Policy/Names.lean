import AccessPolicy.Policy
import AccessPolicy.Proofs.Distinct

namespace AccessPolicy

namespace Value

/-- Data declares a name. -/
def Declares : Value → String → Prop
  | text s, name => name = s
  | list items, name | tuple items, name | set items, name => text name ∈ items
  | _, _ => False

/-- Data is names: there is none, there is one, or it is a collection of nothing but texts. -/
def IsNames : Value → Prop
  | null | text _ => True
  | list items | tuple items | set items => ∀ v ∈ items, ∃ s, v = text s
  | _ => False

end Value

@[simp] theorem mem_sortedNames {names : List String} {name : String} : name ∈ sortedNames names ↔ name ∈ names := by
  simp [sortedNames]

theorem nodup_sortedNames (names : List String) : (sortedNames names).Nodup :=
  (List.mergeSort_perm ..).nodup_iff.mpr nodup_eraseDups

theorem textItems_eq_ok_iff {kind : PrincipalKind} {items : List Value} {names : List String} :
    textItems kind items = .ok names ↔ items = names.map .text := by
  induction items generalizing names with
  | nil => simp [textItems, eq_comm]
  | cons v rest ih =>
    cases v with
    | text s =>
      rw [textItems]
      cases others : textItems kind rest with
      | error fault =>
        have none : ∀ names : List String, rest ≠ names.map .text := by
          intro names same
          simp [ih.mpr same] at others
        cases names <;> simp [Except.map, none]
      | ok more =>
        obtain rfl := ih.mp others
        cases names <;> simp [Except.map, List.map_inj_right]
    | _ => cases names <;> simp [textItems]

/-- Names are read from all data that is names, and they are those that the data declares. -/
theorem principalNames_eq_ok {kind : PrincipalKind} {v : Value} {names : List String}
    (read : principalNames kind v = .ok names) : v.IsNames ∧ ∀ name, name ∈ names ↔ v.Declares name := by
  cases v with
  | null =>
    obtain rfl : [] = names := by simpa [principalNames] using read
    simp [Value.IsNames, Value.Declares]
  | text s =>
    obtain rfl : [s] = names := by simpa [principalNames] using read
    simp [Value.IsNames, Value.Declares]
  | list items | tuple items | set items =>
    obtain rfl := textItems_eq_ok_iff.mp read
    simp [Value.IsNames, Value.Declares]
  | _ => simp [principalNames] at read

theorem principalNames_isNames {kind : PrincipalKind} {v : Value} (isNames : v.IsNames) :
    ∃ names, principalNames kind v = .ok names := by
  have ofItems : ∀ items : List Value, (∀ v ∈ items, ∃ s, v = .text s) → ∃ names, textItems kind items = .ok names := by
    intro items texts
    induction items with
    | nil => exact ⟨[], rfl⟩
    | cons v rest ih =>
      rw [List.forall_mem_cons] at texts
      obtain ⟨s, rfl⟩ := texts.1
      obtain ⟨names, read⟩ := ih texts.2
      exact ⟨s :: names, by rw [textItems, read]; rfl⟩
  cases v with
  | null => exact ⟨[], rfl⟩
  | text s => exact ⟨[s], rfl⟩
  | list items | tuple items | set items => exact ofItems items isNames
  | _ => exact absurd isNames (by simp [Value.IsNames])

/-- The data that a selection has for principals of a kind. -/
def Selector.part (s : Selector) : PrincipalKind → Value
  | .username => s.username
  | .group => s.group
  | .urn => s.urn

/-- The data that a document has for principals of a kind. -/
def Document.selection (d : Document) (kind : PrincipalKind) : Value :=
  (d.selector?.getD ⟨.null, .null, .null⟩).part kind

/-- All that a document selects is names, and it selects one at least. -/
def Document.SelectsNames (d : Document) : Prop :=
  (∀ kind, (d.selection kind).IsNames) ∧ ∃ kind name, (d.selection kind).Declares name

/-- The names of the principals of a kind. -/
def Principals.names (p : Principals) : PrincipalKind → List String
  | .username => p.usernames
  | .group => p.groups
  | .urn => p.urns

theorem Principals.mem_all {p : Principals} {principal : Principal} :
    principal ∈ p.all ↔ principal.name ∈ p.names principal.kind := by
  obtain ⟨kind, name⟩ := principal
  cases kind <;> simp [Principals.all, Principals.names]

theorem Principals.nodup_all {p : Principals} (nodup : ∀ kind, (p.names kind).Nodup) : p.all.Nodup := by
  have ofKind : ∀ kind, ((p.names kind).map (Principal.mk kind)).Nodup := fun kind =>
    List.pairwise_map.mpr ((nodup kind).imp fun different same => different (Principal.mk.inj same).2)
  have usernames := ofKind .username
  have groups := ofKind .group
  have urns := ofKind .urn
  simp only [Principals.names] at usernames groups urns
  simp only [Principals.all, List.nodup_append, usernames, groups, urns, List.mem_append, List.mem_map, true_and]
  constructor <;> grind

theorem Principals.length_all (p : Principals) :
    p.all.length = p.usernames.length + p.groups.length + p.urns.length := by
  simp [Principals.all, Nat.add_assoc]

theorem Document.principals_eq (d : Document) :
    d.principals =
      match principalNames .username (d.selection .username), principalNames .group (d.selection .group),
        principalNames .urn (d.selection .urn) with
      | .ok usernames, .ok groups, .ok urns =>
        if usernames.isEmpty && groups.isEmpty && urns.isEmpty then .error (.none d.isInclusive)
        else .ok ⟨sortedNames usernames, sortedNames groups, sortedNames urns⟩
      | .ok _, .ok _, .error fault | .ok _, .error fault, _ | .error fault, _, _ => .error fault := by
  unfold Document.principals Document.selection
  generalize d.selector?.getD ⟨.null, .null, .null⟩ = s
  cases usernames : principalNames .username s.username with
  | error fault => simp [Selector.part, usernames, bind, Except.bind]
  | ok us =>
    cases groups : principalNames .group s.group with
    | error fault => simp [Selector.part, usernames, groups, bind, Except.bind]
    | ok gs =>
      cases urns : principalNames .urn s.urn with
      | error fault => simp [Selector.part, usernames, groups, urns, bind, Except.bind]
      | ok rs =>
        simp only [Selector.part, usernames, groups, urns, bind, Except.bind, pure, Except.pure]
        split <;> rfl

/-- The principals of a document are the names that it selects, each once. -/
theorem Document.principals_eq_ok {d : Document} {p : Principals} (named : d.principals = .ok p) :
    d.SelectsNames ∧ ∀ kind, (p.names kind).Nodup ∧ ∀ name, name ∈ p.names kind ↔ (d.selection kind).Declares name := by
  rw [Document.principals_eq] at named
  split at named
  · rename_i usernames groups urns ofUsernames ofGroups ofUrns
    split at named
    · cases named
    · rename_i some
      obtain rfl := Except.ok.inj named
      have read : ∀ kind, (d.selection kind).IsNames ∧ ∃ names, principalNames kind (d.selection kind) = .ok names ∧
          Principals.names ⟨sortedNames usernames, sortedNames groups, sortedNames urns⟩ kind = sortedNames names := by
        intro kind
        cases kind with
        | username => exact ⟨(principalNames_eq_ok ofUsernames).1, usernames, ofUsernames, rfl⟩
        | group => exact ⟨(principalNames_eq_ok ofGroups).1, groups, ofGroups, rfl⟩
        | urn => exact ⟨(principalNames_eq_ok ofUrns).1, urns, ofUrns, rfl⟩
      have declared : ∃ kind name, (d.selection kind).Declares name := by
        have first : ∀ {kind names}, principalNames kind (d.selection kind) = .ok names → names ≠ [] →
            ∃ kind name, (d.selection kind).Declares name := by
          intro kind names ofKind nonempty
          obtain ⟨name, member⟩ := List.exists_mem_of_ne_nil names nonempty
          exact ⟨kind, name, ((principalNames_eq_ok ofKind).2 name).mp member⟩
        simp only [Bool.and_eq_true, List.isEmpty_iff, not_and] at some
        by_cases noUsernames : usernames = []
        · by_cases noGroups : groups = []
          · exact first ofUrns (some ⟨noUsernames, noGroups⟩)
          · exact first ofGroups noGroups
        · exact first ofUsernames noUsernames
      refine ⟨⟨fun kind => (read kind).1, declared⟩, fun kind => ?_⟩
      obtain ⟨_, names, ofKind, same⟩ := read kind
      rw [same]
      exact ⟨nodup_sortedNames names, fun name => by rw [mem_sortedNames, (principalNames_eq_ok ofKind).2]⟩
  all_goals cases named

/-- A document that selects names has principals. -/
theorem Document.exists_principals {d : Document} (selects : d.SelectsNames) : ∃ p, d.principals = .ok p := by
  obtain ⟨isNames, kind, name, declares⟩ := selects
  obtain ⟨usernames, ofUsernames⟩ := @principalNames_isNames .username _ (isNames .username)
  obtain ⟨groups, ofGroups⟩ := @principalNames_isNames .group _ (isNames .group)
  obtain ⟨urns, ofUrns⟩ := @principalNames_isNames .urn _ (isNames .urn)
  have some : ¬(usernames.isEmpty && groups.isEmpty && urns.isEmpty) = true := by
    simp only [Bool.and_eq_true, List.isEmpty_iff, not_and]
    rintro ⟨rfl, rfl⟩ rfl
    cases kind with
    | username => simpa using ((principalNames_eq_ok ofUsernames).2 name).mpr declares
    | group => simpa using ((principalNames_eq_ok ofGroups).2 name).mpr declares
    | urn => simpa using ((principalNames_eq_ok ofUrns).2 name).mpr declares
  exact ⟨_, by rw [Document.principals_eq, ofUsernames, ofGroups, ofUrns]; exact if_neg some⟩

theorem texts_of_find? {items : List Value} (texts : (items.find? fun item => !Document.isText item) = none) :
    ∃ names : List String, items = names.map .text := by
  induction items with
  | nil => exact ⟨[], rfl⟩
  | cons v rest ih =>
    cases v with
    | text s =>
      obtain ⟨names, rfl⟩ := ih (by simpa [Document.isText] using texts)
      exact ⟨s :: names, rfl⟩
    | _ => simp [Document.isText] at texts

/-- A set of texts is what remains of them when each stays once. -/
theorem foldl_addMember_texts (names done : List String) (nodup : done.Nodup) :
    ∃ all : List String, (names.map Value.text).foldl (fun done v => Value.addMember v done) (done.map Value.text) =
      all.map Value.text ∧ all.Nodup ∧ ∀ name, name ∈ all ↔ name ∈ done ∨ name ∈ names := by
  induction names generalizing done with
  | nil => exact ⟨done, rfl, nodup, by simp⟩
  | cons name rest ih =>
    by_cases known : name ∈ done
    · have same : Value.addMember (.text name) (done.map Value.text) = done.map Value.text := by
        simp [Value.addMember, Value.same, Value.sameAtom, known]
      obtain ⟨all, folded, allNodup, members⟩ := ih done nodup
      refine ⟨all, ?_, allNodup, fun other => ?_⟩
      · rw [List.map_cons, List.foldl_cons, same, folded]
      · rw [members, List.mem_cons]
        grind
    · have added : Value.addMember (.text name) (done.map Value.text) = (done ++ [name]).map Value.text := by
        simp [Value.addMember, Value.same, Value.sameAtom, known]
      obtain ⟨all, folded, allNodup, members⟩ := ih (done ++ [name]) (by grind)
      refine ⟨all, ?_, allNodup, fun other => ?_⟩
      · rw [List.map_cons, List.foldl_cons, added, folded]
      · simp [members, or_assoc]

/-- Actions are the names that data declares, each once. -/
def Actions.Are (actions : Actions) (v : Value) : Prop :=
  ∃ names : List String, actions = names.map .text ∧ names.Nodup ∧ ∀ name, name ∈ names ↔ v.Declares name

theorem Actions.exists_ofGrant? {part : String} {v : Value} (valid : Document.grantViolation? part v = none) :
    ∃ actions, Actions.ofGrant? v = some actions ∧ actions.Are v := by
  cases v with
  | null => exact ⟨[], rfl, [], rfl, .nil, by simp [Value.Declares]⟩
  | text s => exact ⟨[.text s], rfl, [s], rfl, by simp, by simp [Value.Declares]⟩
  | list items =>
    have texts : ∃ names : List String, items = names.map .text := by
      cases items with
      | nil => exact ⟨[], rfl⟩
      | cons v rest => exact texts_of_find? (by simpa [Document.grantViolation?] using valid)
    obtain ⟨names, rfl⟩ := texts
    have members : ∀ names : List String, Value.areMembers (names.map .text) = true := by
      intro names
      induction names with
      | nil => rfl
      | cons name rest ih => simpa [Value.areMembers, Value.isMember] using ih
    obtain ⟨all, folded, nodup, same⟩ := foldl_addMember_texts names [] .nil
    rw [List.map_nil] at folded
    refine ⟨all.map .text, ?_, all, rfl, nodup, fun name => ?_⟩
    · simp [Actions.ofGrant?, Value.members?, Value.setOf?, members, folded]
    · simp [same, Value.Declares]
  | _ => simp [Document.grantViolation?] at valid

end AccessPolicy

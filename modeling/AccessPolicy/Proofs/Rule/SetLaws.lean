import AccessPolicy.Proofs.Distinct
import AccessPolicy.Proofs.Rule.Restriction
import AccessPolicy.Proofs.Value.Equivalence

namespace AccessPolicy

namespace Rule

theorem same_symm {r t : Rule} (sound : r.IsSound) (alike : r.same t = true) : t.same r = true := by
  rw [← same_key] at alike ⊢
  exact (Value.same_symm_of_isFirm (isFirm_key sound) alike).2

theorem same_trans {r t u : Rule} (sound : r.IsSound) (first : r.same t = true) (second : t.same u = true) :
    r.same u = true := by
  rw [← same_key] at first second ⊢
  exact Value.same_trans_of_isFirm (isFirm_key sound) first second

end Rule

namespace RuleSet

variable {s t : RuleSet} {sets : List RuleSet} {rules : List Rule} {r : Rule}

/-- Whether all rules of a set are sound. -/
def IsSound (s : RuleSet) : Prop := ∀ r ∈ s.rules, r.IsSound

/-- The sets that come of sound rules by making sets of them, merging these, uniting them, and picking rules by their
type, in any sequence. -/
inductive Arises : RuleSet → Prop
  | made {rules : List Rule} (sound : ∀ r ∈ rules, r.IsSound) : Arises (ofList rules)
  | merged {sets : List RuleSet} (each : ∀ s ∈ sets, Arises s) : Arises (merge sets)
  | united {s t : RuleSet} (first : Arises s) (second : Arises t) : Arises (s.union t)
  | picked {s : RuleSet} (type : String) (whole : Arises s) : Arises (s.ofType type)

theorem isSound_insertAll (sound : s.IsSound) (others : ∀ r ∈ rules, r.IsSound) : (s.insertAll rules).IsSound :=
  fun r member => (mem_of_mem_insertAll member).elim (sound r) (others r)

theorem isSound_insert (sound : s.IsSound) (new : r.IsSound) : (s.insert r).IsSound :=
  fun t member => (mem_of_mem_insert member).elim (sound t) fun last => last ▸ new

theorem isSound_union (sound : s.IsSound) (sound' : t.IsSound) : (s.union t).IsSound :=
  isSound_insertAll sound sound'

theorem isSound_merge (sound : ∀ s ∈ sets, s.IsSound) : (merge sets).IsSound := by
  intro r member
  obtain ⟨s, inSets, inS⟩ := exists_of_mem_merge member
  exact sound s inSets r inS

theorem isSound_ofType (sound : s.IsSound) (type : String) : (s.ofType type).IsSound :=
  fun r member => sound r (List.mem_of_mem_filter member)

/-- Every operation keeps sets sound. -/
theorem isSound_of_arises (arises : s.Arises) : s.IsSound := by
  induction arises with
  | made sound => exact isSound_insertAll (by simp [IsSound, empty]) sound
  | merged _ ih => exact isSound_merge ih
  | united _ _ first second => exact isSound_union first second
  | picked type _ ih => exact isSound_ofType ih type

section Contents

theorem contains_iff : s.contains r = true ↔ ∃ kept ∈ s.rules, kept.same r = true := List.any_eq_true

theorem contains_of_mem (member : r ∈ s.rules) : s.contains r = true := contains_iff.mpr ⟨r, member, r.same_refl⟩

/-- A set has a rule also if it has one that is the same as that. -/
theorem contains_of_same {u : Rule} (sound : s.IsSound) (known : s.contains r = true) (alike : r.same u = true) :
    s.contains u = true := by
  obtain ⟨kept, member, same⟩ := contains_iff.mp known
  exact contains_iff.mpr ⟨kept, member, Rule.same_trans (sound kept member) same alike⟩

theorem contains_insert {u : Rule} (sound : s.IsSound) :
    (s.insert r).contains u = true ↔ s.contains u = true ∨ r.same u = true := by
  rw [contains, insert_rules]
  split
  · rename_i old
    exact ⟨Or.inl, fun either => either.elim id (contains_of_same sound old)⟩
  · rw [List.any_append, Bool.or_eq_true, List.any_cons, List.any_nil, Bool.or_false]
    rfl

theorem contains_insertAll {u : Rule} (sound : s.IsSound) (others : ∀ r ∈ rules, r.IsSound) :
    (s.insertAll rules).contains u = true ↔ s.contains u = true ∨ ∃ r ∈ rules, r.same u = true := by
  induction rules generalizing s with
  | nil => simp [insertAll]
  | cons first rest ih =>
    rw [List.forall_mem_cons] at others
    have later := @ih (s.insert first) (isSound_insert sound others.1) others.2
    rw [contains_insert sound, or_assoc] at later
    rw [List.exists_mem_cons_iff]
    exact later

theorem contains_union (sound : s.IsSound) (sound' : t.IsSound) :
    (s.union t).contains r = true ↔ s.contains r = true ∨ t.contains r = true := by
  rw [union, contains_insertAll sound sound', ← contains_iff]

/-- A merged set has the rules that one of its parts has. -/
theorem contains_merge (sound : ∀ s ∈ sets, s.IsSound) :
    (merge sets).contains r = true ↔ ∃ s ∈ sets, s.contains r = true := by
  have grown : ∀ s : RuleSet, s.IsSound →
      ((sets.foldl union s).contains r = true ↔ s.contains r = true ∨ ∃ t ∈ sets, t.contains r = true) := by
    induction sets with
    | nil => simp
    | cons first rest ih =>
      intro s sound'
      rw [List.forall_mem_cons] at sound
      rw [List.foldl_cons, ih sound.2 _ (isSound_union sound' sound.1), contains_union sound' sound.1, or_assoc,
        List.exists_mem_cons_iff]
  have all := grown empty (by simp [IsSound, empty])
  simpa [merge, contains_iff, empty] using all

theorem contains_ofType (type : String) :
    (s.ofType type).contains r = true ↔ s.contains r = true ∧ r.resourceType = type := by
  simp only [contains_iff, ofType, List.mem_filter, beq_iff_eq]
  constructor
  · rintro ⟨kept, ⟨member, right⟩, alike⟩
    exact ⟨⟨kept, member, alike⟩, (Rule.resourceType_eq_of_same alike).symm.trans right⟩
  · rintro ⟨⟨kept, member, alike⟩, right⟩
    exact ⟨kept, ⟨member, (Rule.resourceType_eq_of_same alike).trans right⟩, alike⟩

end Contents

section Equality

/-- No two rules of a set are the same, in whichever order they are compared. -/
theorem pairwise_apart (sound : s.IsSound) :
    s.rules.Pairwise fun r t => r.same t = false ∧ t.same r = false := by
  refine s.distinct.imp_of_mem fun {r t} inSet inSet' unlike => ⟨unlike, Bool.eq_false_iff.mpr fun alike => ?_⟩
  rw [Rule.same_symm (sound t inSet') alike] at unlike
  cases unlike

/-- No rule is the same as two rules of a set. -/
theorem pairwise_unshared (sound : s.IsSound) :
    s.rules.Pairwise fun r r' => ∀ u, r.same u = true → ¬r'.same u = true := by
  refine s.distinct.imp_of_mem fun {r r'} inSet inSet' unlike u alike alike' => ?_
  rw [Rule.same_trans (sound r inSet) alike (Rule.same_symm (sound r' inSet') alike')] at unlike
  cases unlike

theorem exists_same_of_subset (sound : t.IsSound) (part : ∀ r ∈ s.rules, t.contains r = true) :
    ∀ r ∈ s.rules, ∃ kept ∈ t.rules, r.same kept = true := by
  intro r member
  obtain ⟨kept, inT, alike⟩ := contains_iff.mp (part r member)
  exact ⟨kept, inT, Rule.same_symm (sound kept inT) alike⟩

theorem size_le_of_subset (sound : s.IsSound) (sound' : t.IsSound) (part : ∀ r ∈ s.rules, t.contains r = true) :
    s.size ≤ t.size := by
  obtain ⟨matched, rest, perm, pairs⟩ :=
    exists_matched (pairwise_unshared sound) (exists_same_of_subset sound' part)
  have all := perm.length_eq
  rw [List.length_append, ← pairs.length_eq] at all
  unfold size
  omega

/-- Sets are the same exactly if they have the same rules. -/
theorem same_iff (sound : s.IsSound) (sound' : t.IsSound) :
    s.same t = true ↔ ∀ r, s.contains r = true ↔ t.contains r = true := by
  simp only [same, Bool.and_eq_true, beq_iff_eq, List.all_eq_true]
  constructor
  · rintro ⟨sizes, part⟩ r
    obtain ⟨matched, perm, pairs⟩ :=
      exists_perm_forall₂ (pairwise_unshared sound) sizes (exists_same_of_subset sound' part)
    constructor <;> intro known <;> obtain ⟨kept, member, alike⟩ := contains_iff.mp known
    · exact contains_of_same sound' (part kept member) alike
    · obtain ⟨first, inS, same⟩ := exists_left_of_mem pairs (perm.mem_iff.mpr member)
      exact contains_iff.mpr ⟨first, inS, Rule.same_trans (sound first inS) same alike⟩
  · intro known
    have part : ∀ r ∈ s.rules, t.contains r = true := fun r member => (known r).mp (contains_of_mem member)
    have part' : ∀ r ∈ t.rules, s.contains r = true := fun r member => (known r).mpr (contains_of_mem member)
    exact ⟨Nat.le_antisymm (size_le_of_subset sound sound' part) (size_le_of_subset sound' sound part'), part⟩

end Equality

section Merging

variable {sets' : List RuleSet} {groups : List (List RuleSet)}

theorem same_self (sound : s.IsSound) : s.same s = true := (same_iff sound sound).mpr fun _ => Iff.rfl

theorem union_comm (sound : s.IsSound) (sound' : t.IsSound) : (s.union t).same (t.union s) = true := by
  refine (same_iff (isSound_union sound sound') (isSound_union sound' sound)).mpr fun r => ?_
  rw [contains_union sound sound', contains_union sound' sound, or_comm]

theorem union_assoc {u : RuleSet} (sound : s.IsSound) (sound' : t.IsSound) (sound'' : u.IsSound) :
    ((s.union t).union u).same (s.union (t.union u)) = true := by
  have left := isSound_union sound sound'
  have right := isSound_union sound' sound''
  refine (same_iff (isSound_union left sound'') (isSound_union sound right)).mpr fun r => ?_
  rw [contains_union left sound'', contains_union sound sound', contains_union sound right,
    contains_union sound' sound'', or_assoc]

theorem union_self (sound : s.IsSound) : (s.union s).same s = true := by
  refine (same_iff (isSound_union sound sound) sound).mpr fun r => ?_
  rw [contains_union sound sound, or_self]

/-- Merging two sets is uniting them. -/
theorem merge_pair (s t : RuleSet) : merge [s, t] = s.union t := by
  have first : empty.union s = s := eq_of_rules (ofList_rules s.distinct)
  exact congrArg (·.union t) first

/-- In whichever order and however often sets are merged, the whole is the same if each has one that is the same among
the others. -/
theorem merge_congr (sound : ∀ s ∈ sets, s.IsSound) (sound' : ∀ s ∈ sets', s.IsSound)
    (forth : ∀ s ∈ sets, ∃ t ∈ sets', s.same t = true) (back : ∀ t ∈ sets', ∃ s ∈ sets, s.same t = true) :
    (merge sets).same (merge sets') = true := by
  refine (same_iff (isSound_merge sound) (isSound_merge sound')).mpr fun r => ?_
  rw [contains_merge sound, contains_merge sound']
  constructor
  · rintro ⟨s, inSets, known⟩
    obtain ⟨t, inSets', alike⟩ := forth s inSets
    exact ⟨t, inSets', ((same_iff (sound s inSets) (sound' t inSets')).mp alike r).mp known⟩
  · rintro ⟨t, inSets', known⟩
    obtain ⟨s, inSets, alike⟩ := back t inSets'
    exact ⟨s, inSets, ((same_iff (sound s inSets) (sound' t inSets')).mp alike r).mpr known⟩

theorem merge_same_of_mem_iff (sound : ∀ s ∈ sets, s.IsSound) (members : ∀ s, s ∈ sets ↔ s ∈ sets') :
    (merge sets).same (merge sets') = true := by
  have sound' : ∀ s ∈ sets', s.IsSound := fun s inSets' => sound s ((members s).mpr inSets')
  exact merge_congr sound sound' (fun s inSets => ⟨s, (members s).mp inSets, same_self (sound s inSets)⟩)
    fun s inSets' => ⟨s, (members s).mpr inSets', same_self (sound' s inSets')⟩

/-- Sets can be merged group by group. -/
theorem merge_flatten (sound : ∀ sets ∈ groups, ∀ s ∈ sets, s.IsSound) :
    (merge (groups.map merge)).same (merge groups.flatten) = true := by
  have each : ∀ s ∈ groups.map merge, s.IsSound := List.forall_mem_map.mpr fun sets inGroups =>
    isSound_merge (sound sets inGroups)
  have all : ∀ s ∈ groups.flatten, s.IsSound := List.forall_mem_flatten.mpr sound
  refine (same_iff (isSound_merge each) (isSound_merge all)).mpr fun r => ?_
  rw [contains_merge each, contains_merge all]
  constructor
  · rintro ⟨_, inWholes, known⟩
    obtain ⟨sets, inGroups, rfl⟩ := List.mem_map.mp inWholes
    obtain ⟨s, inSets, known⟩ := (contains_merge (sound sets inGroups)).mp known
    exact ⟨s, List.mem_flatten_of_mem inGroups inSets, known⟩
  · rintro ⟨s, inAll, known⟩
    obtain ⟨sets, inGroups, inSets⟩ := List.mem_flatten.mp inAll
    exact ⟨merge sets, List.mem_map_of_mem inGroups, (contains_merge (sound sets inGroups)).mpr ⟨s, inSets, known⟩⟩

theorem ofType_merge (sound : ∀ s ∈ sets, s.IsSound) (type : String) :
    ((merge sets).ofType type).same (merge (sets.map fun s => s.ofType type)) = true := by
  have each : ∀ s ∈ sets.map fun s => s.ofType type, s.IsSound := List.forall_mem_map.mpr fun s inSets =>
    isSound_ofType (sound s inSets) type
  refine (same_iff (isSound_ofType (isSound_merge sound) type) (isSound_merge each)).mpr fun r => ?_
  rw [contains_ofType, contains_merge sound, contains_merge each]
  simp [contains_ofType, ← and_assoc]

theorem ofType_congr (sound : s.IsSound) (sound' : t.IsSound) (alike : s.same t = true) (type : String) :
    (s.ofType type).same (t.ofType type) = true := by
  refine (same_iff (isSound_ofType sound type) (isSound_ofType sound' type)).mpr fun r => ?_
  rw [contains_ofType, contains_ofType, (same_iff sound sound').mp alike r]

end Merging

section Types

/-- The types of the rules of a set, each once. -/
def types (s : RuleSet) : List String := (s.rules.map Rule.resourceType).eraseDups

/-- Each rule is of one type. -/
theorem sum_size_ofType (s : RuleSet) :
    (s.types.map fun type => (s.ofType type).size).foldr (· + ·) 0 = s.size :=
  sum_filter_length_eraseDups Rule.resourceType s.rules

end Types

variable {Hash : Type}

/-- The laws of the sets of a family: of which rules and sets are the same, of what merging and uniting come to, and of
picking rules by their type. -/
structure SetLaws (h : Hashing Hash) (Known : RuleSet → Prop) : Prop where
  rulesAlike : Equivalence fun r t : {r : Rule // r.IsSound} => r.1.same t.1 = true
  hashAlike : ∀ r t : Rule, r.IsSound → r.same t = true → ∃ n, r.hash? h = some n ∧ t.hash? h = some n
  typeAlike : ∀ r t : Rule, r.same t = true → r.resourceType = t.resourceType
  setsAlike : Equivalence fun s t : {s : RuleSet // Known s} => s.1.same t.1 = true
  distinct : ∀ s, Known s → s.rules.Pairwise fun r t => r.same t = false ∧ t.same r = false
  mergeContains : ∀ sets, (∀ s ∈ sets, Known s) → ∀ r,
    (merge sets).contains r = true ↔ ∃ s ∈ sets, ∃ kept ∈ s.rules, kept.same r = true
  mergeComm : ∀ sets sets', (∀ s ∈ sets, Known s) → sets.Perm sets' → (merge sets).same (merge sets') = true
  mergeAssoc : ∀ groups : List (List RuleSet), (∀ sets ∈ groups, ∀ s ∈ sets, Known s) →
    (merge (groups.map merge)).same (merge groups.flatten) = true
  mergeIdem : ∀ sets, (∀ s ∈ sets, Known s) → (merge (sets ++ sets)).same (merge sets) = true
  mergeCongr : ∀ sets sets', (∀ s ∈ sets, Known s) → (∀ s ∈ sets', Known s) →
    (∀ s ∈ sets, ∃ t ∈ sets', s.same t = true) → (∀ t ∈ sets', ∃ s ∈ sets, s.same t = true) →
    (merge sets).same (merge sets') = true
  unionMerge : ∀ s t : RuleSet, s.union t = merge [s, t]
  unionComm : ∀ s t, Known s → Known t → (s.union t).same (t.union s) = true
  unionAssoc : ∀ s t u, Known s → Known t → Known u → ((s.union t).union u).same (s.union (t.union u)) = true
  unionIdem : ∀ s, Known s → (s.union s).same s = true
  typeCongr : ∀ s t, Known s → Known t → s.same t = true → ∀ type, (s.ofType type).same (t.ofType type) = true
  typeMerge : ∀ sets, (∀ s ∈ sets, Known s) → ∀ type,
    ((merge sets).ofType type).same (merge (sets.map fun s => s.ofType type)) = true
  typeUnion : ∀ s t, Known s → Known t → ∀ type,
    ((s.union t).ofType type).same ((s.ofType type).union (t.ofType type)) = true
  typeSizes : ∀ s, Known s → (s.types.map fun type => (s.ofType type).size).foldr (· + ·) 0 = s.size

theorem setLaws_of_sound {h : Hashing Hash} {Known : RuleSet → Prop} (sound : ∀ s, Known s → s.IsSound) :
    SetLaws h Known where
  rulesAlike :=
    ⟨fun r => r.1.same_refl, fun {r _} => Rule.same_symm r.2, fun {r _ _} => Rule.same_trans r.2⟩
  hashAlike _ _ := Rule.hash_of_same h
  typeAlike _ _ := Rule.resourceType_eq_of_same
  setsAlike := by
    refine ⟨fun s => same_self (sound s.1 s.2), fun {s t} => ?_, fun {s t u} => ?_⟩
    · rw [same_iff (sound s.1 s.2) (sound t.1 t.2), same_iff (sound t.1 t.2) (sound s.1 s.2)]
      exact fun alike r => (alike r).symm
    · rw [same_iff (sound s.1 s.2) (sound t.1 t.2), same_iff (sound t.1 t.2) (sound u.1 u.2),
        same_iff (sound s.1 s.2) (sound u.1 u.2)]
      exact fun first second r => (first r).trans (second r)
  distinct s known := pairwise_apart (sound s known)
  mergeContains sets known r := by simp only [contains_merge fun s inSets => sound s (known s inSets), contains_iff]
  mergeComm sets sets' known perm :=
    merge_same_of_mem_iff (fun s inSets => sound s (known s inSets)) fun s => perm.mem_iff
  mergeAssoc groups known := merge_flatten fun sets inGroups s inSets => sound s (known sets inGroups s inSets)
  mergeIdem sets known := by
    refine merge_same_of_mem_iff (fun s inSets => sound s (known s ?_)) fun s => ?_
    · simpa using inSets
    · simp
  mergeCongr sets sets' known known' :=
    merge_congr (fun s inSets => sound s (known s inSets)) fun s inSets => sound s (known' s inSets)
  unionMerge s t := (merge_pair s t).symm
  unionComm s t known known' := union_comm (sound s known) (sound t known')
  unionAssoc s t u known known' known'' := union_assoc (sound s known) (sound t known') (sound u known'')
  unionIdem s known := union_self (sound s known)
  typeCongr s t known known' alike := ofType_congr (sound s known) (sound t known') alike
  typeMerge sets known := ofType_merge fun s inSets => sound s (known s inSets)
  typeUnion s t known known' type := by
    have both := @ofType_merge [s, t] (by simp [sound s known, sound t known']) type
    rwa [merge_pair, List.map_cons, List.map_singleton, merge_pair] at both
  typeSizes s _ := sum_size_ofType s

/-- The laws of sets hold of all sets that come of sound rules by making sets of them, merging these, uniting them, and
picking rules by their type. -/
theorem setLaws_of_arises (h : Hashing Hash) : SetLaws h Arises := setLaws_of_sound fun _ => isSound_of_arises

-- rules whose matchers have their entries and members in another order are one rule
example : ((ofList [listedRule]).union (ofList [permutedRule])).size = 1 := by decide +kernel

end RuleSet

end AccessPolicy

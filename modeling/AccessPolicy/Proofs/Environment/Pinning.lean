import AccessPolicy.Proofs.Attribute
import AccessPolicy.Proofs.Environment.Origin
import Mathlib.Data.List.Basic

namespace AccessPolicy.Environment

/-- The keys and the values of the attributes in a namespace. -/
def inside (base : String) (attributes : List Attribute) : List (String × String) :=
  attributes.filterMap fun a => (a.key? base).map fun key => (key, a.value)

/-- Whether a text is a pattern. -/
def isPattern (value : String) : Bool := (Pattern.ofText value).toBool

/-- Whether some value in the namespace is a pattern. -/
def anyPattern (base : String) (attributes : List Attribute) : Bool :=
  (inside base attributes).any fun pair => isPattern pair.2

/-- No value in the namespace is beyond what patterns are checked for. -/
def Confined (base : String) (attributes : List Attribute) : Prop :=
  ∀ pair ∈ inside base attributes, ∀ fault, Pattern.ofText pair.2 = .error fault → fault.isFormal = true

/-- There is one key at most. -/
def OneKey (base : String) (attributes : List Attribute) : Prop :=
  ∀ p ∈ inside base attributes, ∀ q ∈ inside base attributes, p.1 = q.1

/-- The scope that a key and a value stand for, the value being taken for a pattern or not. -/
def ofPair (base : String) (pattern : Bool) (pair : String × String) : Except ScopeFault Environment :=
  if pattern then ofPattern pair.1 pair.2 base else .ok (ofLiteral pair.1 pair.2 base)

section Pairs

variable {base : String} {attributes others : List Attribute} {pair : String × String}

theorem mem_inside :
    pair ∈ inside base attributes ↔ ∃ a ∈ attributes, a.key? base = some pair.1 ∧ a.value = pair.2 := by
  obtain ⟨key, value⟩ := pair
  simp [inside, List.mem_filterMap]

/-- What is in the namespace is a matter of which attributes are given. -/
theorem mem_inside_congr (same : ∀ a, a ∈ others ↔ a ∈ attributes) (pair : String × String) :
    pair ∈ inside base others ↔ pair ∈ inside base attributes := by
  simp only [mem_inside, same]

theorem Confined.congr (confined : Confined base attributes) (same : ∀ a, a ∈ others ↔ a ∈ attributes) :
    Confined base others :=
  fun pair member => confined pair ((mem_inside_congr same pair).mp member)

theorem anyPattern_eq_true_iff :
    anyPattern base attributes = true ↔ ∃ pair ∈ inside base attributes, isPattern pair.2 = true :=
  List.any_eq_true

theorem anyPattern_congr (same : ∀ a, a ∈ others ↔ a ∈ attributes) :
    anyPattern base others = anyPattern base attributes := by
  rw [Bool.eq_iff_iff, anyPattern_eq_true_iff, anyPattern_eq_true_iff]
  simp only [mem_inside_congr same]

theorem ofPair_eq_ok {pattern : Bool} {e : Environment} (made : ofPair base pattern pair = .ok e) :
    e.key = pair.1 ∧ e.base = base ∧ e.value = pair.2 ∧ e.criterion.isPattern = pattern := by
  unfold ofPair at made
  cases pattern with
  | true => exact ofPattern_eq_ok made
  | false =>
    obtain rfl := Except.ok.inj made
    exact ⟨rfl, rfl, rfl, rfl⟩

theorem exists_ofPair {pattern : Bool} (may : pattern = true → isPattern pair.2 = true) :
    ∃ e, ofPair base pattern pair = .ok e := by
  cases pattern with
  | false => exact ⟨_, rfl⟩
  | true =>
    cases read : Pattern.ofText pair.2 with
    | error fault => simp [isPattern, read, Except.toBool] at may
    | ok form => exact ⟨⟨pair.1, base, .pattern form⟩, by simp [ofPair, ofPattern, read]⟩

theorem fault_of_ofPair {pattern : Bool} {fault : ScopeFault} (failed : ofPair base pattern pair = .error fault) :
    ∃ key value found, fault = .pattern key value found := by
  unfold ofPair ofPattern at failed
  split at failed
  · split at failed
    · cases failed
    · exact ⟨_, _, _, (Except.error.inj failed).symm⟩
  · cases failed

end Pairs

section Keys

theorem mem_keys_setKey {key value k : String} {values : List (String × String)} :
    k ∈ (setKey key value values).map Prod.fst ↔ k = key ∨ k ∈ values.map Prod.fst := by
  induction values with
  | nil => simp [setKey]
  | cons first rest ih =>
    obtain ⟨k', v⟩ := first
    unfold setKey
    split
    · rename_i same
      simp [same]
    · rw [List.map_cons, List.mem_cons, ih, List.map_cons, List.mem_cons]
      exact or_left_comm

/-- Sets the keys of several pairs one after another. -/
def setKeys (values pairs : List (String × String)) : List (String × String) :=
  pairs.foldl (fun values pair => setKey pair.1 pair.2 values) values

theorem mem_keys_setKeys {k : String} {values pairs : List (String × String)} :
    k ∈ (setKeys values pairs).map Prod.fst ↔ k ∈ values.map Prod.fst ∨ k ∈ pairs.map Prod.fst := by
  induction pairs generalizing values with
  | nil => simp [setKeys]
  | cons pair rest ih =>
    have step : setKeys values (pair :: rest) = setKeys (setKey pair.1 pair.2 values) rest := rfl
    rw [step, ih, mem_keys_setKey, List.map_cons, List.mem_cons]
    exact or_assoc.trans or_left_comm

/-- Of pairs with one key the last one stays. -/
theorem setKeys_same {key value : String} {pairs : List (String × String)} (same : ∀ pair ∈ pairs, pair.1 = key) :
    setKeys [] (pairs ++ [(key, value)]) = [(key, value)] := by
  have one : ∀ pairs : List (String × String), (∀ pair ∈ pairs, pair.1 = key) → ∀ v,
      ∃ w, setKeys [(key, v)] pairs = [(key, w)] := by
    clear same
    intro pairs same
    induction pairs with
    | nil => exact fun v => ⟨v, rfl⟩
    | cons pair rest ih =>
      intro v
      obtain ⟨first, later⟩ := List.forall_mem_cons.mp same
      have step : setKeys [(key, v)] (pair :: rest) = setKeys [(key, pair.2)] rest := by simp [setKeys, setKey, first]
      rw [step]
      exact ih later pair.2
  have last : setKeys [] (pairs ++ [(key, value)]) = setKey key value (setKeys [] pairs) := by
    simp [setKeys]
  rw [last]
  cases pairs with
  | nil => rfl
  | cons pair rest =>
    obtain ⟨first, later⟩ := List.forall_mem_cons.mp same
    obtain ⟨w, kept⟩ := one rest later pair.2
    have begun : setKeys [] (pair :: rest) = setKeys [(key, pair.2)] rest := by simp [setKeys, setKey, first]
    rw [begun, kept]
    simp [setKey]

end Keys

section Taking

variable {base : String} {attributes : List Attribute}

/-- Takes a key with a value into account. -/
def Pins.put (pins : Pins) (pair : String × String) : Except ScopeFault Pins :=
  match Pattern.ofText pair.2 with
  | .ok _ => .ok ⟨setKey pair.1 pair.2 pins.values, pair.1 :: pins.patterns⟩
  | .error fault =>
    if fault.isFormal then .ok ⟨setKey pair.1 pair.2 pins.values, pins.patterns⟩
    else .error (.pattern pair.1 pair.2 fault)

/-- Only what is in the namespace counts. -/
theorem foldlM_add (pins : Pins) :
    attributes.foldlM (Pins.add base) pins = (inside base attributes).foldlM Pins.put pins := by
  induction attributes generalizing pins with
  | nil => rfl
  | cons a rest ih =>
    rw [List.foldlM_cons]
    cases key : a.key? base with
    | none =>
      have skipped : Pins.add base pins a = .ok pins := by rw [Pins.add, key]
      have others : inside base (a :: rest) = inside base rest := by simp [inside, key]
      rw [skipped, others, ← ih]
      rfl
    | some key' =>
      have taken : Pins.add base pins a = pins.put (key', a.value) := by rw [Pins.add, key]; rfl
      have first : inside base (a :: rest) = (key', a.value) :: inside base rest := by simp [inside, key]
      rw [taken, first, List.foldlM_cons]
      exact congrArg _ (funext ih)

theorem foldlM_put {pairs : List (String × String)}
    (confined : ∀ pair ∈ pairs, ∀ fault, Pattern.ofText pair.2 = .error fault → fault.isFormal = true) (pins : Pins) :
    ∃ patterns, pairs.foldlM Pins.put pins = .ok ⟨setKeys pins.values pairs, patterns⟩ ∧
      ∀ key, key ∈ patterns ↔ key ∈ pins.patterns ∨ ∃ pair ∈ pairs, pair.1 = key ∧ isPattern pair.2 = true := by
  induction pairs generalizing pins with
  | nil => exact ⟨pins.patterns, rfl, by simp⟩
  | cons pair rest ih =>
    obtain ⟨first, later⟩ := List.forall_mem_cons.mp confined
    rw [List.foldlM_cons]
    cases read : Pattern.ofText pair.2 with
    | ok p =>
      obtain ⟨patterns, taken, members⟩ := ih later ⟨setKey pair.1 pair.2 pins.values, pair.1 :: pins.patterns⟩
      have put : pins.put pair = .ok ⟨setKey pair.1 pair.2 pins.values, pair.1 :: pins.patterns⟩ := by
        rw [Pins.put, read]
      have pattern : isPattern pair.2 = true := by rw [isPattern, read]; rfl
      refine ⟨patterns, by rw [put]; exact taken, fun key => ?_⟩
      simp only [members, List.mem_cons, exists_eq_or_imp, pattern, and_true, @eq_comm _ key]
      exact or_assoc.trans or_left_comm
    | error fault =>
      obtain ⟨patterns, taken, members⟩ := ih later ⟨setKey pair.1 pair.2 pins.values, pins.patterns⟩
      have put : pins.put pair = .ok ⟨setKey pair.1 pair.2 pins.values, pins.patterns⟩ := by
        rw [Pins.put, read]
        simp [first fault read]
      have literal : isPattern pair.2 = false := by rw [isPattern, read]; rfl
      refine ⟨patterns, by rw [put]; exact taken, fun key => ?_⟩
      simp [members, literal]

/-- The first value that is beyond what patterns are checked for is the fault. -/
theorem foldlM_put_escapes {pairs : List (String × String)}
    (escapes : ∃ pair ∈ pairs, ∃ fault, Pattern.ofText pair.2 = .error fault ∧ fault.isFormal = false) (pins : Pins) :
    ∃ pair ∈ pairs, ∃ fault, Pattern.ofText pair.2 = .error fault ∧ fault.isFormal = false ∧
      pairs.foldlM Pins.put pins = .error (.pattern pair.1 pair.2 fault) := by
  obtain ⟨pair, member, fault, read, beyond⟩ := escapes
  induction pairs generalizing pins with
  | nil => cases member
  | cons first rest ih =>
    rw [List.foldlM_cons]
    cases put : pins.put first with
    | ok next =>
      have inRest : pair ∈ rest := by
        rcases List.mem_cons.mp member with rfl | inRest
        · simp [Pins.put, read, beyond] at put
        · exact inRest
      obtain ⟨other, inRest, found⟩ := ih next inRest
      exact ⟨other, List.mem_cons_of_mem first inRest, found⟩
    | error found =>
      unfold Pins.put at put
      split at put
      · cases put
      · rename_i found read
        split at put
        · cases put
        · rename_i beyond
          obtain rfl := Except.error.inj put
          exact ⟨first, List.mem_cons_self .., found, read, by simpa using beyond, rfl⟩

end Taking

section Outcomes

variable {base : String} {attributes : List Attribute} {p q : String × String}

theorem ofAttributes_eq (attributes : List Attribute) :
    ofAttributes base attributes =
      ((inside base attributes).foldlM Pins.put ⟨[], []⟩).bind fun pins =>
        match pins.values with
        | [] => .error (.noneInside base)
        | [(key, value)] => ofPair base (pins.patterns.contains key) (key, value)
        | _ => .error (.severalInside base attributes) := by
  rw [← foldlM_add]
  rfl

theorem ofAttributes_escapes (escapes : ¬Confined base attributes) :
    ∃ pair ∈ inside base attributes, ∃ fault, Pattern.ofText pair.2 = .error fault ∧ fault.isFormal = false ∧
      ofAttributes base attributes = .error (.pattern pair.1 pair.2 fault) := by
  simp only [Confined, not_forall, Bool.not_eq_true] at escapes
  obtain ⟨pair, member, fault, read, beyond⟩ := escapes
  obtain ⟨pair, member, fault, read, beyond, ended⟩ := foldlM_put_escapes ⟨pair, member, fault, read, beyond⟩ ⟨[], []⟩
  exact ⟨pair, member, fault, read, beyond, by rw [ofAttributes_eq, ended]; rfl⟩

theorem ofAttributes_none (none : inside base attributes = []) :
    ofAttributes base attributes = .error (.noneInside base) := by
  rw [ofAttributes_eq, none]
  rfl

theorem ofAttributes_several (confined : Confined base attributes) (inP : p ∈ inside base attributes)
    (inQ : q ∈ inside base attributes) (different : p.1 ≠ q.1) :
    ofAttributes base attributes = .error (.severalInside base attributes) := by
  obtain ⟨patterns, taken, _⟩ := foldlM_put confined ⟨[], []⟩
  have keys : ∀ pair ∈ inside base attributes, pair.1 ∈ (setKeys [] (inside base attributes)).map Prod.fst :=
    fun pair member => mem_keys_setKeys.mpr (Or.inr (List.mem_map_of_mem member))
  have hasP := keys p inP
  have hasQ := keys q inQ
  rw [ofAttributes_eq, taken]
  simp only [Except.bind]
  split
  · rename_i none
    simp [none] at hasP
  · rename_i one
    simp only [one, List.map_cons, List.map_nil, List.mem_singleton] at hasP hasQ
    exact absurd (hasP.trans hasQ.symm) different
  · rfl

/-- Of the values of one key the last one is taken. It is a pattern if any of them is. -/
theorem ofAttributes_last {pairs : List (String × String)} (confined : Confined base attributes)
    (oneKey : OneKey base attributes) (given : inside base attributes = pairs ++ [p]) :
    ofAttributes base attributes = ofPair base (anyPattern base attributes) p := by
  obtain ⟨patterns, taken, members⟩ := foldlM_put confined ⟨[], []⟩
  have everywhere : ∀ pair ∈ inside base attributes, pair.1 = p.1 := fun pair member =>
    oneKey pair member p (by rw [given]; exact List.mem_append_right pairs (List.mem_singleton_self p))
  have known : patterns.contains p.1 = anyPattern base attributes := by
    rw [Bool.eq_iff_iff, List.contains_iff_mem, members, anyPattern_eq_true_iff]
    grind
  have values : setKeys [] (inside base attributes) = [p] := by
    rw [given]
    exact setKeys_same fun pair earlier => everywhere pair (by rw [given]; exact List.mem_append_left [p] earlier)
  rw [ofAttributes_eq, taken]
  simp only [Except.bind, values]
  rw [known]

theorem confined_of_ofAttributes {e : Environment} (made : ofAttributes base attributes = .ok e) :
    Confined base attributes := by
  by_contra escapes
  obtain ⟨_, _, _, _, _, failed⟩ := ofAttributes_escapes escapes
  simp [failed] at made

theorem oneKey_of_ofAttributes {e : Environment} (made : ofAttributes base attributes = .ok e) :
    OneKey base attributes := by
  intro p inP q inQ
  by_contra different
  simp [ofAttributes_several (confined_of_ofAttributes made) inP inQ different] at made

/-- Attributes that come to a scope have one key, and the value that comes last counts. -/
theorem exists_last {e : Environment} (made : ofAttributes base attributes = .ok e) :
    ∃ pairs last, inside base attributes = pairs ++ [last] ∧
      ofPair base (anyPattern base attributes) last = .ok e := by
  have some : inside base attributes ≠ [] := fun none => by simp [ofAttributes_none none] at made
  obtain ⟨pairs, last, given⟩ := (List.eq_nil_or_concat' (inside base attributes)).resolve_left some
  have taken := ofAttributes_last (confined_of_ofAttributes made) (oneKey_of_ofAttributes made) given
  exact ⟨pairs, last, given, taken.symm.trans made⟩

end Outcomes

end AccessPolicy.Environment

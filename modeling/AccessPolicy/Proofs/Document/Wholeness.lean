import AccessPolicy.Proofs.Policy.Articles
import AccessPolicy.Proofs.Rule.Building
import AccessPolicy.Proofs.Yaml.Loading

namespace AccessPolicy.Value

theorem fst_of_mem_putEntry {α : Type} {key : Value} {value : α} {entries : List (Value × α)} {e : Value × α}
    (member : e ∈ putEntry key value entries) : e.1 = key ∨ ∃ f ∈ entries, f.1 = e.1 := by
  induction entries with
  | nil => exact Or.inl (by rw [List.mem_singleton.mp member])
  | cons first rest ih =>
    rw [putEntry] at member
    split at member
    · rcases List.mem_cons.mp member with rfl | inRest
      · exact Or.inr ⟨first, List.mem_cons_self .., rfl⟩
      · exact Or.inr ⟨e, List.mem_cons_of_mem _ inRest, rfl⟩
    · rcases List.mem_cons.mp member with rfl | later
      · exact Or.inr ⟨_, List.mem_cons_self .., rfl⟩
      · rcases ih later with new | ⟨f, inRest, same⟩
        · exact Or.inl new
        · exact Or.inr ⟨f, List.mem_cons_of_mem _ inRest, same⟩

/-- To give a key a value leaves the keys pairwise different. -/
theorem pairwise_putEntry {α : Type} {key : Value} (isKey : key.IsKey) (value : α) {entries : List (Value × α)}
    (keys : ∀ e ∈ entries, e.1.IsKey) (apart : entries.Pairwise fun e f => e.1.same f.1 = false) :
    (putEntry key value entries).Pairwise fun e f => e.1.same f.1 = false := by
  induction entries with
  | nil => exact List.pairwise_singleton ..
  | cons first rest ih =>
    obtain ⟨before, later⟩ := List.pairwise_cons.mp apart
    rw [List.forall_mem_cons] at keys
    rw [putEntry]
    split
    · exact .cons before later
    · rename_i different
      refine .cons (fun e member => ?_) (ih keys.2 later)
      obtain ⟨i, atom⟩ := exists_identity_of_isKey keys.1
      obtain ⟨j, atom'⟩ := exists_identity_of_isKey isKey
      rcases fst_of_mem_putEntry member with new | ⟨f, inRest, same⟩
      · rw [new, same_comm_of_isFirm (isFirm_of_atom atom) (isFirm_of_atom atom')]
        exact Bool.eq_false_iff.mpr different
      · rw [← same]
        exact before f inRest

end AccessPolicy.Value

namespace AccessPolicy.Yaml

namespace Atom

variable {s : List Char}

theorem meets_readDecimal : Meets Binary64.IsRounded (fun _ => True) (readDecimal s) := by
  unfold readDecimal
  split
  · rename_i read
    exact Binary64.isRounded_of_readFloat read
  · trivial

theorem meets_sumSixtieths (place : Nat) {total : Binary64} (parts : List Binary64) (rounded : total.IsRounded) :
    Meets Binary64.IsRounded (fun _ => True) (sumSixtieths place total parts) := by
  induction parts generalizing place total with
  | nil => exact rounded
  | cons part rest ih =>
    rw [sumSixtieths]
    split
    · trivial
    · exact ih _ (Binary64.isRounded_add ..)

theorem meets_decimal : Meets Value.IsKey (fun _ => True) (decimal s) := by
  unfold decimal
  refine meets_any.bind fun (negative, body) _ => ?_
  dsimp only
  have signed {x : Binary64} (rounded : x.IsRounded) : (Value.float (if negative then x.neg else x)).IsKey := by
    cases negative with
    | true => exact Binary64.isRounded_neg rounded
    | false => exact rounded
  split
  · trivial
  · split
    · exact signed trivial
    · split
      · refine meets_any.bind fun parts _ => ?_
        exact (meets_sumSixtieths 1 _ (Binary64.isRounded_nought false)).bind fun x rounded => signed rounded
      · exact meets_readDecimal.bind fun x rounded => signed rounded

/-- A scalar stands for no collection, and for no decimal but those that rounding gives. -/
theorem meets_ofScalar {tag : String} {place : Mark} {reading : Except Failure Value}
    (common : ofScalar? tag s place = some reading) : Meets Value.IsKey (fun _ => True) reading := by
  unfold ofScalar? at common
  split_ifs at common <;> obtain rfl := Option.some.inj common
  · trivial
  · trivial
  · unfold truth
    dsimp only
    split
    · trivial
    · split <;> trivial
  · unfold integer
    refine meets_any.bind fun (negative, body) _ => ?_
    dsimp only
    split
    · trivial
    · exact meets_any.bind fun n _ => trivial
  · exact meets_decimal
  · unfold timestamp
    split
    · trivial
    · exact meets_any.bind fun date _ => trivial
    · exact meets_any.bind fun offset _ => meets_any.bind fun moment _ => trivial
  · split <;> trivial

end Atom

/-- Whether the keys of entries may be keys, and are pairwise different. -/
def AreKeys {α : Type} (entries : List (Value × α)) : Prop :=
  (∀ e ∈ entries, e.1.IsKey) ∧ entries.Pairwise fun e f => e.1.same f.1 = false

theorem areKeys_nil {α : Type} : AreKeys ([] : List (Value × α)) := ⟨fun _ member => absurd member List.not_mem_nil, .nil⟩

theorem AreKeys.put {α : Type} {key : Value} {entries : List (Value × α)} (keys : AreKeys entries) (isKey : key.IsKey)
    (value : α) : AreKeys (Value.putEntry key value entries) := by
  refine ⟨fun e member => ?_, Value.pairwise_putEntry isKey value keys.1 keys.2⟩
  rcases Value.fst_of_mem_putEntry member with new | ⟨f, inEntries, same⟩
  · exact new ▸ isKey
  · exact same ▸ keys.1 f inEntries

/-- Whether what a node stands for is whole but for its parts. -/
def Datum.IsWhole : Datum → Prop
  | whole value => value.IsKey
  | list _ | pairs _ => True
  | map entries => AreKeys entries
  | set members => (∀ v ∈ members, v.IsKey) ∧ members.Pairwise fun v w => v.same w = false

/-- The data of a node are whole if those of its parts are. -/
theorem Datum.isWhole_value {part : Nat → Value} {datum : Datum} (whole : datum.IsWhole)
    (parts : ∀ i ∈ datum.parts, (part i).IsWhole) : (datum.value part).IsWhole := by
  cases datum with
  | whole value => exact Value.isWhole_of_isKey whole
  | list items => exact Value.isWhole_list (List.forall_mem_map.mpr parts)
  | pairs items =>
    refine Value.isWhole_list (List.forall_mem_map.mpr fun pair member => Value.isWhole_tuple ?_)
    have both : ∀ i ∈ [pair.1, pair.2], (part i).IsWhole := fun i inPair =>
      parts i (List.mem_flatMap.mpr ⟨pair, member, inPair⟩)
    simpa using both
  | map entries =>
    refine Value.isWhole_map (List.forall_mem_map.mpr whole.1) (List.pairwise_map.mpr whole.2) ?_
    exact List.forall_mem_map.mpr fun e member => parts e.2 (List.mem_map_of_mem member)
  | set members => exact Value.isWhole_set whole.1 whole.2

/-- Whether all data that are known are whole. -/
def AreWhole (known : Array (Option Value)) : Prop := ∀ i v, known.getD i none = some v → v.IsWhole

theorem Datum.isWhole_of_value {known : Array (Option Value)} {datum : Datum} {v : Value} (whole : datum.IsWhole)
    (parts : AreWhole known) (found : datum.value? known = some v) : v.IsWhole := by
  unfold value? at found
  split at found
  · rename_i all
    obtain rfl := Option.some.inj found
    refine isWhole_value whole fun i member => ?_
    have given := List.all_eq_true.mp all i member
    cases here : known.getD i none with
    | none => rw [here] at given; cases given
    | some w => exact parts i w here
  · cases found

namespace Making

variable {s : Making}

/-- Whether what the nodes stand for is whole but for their parts, as far as they are made. -/
def IsWhole (s : Making) : Prop := ∀ i datum, s.data.getD i none = some datum → datum.IsWhole

theorem getD_replicate {α : Type} (n i : Nat) : (Array.replicate n (none : Option α)).getD i none = none := by
  simp only [Array.getD_eq_getD_getElem?, Array.getElem?_replicate]
  split <;> rfl

theorem getD_setIfInBounds {α : Type} (xs : Array (Option α)) (i j : Nat) (x : Option α) :
    (xs.setIfInBounds i x).getD j none = x ∨ (xs.setIfInBounds i x).getD j none = xs.getD j none := by
  simp only [Array.getD_eq_getD_getElem?, Array.getElem?_setIfInBounds]
  split
  · split
    · exact Or.inl rfl
    · rename_i same out
      subst same
      exact Or.inr (by rw [Array.getElem?_eq_none (Nat.le_of_not_lt out)])
  · exact Or.inr rfl

theorem IsWhole.keep (whole : s.IsWhole) {i : Nat} {datum : Datum} (new : datum.IsWhole) : (s.keep i datum).IsWhole := by
  intro j other found
  rcases getD_setIfInBounds s.data i j (some datum) with same | old
  · obtain rfl := Option.some.inj (same.symm.trans found)
    exact new
  · exact whole j other (old.symm.trans found)

theorem AreWhole.settle {known : Array (Option Value)} (whole : s.IsWhole) (parts : AreWhole known) :
    AreWhole (s.settle known) := by
  unfold Making.settle
  induction List.range s.data.size with
  | nil => exact parts
  | cons i rest ih =>
    intro j v found
    rw [List.foldr_cons] at found
    rcases getD_setIfInBounds _ i j _ with same | old
    · rw [same, Option.bind_eq_some_iff] at found
      obtain ⟨datum, here, made⟩ := found
      exact Datum.isWhole_of_value (whole i datum here) ih made
    · exact ih j v (old.symm.trans found)

theorem IsWhole.value (whole : s.IsWhole) {i : Nat} {v : Value} (found : s.value? i = some v) : v.IsWhole := by
  have within (rounds : Nat) {known : Array (Option Value)} (parts : AreWhole known)
      (found : s.valueWithin? i rounds known = some v) : v.IsWhole := by
    induction rounds generalizing known with
    | zero => exact parts i v found
    | succ rounds ih =>
      rw [valueWithin?] at found
      split at found
      · rename_i here
        exact Option.some.inj found ▸ parts i _ here
      · exact ih (AreWhole.settle whole parts) found
  exact within _ (fun j w known => nomatch (getD_replicate _ j).symm.trans known) found

theorem isKey_atom {g : Graph} {i : Nat} : Meets Value.IsKey (fun _ => True) (atom g i) := by
  unfold atom
  dsimp only
  split
  · trivial
  · refine meets_any.bind fun text _ => ?_
    split
    · trivial
    · have read : Meets Value.IsKey (fun _ => True)
          ((Atom.ofScalar? (g.node i).tag text.toList (g.node i).start).getD (.ok .null)) := by
        cases reading : Atom.ofScalar? (g.node i).tag text.toList (g.node i).start with
        | none => trivial
        | some result => exact Atom.meets_ofScalar reading
      refine read.bind fun v key => meets_pure ?_
      unfold ofNode
      split
      · trivial
      · exact key

theorem isWhole_unfilled {tag : String} {datum : Datum} (unfilled : unfilled? tag = some datum) : datum.IsWhole := by
  unfold unfilled? at unfilled
  split_ifs at unfilled <;> obtain rfl := Option.some.inj unfilled
  · exact areKeys_nil
  · trivial
  · exact ⟨fun _ member => absurd member List.not_mem_nil, .nil⟩
  · trivial

theorem isWhole_make (whole : s.IsWhole) (i : Nat) :
    Meets (fun r => r.1.IsWhole ∧ r.2.IsWhole) (fun _ => True) (s.make i) := by
  unfold make
  split
  · rename_i datum here
    refine ⟨whole i datum ?_, whole⟩
    rw [Array.getD_eq_getD_getElem?]
    exact Option.join_eq_some_iff.mp here ▸ rfl
  · split
    · rename_i datum unfilled
      have new := isWhole_unfilled unfilled
      exact ⟨new, whole.keep new⟩
    · exact isKey_atom.bind fun value key => ⟨key, whole.keep key⟩

theorem isWhole_fillList (whole : s.IsWhole) (i : Nat) :
    Meets (fun r => r.1.IsWhole ∧ r.2.IsWhole) (fun _ => True) (s.fillList i) := by
  unfold fillList
  dsimp only
  split
  · refine Meets.bind (P := IsWhole) (meets_foldlM whole fun s item _ sofar => ?_) fun s filled => ⟨trivial, filled⟩
    exact (isWhole_make sofar item).bind fun r made => made.2
  · trivial

theorem isWhole_fillEntries (whole : s.IsWhole) (i : Nat) :
    Meets (fun r => AreKeys r.1 ∧ r.2.IsWhole) (fun _ => True) (s.fillEntries i) := by
  unfold fillEntries
  dsimp only
  split
  · trivial
  · refine meets_any.bind fun g _ => ?_
    refine meets_foldlM ⟨areKeys_nil, whole⟩ ?_
    rintro ⟨filled, s⟩ ⟨key, value⟩ - ⟨keys, sofar⟩
    refine (isWhole_make sofar key).bind fun (datum, s) made => ?_
    dsimp only at made ⊢
    split
    · exact (isWhole_make made.2 value).bind fun r named => ⟨keys.put made.1 value, named.2⟩
    · trivial

theorem isWhole_fillPairs (activity : Activity) (whole : s.IsWhole) (i : Nat) :
    Meets (fun r => r.1.IsWhole ∧ r.2.IsWhole) (fun _ => True) (s.fillPairs activity i) := by
  unfold fillPairs
  dsimp only
  split
  · refine Meets.bind (P := fun r => r.2.IsWhole) (meets_foldlM whole fun (pairs, s) item _ sofar => ?_)
      fun r filled => ⟨trivial, filled⟩
    dsimp only
    split
    · rename_i key value _
      refine (isWhole_make sofar key).bind fun r made => ?_
      exact (isWhole_make made.2 value).bind fun r made => made.2
    · trivial
    · trivial
  · trivial

theorem isWhole_fill (whole : s.IsWhole) (i : Nat) : Meets IsWhole (fun _ => True) (s.fill i) := by
  unfold fill
  dsimp only
  split
  · exact (isWhole_fillList whole i).bind fun r filled => filled.2.keep filled.1
  · split
    · exact (isWhole_fillPairs _ whole i).bind fun r filled => filled.2.keep filled.1
    · split
      · exact (isWhole_fillPairs _ whole i).bind fun r filled => filled.2.keep filled.1
      · refine (isWhole_fillEntries whole i).bind fun (entries, s) filled => IsWhole.keep filled.2 ?_
        split
        · exact ⟨List.forall_mem_map.mpr filled.1.1, List.pairwise_map.mpr filled.1.2⟩
        · exact filled.1

theorem isWhole_fillAll (rounds : Nat) (whole : s.IsWhole) : Meets IsWhole (fun _ => True) (s.fillAll rounds) := by
  induction rounds generalizing s with
  | zero => exact whole
  | succ rounds ih =>
    refine Meets.bind (P := IsWhole) (meets_foldlM whole fun s i _ sofar => ?_) fun s filled => ih filled
    exact isWhole_fill sofar i

end Making

theorem Graph.isWhole_data (g : Graph) (root : Nat) : Meets Value.IsWhole (fun _ => True) (g.data root) := by
  have start : Making.IsWhole ⟨g, .replicate g.nodes.size none, []⟩ := fun i datum made =>
    nomatch (Making.getD_replicate _ i).symm.trans made
  refine (Making.isWhole_make start root).bind fun (datum, s) made => ?_
  refine (Making.isWhole_fillAll g.nodes.size made.2).bind fun s filled => ?_
  split
  · rename_i found
    exact filled.value found
  · trivial

theorem isWhole_rootData : ∀ r, Meets Value.IsWhole (fun _ => True) (rootData r)
  | (graph, some root) => graph.isWhole_data root
  | (_, none) => Value.isWhole_of_isKey (v := .null) trivial

/-- The data that a text stands for is whole. -/
theorem isWhole_load (text : List Char) : Meets Value.IsWhole (fun _ => True) (load text) := by
  cases found : firstForbidden? text with
  | some place =>
    rw [load_of_forbidden found]
    trivial
  | none =>
    rw [load_of_allowed found]
    generalize Graph.ofEvents? (events (tokens text)) = composed
    exact meets_any.bind fun r _ => isWhole_rootData r

end AccessPolicy.Yaml

namespace AccessPolicy.Document

variable {α β : Type} {P : α → Prop} {Q : β → Prop} {v : Value} {entries : List (Value × Value)}

section Reading

variable {r : Reading α}

theorem meets_and {r' : Reading β} (first : Meets P (fun _ => True) r) (second : Meets Q (fun _ => True) r') :
    Meets (fun p => P p.1 ∧ Q p.2) (fun _ => True) (r.and r') := by
  cases r with
  | ok => cases r' with
    | ok => exact ⟨first, second⟩
    | error => trivial
  | error => cases r' <;> trivial

theorem meets_under (part : String) (meets : Meets P (fun _ => True) r) : Meets P (fun _ => True) (r.under part) := by
  cases r with
  | ok => exact meets
  | error => trivial

theorem meets_butFor (faults : List SchemaFault) (meets : Meets P (fun _ => True) r) :
    Meets P (fun _ => True) (r.butFor faults) := by
  cases r with
  | ok =>
    rw [Reading.butFor]
    split
    · exact meets
    · trivial
  | error => trivial

theorem meets_map {f : α → β} (meets : Meets (fun x => Q (f x)) (fun _ => True) r) :
    Meets Q (fun _ => True) (r.map f) := by
  cases r with
  | ok => exact meets
  | error => trivial

theorem meets_readAll {rs : List (Reading α)} (each : ∀ r ∈ rs, Meets P (fun _ => True) r) :
    Meets (fun xs => ∀ x ∈ xs, P x) (fun _ => True) (readAll rs) := by
  induction rs with
  | nil => exact fun _ member => absurd member List.not_mem_nil
  | cons r rest ih =>
    rw [List.forall_mem_cons] at each
    exact meets_map ((meets_and each.1 (ih each.2)).mono fun _ both => List.forall_mem_cons.mpr both)

end Reading

section Parts

variable {read : Value → Reading α}

theorem meets_readOptional (reads : Meets P (fun _ => True) (read v)) :
    Meets (fun x => ∀ y ∈ x, P y) (fun _ => True) (readOptional read v) := by
  cases v
  case null => exact fun _ none => nomatch none
  all_goals exact meets_map (reads.mono fun _ holds _ same => Option.some.inj same ▸ holds)

theorem mem_putText {key : String} {value : α} {entries : List (String × α)} {e : String × α}
    (member : e ∈ putText key value entries) : e.2 = value ∨ e ∈ entries := by
  induction entries with
  | nil => exact Or.inl (by rw [List.mem_singleton.mp member])
  | cons first rest ih =>
    rw [putText] at member
    split at member <;> rcases List.mem_cons.mp member with rfl | later
    · exact Or.inl rfl
    · exact Or.inr (List.mem_cons_of_mem _ later)
    · exact Or.inr (List.mem_cons_self ..)
    · exact (ih later).imp_right (List.mem_cons_of_mem _)

theorem meets_readMap (whole : v.IsWhole) (reads : ∀ w : Value, w.IsWhole → Meets P (fun _ => True) (read w)) :
    Meets (fun m => ∀ e ∈ m.entries, P e.2) (fun _ => True) (readMap read v) := by
  cases v with
  | map entries =>
    refine meets_map (Meets.mono (P := fun es => ∀ e ∈ es, P e.2) (meets_readAll ?_) fun es each => ?_)
    · refine List.forall_mem_map.mpr fun e member => meets_under _ ?_
      have value := reads e.2 (whole.of_holds (.ofMap member (.self e.2)))
      exact (meets_and meets_any value).mono fun _ both => both.2
    · refine List.foldlRecOn es _ (motive := fun m : TextMap α => ∀ e ∈ m.entries, P e.2)
        (fun _ member => absurd member List.not_mem_nil) fun m sofar e member f inPut => ?_
      rcases mem_putText inPut with new | old
      · exact new ▸ each e member
      · exact sofar f old
  | _ => trivial

theorem meets_readList (whole : v.IsWhole) (reads : ∀ w : Value, w.IsWhole → Meets P (fun _ => True) (read w)) :
    Meets (fun xs => ∀ x ∈ xs, P x) (fun _ => True) (readList read v) := by
  have items {items : List Value} (each : ∀ w ∈ items, w.IsWhole) :
      Meets (fun xs => ∀ x ∈ xs, P x) (fun _ => True)
        (readAll (items.zipIdx.map fun item => (read item.1).under (toString item.2))) :=
    meets_readAll (List.forall_mem_map.mpr fun e member =>
      meets_under _ (reads e.1 (each e.1 (List.fst_mem_of_mem_zipIdx member))))
  cases v with
  | list parts => exact items fun w member => whole.of_holds (.ofList member (.self w))
  | tuple parts => exact items fun w member => whole.of_holds (.ofTuple member (.self w))
  | set parts => exact items fun w member => whole.of_holds (.ofSet member (.self w))
  | _ => trivial

end Parts

theorem isWhole_fieldValue (whole : (Value.map entries).IsWhole) (name : String) : (fieldValue entries name).IsWhole := by
  unfold fieldValue Value.lookup?
  cases found : entries.find? fun entry => (Value.text name).same entry.1 with
  | none => exact Value.isWhole_of_isKey (v := .null) trivial
  | some e => exact whole.of_holds (.ofMap (List.mem_of_find?_eq_some found) (.self e.2))

/-- A map from texts is whole if its values are. -/
theorem isWhole_toValue {m : TextMap Value} (whole : ∀ e ∈ m.entries, e.2.IsWhole) :
    (Properties.toValue m.entries).IsWhole := by
  refine Value.isWhole_map (List.forall_mem_map.mpr fun _ _ => trivial) ?_ (List.forall_mem_map.mpr whole)
  refine List.pairwise_map.mpr ((List.pairwise_map.mp m.distinct).imp fun different => ?_)
  rw [Value.same_text]
  exact beq_eq_false_iff_ne.mpr different

theorem isWhole_readProperties (whole : (Value.map entries).IsWhole) (name : String) :
    Meets (fun section? => ∀ p ∈ section?, p.toValue.IsWhole) (fun _ => True) (readProperties entries name) := by
  have parts : Meets (fun m : TextMap Value => ∀ e ∈ m.entries, e.2.IsWhole) (fun _ => True)
      (readMap .ok (fieldValue entries name)) := meets_readMap (isWhole_fieldValue whole name) fun _ whole => whole
  refine meets_map (Meets.mono (meets_under _ (meets_readOptional parts)) fun section? each p there => ?_)
  obtain ⟨m, given, rfl⟩ := Option.map_eq_some_iff.mp there
  exact isWhole_toValue (each m given)

theorem isWhole_readEntry (whole : v.IsWhole) : Meets (fun e => e.matchers.IsWhole) (fun _ => True) (readEntry v) := by
  cases v with
  | map entries =>
    have reads := isWhole_readProperties whole
    refine meets_butFor _ (meets_map (Meets.mono (meets_and (reads "match") (meets_and (reads "contains")
      (meets_and (reads "equals") (reads "subset")))) ?_))
    rintro ⟨regex, contains, equals, subset⟩ each
    simpa [Matchers.IsWhole, Matchers.given, or_imp, forall_and] using each
  | _ => trivial

/-- The matchers of a document that is read from whole data are whole. -/
theorem isWhole_ofValue (whole : v.IsWhole) :
    Meets (fun d => ∀ a ∈ d.articles, a.entry.matchers.IsWhole) (fun _ => True) (ofValue v) := by
  cases v with
  | map entries =>
    have rules := meets_readMap (isWhole_fieldValue whole "for") fun w whole =>
      meets_readList whole fun w whole => isWhole_readEntry whole
    refine meets_butFor _ (meets_map (Meets.mono (meets_and meets_any (meets_and meets_any (meets_and meets_any
      (meets_and meets_any (meets_under _ (meets_readOptional rules)))))) ?_))
    rintro ⟨description, scope, included, excluded, rules?⟩ each a member
    obtain ⟨articles, i, inRules, atI, _⟩ := mem_articles.mp member
    cases rules? with
    | none => exact absurd inRules List.not_mem_nil
    | some rules => exact each.2.2.2.2 rules rfl _ inRules _ (List.mem_of_getElem? atI)
  | _ => trivial

/-- So are those of a document in a text. -/
theorem isWhole_of_load {text : List Char} {d : Document} {a : Article} (loaded : Yaml.load text = .ok v)
    (read : ofValue v = .ok d) (member : a ∈ d.articles) : a.entry.matchers.IsWhole :=
  (isWhole_ofValue ((Yaml.isWhole_load text).of_ok loaded)).of_ok read a member

end AccessPolicy.Document

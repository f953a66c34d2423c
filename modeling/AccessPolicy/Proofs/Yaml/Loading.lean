import AccessPolicy.Proofs.Yaml.Cutting
import AccessPolicy.Proofs.Yaml.Happenings
import AccessPolicy.Proofs.Yaml.Nodes
import AccessPolicy.Yaml.Load

namespace AccessPolicy.Yaml

variable {P : Mark → Prop} {n : Nat}

namespace Atom

variable {s : List Char}

/-- Whether a scalar is read, or refused with words that tell no places but those of a kind. -/
def IsRead {α : Type} (P : Mark → Prop) : Except Failure α → Prop := Meets (fun _ => True) (Failure.Places P)

theorem isRead_bind {α β : Type} {first : Except Failure α} {next : α → Except Failure β} (read : IsRead P first)
    (rest : ∀ x, IsRead P (next x)) : IsRead P (first >>= next) := Meets.bind read fun x _ => rest x

theorem isRead_mapM {α β : Type} {f : α → Except Failure β} {xs : List α} (each : ∀ x, IsRead P (f x)) :
    IsRead P (xs.mapM f) := (meets_mapM fun x _ => each x).mono fun _ _ => trivial

theorem isRead_truth : IsRead P (truth s) := by
  unfold truth
  dsimp only
  split
  · trivial
  · split <;> trivial

theorem isRead_readInteger (base : Nat) : IsRead P (readInteger base s) := by
  unfold readInteger
  split <;> trivial

theorem isRead_splitSign : IsRead P (splitSign s) := by
  unfold splitSign
  split <;> trivial

theorem isRead_magnitude : IsRead P (magnitude s) := by
  unfold magnitude
  split
  · trivial
  · trivial
  · exact isRead_readInteger 2
  · exact isRead_readInteger 16
  · exact isRead_readInteger 8
  · split
    · exact isRead_bind (isRead_mapM fun _ => isRead_readInteger 10) fun parts => trivial
    · exact isRead_readInteger 10

theorem isRead_integer : IsRead P (integer s) := by
  unfold integer
  refine isRead_bind isRead_splitSign fun (negative, body) => ?_
  dsimp only
  split
  · trivial
  · exact isRead_bind isRead_magnitude fun n => trivial

theorem isRead_readDecimal : IsRead P (readDecimal s) := by
  unfold readDecimal
  split <;> trivial

theorem isRead_sumSixtieths (place : Nat) (total : Binary64) (parts : List Binary64) :
    IsRead P (sumSixtieths place total parts) := by
  induction parts generalizing place total with
  | nil => trivial
  | cons part rest ih =>
    rw [sumSixtieths]
    split
    · trivial
    · exact ih ..

theorem isRead_decimal : IsRead P (decimal s) := by
  unfold decimal
  refine isRead_bind isRead_splitSign fun (negative, body) => ?_
  dsimp only
  split
  · trivial
  · split
    · trivial
    · split
      · refine isRead_bind (isRead_mapM fun _ => isRead_readDecimal) fun parts => ?_
        exact isRead_bind (isRead_sumSixtieths ..) fun x => trivial
      · exact isRead_bind isRead_readDecimal fun x => trivial

theorem isRead_inCalendar {α : Type} (r : Except CalendarFault α) : IsRead P (inCalendar r) := by
  cases r <;> trivial

theorem isRead_timestamp : IsRead P (timestamp s) := by
  unfold timestamp
  split
  · trivial
  · exact isRead_bind (isRead_inCalendar _) fun date => trivial
  · refine isRead_bind (isRead_inCalendar _) fun offset => ?_
    exact isRead_bind (isRead_inCalendar _) fun moment => trivial

theorem isRead_ofScalar {tag : String} {place : Mark} {reading : Except Failure Value}
    (common : ofScalar? tag s place = some reading) (here : P place) : IsRead P reading := by
  unfold ofScalar? at common
  split_ifs at common <;> obtain rfl := Option.some.inj common
  · trivial
  · trivial
  · exact isRead_truth
  · exact isRead_integer
  · exact isRead_decimal
  · exact isRead_timestamp
  · split
    · trivial
    · exact failure_places_form here fun _ _ none => nomatch none

end Atom

namespace Making

variable {s : Making} {i : Nat}

/-- Whether data are made of nodes that start at places of a kind, and what waits to be filled are nodes. -/
structure Places (P : Mark → Prop) (n : Nat) (s : Making) : Prop where
  graph : s.graph.Places P n
  waiting : ∀ i ∈ s.waiting, i < n

theorem Places.keep (places : s.Places P n) (i : Nat) (datum : Datum) : (s.keep i datum).Places P n := { places with }

theorem meets_atom {g : Graph} (places : g.Places P n) (known : i < n) :
    Meets (fun _ => True) (Failure.Places P) (atom g i) := by
  have here := places.start i known
  unfold atom
  dsimp only
  split
  · exact Graph.places_fault_alone here
  · refine (Graph.meets_textWithin _ places known).bind fun text _ => ?_
    split
    · trivial
    · refine Meets.bind (P := fun _ => True) ?_ fun _ _ => meets_pure trivial
      cases reading : Atom.ofScalar? (g.node i).tag text.toList (g.node i).start with
      | none => trivial
      | some read => exact Atom.isRead_ofScalar reading here

theorem meets_make (places : s.Places P n) (known : i < n) :
    Meets (fun r => r.2.Places P n) (Failure.Places P) (s.make i) := by
  unfold make
  split
  · exact places
  · split
    · exact { places with waiting := List.forall_mem_cons.mpr ⟨known, places.waiting⟩ }
    · exact (meets_atom places.graph known).bind fun value _ => places.keep i _

theorem meets_fillList (places : s.Places P n) (known : i < n) :
    Meets (fun r => r.2.Places P n) (Failure.Places P) (s.fillList i) := by
  have parts := places.graph.parts i known
  unfold fillList
  dsimp only
  split
  · rename_i items content
    rw [content] at parts
    refine Meets.bind (P := fun s => s.Places P n) (meets_foldlM places fun s item member sofar => ?_) fun s filled => filled
    exact (meets_make sofar (parts item member)).bind fun r made => made
  · exact Graph.places_fault_alone (places.graph.start i known)

theorem meets_fillEntries (places : s.Places P n) (known : i < n) :
    Meets (fun r => r.2.Places P n) (Failure.Places P) (s.fillEntries i) := by
  have here := places.graph.start i known
  unfold fillEntries
  dsimp only
  split
  · exact Graph.places_fault_alone here
  · refine (Graph.meets_resolve places.graph known).bind fun g resolved => ?_
    have start : Making.Places P n { s with graph := g } := { places with graph := resolved }
    refine meets_foldlM start fun (filled, s) (key, value) member sofar => ?_
    have entry := resolved.entries known _ member
    refine (meets_make sofar entry.1).bind fun (datum, s) made => ?_
    dsimp only
    split
    · exact (meets_make made entry.2).bind fun r made => made
    · exact Graph.places_fault_during here (made.graph.start key entry.1)

theorem meets_fillPairs (activity : Activity) (places : s.Places P n) (known : i < n) :
    Meets (fun r => r.2.Places P n) (Failure.Places P) (s.fillPairs activity i) := by
  have here := places.graph.start i known
  have parts := places.graph.parts i known
  unfold fillPairs
  dsimp only
  split
  · rename_i items content
    rw [content] at parts
    refine Meets.bind (P := fun r => r.2.Places P n) (meets_foldlM places fun (pairs, s) item member sofar => ?_)
      fun r filled => filled
    have part := sofar.graph.start item (parts item member)
    have below := sofar.graph.parts item (parts item member)
    dsimp only
    split
    · rename_i key value single
      rw [single] at below
      obtain ⟨key, value⟩ := below (key, value) (List.mem_singleton_self _)
      refine (meets_make sofar key).bind fun r made => ?_
      exact (meets_make made value).bind fun r made => made
    · exact Graph.places_fault_during here part
    · exact Graph.places_fault_during here part
  · exact Graph.places_fault_during here here

theorem meets_fill (places : s.Places P n) (known : i < n) : Meets (fun s' => s'.Places P n) (Failure.Places P) (s.fill i) := by
  unfold fill
  dsimp only
  split
  · exact (meets_fillList places known).bind fun r filled => filled.keep i _
  · split
    · exact (meets_fillPairs _ places known).bind fun r filled => filled.keep i _
    · split
      · exact (meets_fillPairs _ places known).bind fun r filled => filled.keep i _
      · exact (meets_fillEntries places known).bind fun r filled => Places.keep filled i _

theorem meets_fillAll (rounds : Nat) (places : s.Places P n) :
    Meets (fun _ => True) (Failure.Places P) (s.fillAll rounds) := by
  induction rounds generalizing s with
  | zero => trivial
  | succ rounds ih =>
    have start : Making.Places P n { s with waiting := [] } := ⟨places.graph, fun _ member => nomatch member⟩
    refine Meets.bind (P := fun s => s.Places P n) (meets_foldlM start fun s i member sofar => ?_) fun s filled => ih filled
    exact meets_fill sofar (places.waiting i (List.mem_reverse.mp member))

end Making

theorem Graph.meets_data {g : Graph} {root : Nat} (places : g.Places P n) (known : root < n) :
    Meets (fun _ => True) (Failure.Places P) (g.data root) := by
  have start : Making.Places P n ⟨g, .replicate g.nodes.size none, []⟩ := ⟨places, fun _ member => nomatch member⟩
  refine (Making.meets_make start known).bind fun (datum, s) made => ?_
  refine (Making.meets_fillAll g.nodes.size made).bind fun s _ => ?_
  split
  · trivial
  · exact places_fault_alone (places.start root known)

/-- The data of the root, or nothing where there is none. -/
def rootData : Graph × Option Nat → Except Failure Value
  | (graph, some root) => graph.data root
  | (_, none) => .ok .null

theorem load_of_forbidden {text : List Char} {c : Char} {position : Nat} (found : firstForbidden? text = some (c, position)) :
    load text = .error (.character c position) := by
  unfold load
  rw [found]
  rfl

theorem load_of_allowed {text : List Char} (allowed : firstForbidden? text = none) :
    load text = Graph.ofEvents? (events (tokens text)) >>= rootData := by
  unfold load
  rw [allowed]
  dsimp only
  congr 1

/-- The places that are told where data are made of tokens are those of the tokens. -/
theorem meets_supply {supply : Supply Token} (taken : supply.Places P (Token.Places P)) :
    Meets (fun _ => True) (Failure.Places P) (Graph.ofEvents? (events supply) >>= rootData) := by
  refine (meets_ofEvents (events_places taken)).bind fun (graph, root) ⟨n, places, known⟩ => ?_
  cases root with
  | none => trivial
  | some root => exact Graph.meets_data places (known root rfl)

/-- Where no character is at fault, the places that a failed loading tells are places of the text. -/
theorem meets_load {text : List Char} (ahead : (Cursor.start text).Ahead P) (allowed : firstForbidden? text = none) :
    Meets (fun _ => True) (Failure.Places P) (load text) := by
  have taken := tokens_places ahead
  rw [load_of_allowed allowed]
  generalize tokens text = supply at taken ⊢
  exact meets_supply taken

end AccessPolicy.Yaml

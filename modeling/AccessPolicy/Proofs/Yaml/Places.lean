import AccessPolicy.Proofs.Conditions
import AccessPolicy.Proofs.Yaml.Stepping
import AccessPolicy.Yaml.Fault
import AccessPolicy.Yaml.Token.Property

namespace AccessPolicy.Yaml

variable {P : Mark → Prop} {began place : Mark} {activity naming : Activity} {c d : Cursor} {α β : Type}

/-- Whether the places that a fault tells are of a kind. -/
structure Fault.Places (P : Mark → Prop) (f : Fault) : Prop where
  place : P f.place
  began : ∀ activity began, f.during = some (activity, some began) → P began

/-- Whether a failure tells only places of a kind. One that tells the position of a character instead does not. -/
def Failure.Places (P : Mark → Prop) : Failure → Prop
  | form fault => fault.Places P
  | scalar _ => True
  | character .. => False

/-- Whether the places of a token are of a kind. -/
structure Token.Places (P : Mark → Prop) (t : Token) : Prop where
  start : P t.start
  stop : P t.stop

/-- Whether the items of a supply are of a kind, and so are the places that its failure tells. -/
structure Supply.Places (P : Mark → Prop) (known : α → Prop) (s : Supply α) : Prop where
  items : ∀ item ∈ s.items, known item
  failure : ∀ failure, s.failure = some failure → failure.Places P

theorem failure_places_form {level : Level} {during : Option (Activity × Option Mark)} {problem : Problem}
    (here : P place) (began : ∀ activity mark, during = some (activity, some mark) → P mark) :
    (Failure.form ⟨level, during, problem, place⟩).Places P := ⟨here, began⟩

theorem meets_tokenFault {right : α → Prop} {problem : Problem} (started : P began) (here : P place) :
    Meets right (Failure.Places P) (tokenFault activity began problem place : Except Failure α) :=
  failure_places_form here fun _ mark same => by
    obtain ⟨_, same⟩ := Prod.mk.inj (Option.some.inj same)
    exact Option.some.inj same ▸ started

/-- Whether a reading ends further on, or with a failure that tells places of a kind. -/
def Reads (P : Mark → Prop) (c : Cursor) : Except Failure (α × Cursor) → Prop :=
  Meets (fun r => c.Follows r.2) (Failure.Places P)

/-- Whether the reading of a token ends at least a character further on, or with a failure, all places being of a
kind. -/
def ReadsToken (P : Mark → Prop) (c : Cursor) : Except Failure (Token × Cursor) → Prop :=
  Meets (fun r => c.advance.Follows r.2 ∧ r.1.Places P) (Failure.Places P)

theorem reads_ok {x : α} (follows : c.Follows d) : Reads P c (.ok (x, d)) := follows

/-- A reading may be seen from further before it. -/
theorem Reads.behind {reading : Except Failure (α × Cursor)} (reads : Reads P d reading) (follows : c.Follows d) :
    Reads P c reading := Meets.mono reads fun _ later => follows.trans later

/-- One reading after another. -/
theorem Reads.bind {first : Except Failure (α × Cursor)} {next : α × Cursor → Except Failure (β × Cursor)}
    (reads : Reads P c first) (ahead : c.Ahead P)
    (rest : ∀ x d, c.Follows d → d.Ahead P → Reads P d (next (x, d))) : Reads P c (first >>= next) :=
  Meets.bind reads fun (x, d) follows => (rest x d follows (ahead.of follows)).behind follows

/-- A reading and then another trial. -/
theorem Reads.meets_bind {first : Except Failure (α × Cursor)} {next : α × Cursor → Except Failure β} {Q : β → Prop}
    (reads : Reads P c first) (ahead : c.Ahead P)
    (rest : ∀ x d, c.Follows d → d.Ahead P → Meets Q (Failure.Places P) (next (x, d))) :
    Meets Q (Failure.Places P) (first >>= next) :=
  Meets.bind reads fun (x, d) follows => rest x d follows (ahead.of follows)

theorem follows_comment (c : Cursor) : c.Follows (if c.next == '#' then c.skip (!isLineEnd ·) else c) := by
  split
  · exact c.follows_skip _
  · exact .refl c

theorem meets_skipLineRest (ahead : c.Ahead P) (started : P began) :
    Meets (fun d => c.Follows d) (Failure.Places P) (skipLineRest activity began c) := by
  have follows := (c.follows_skip (· == ' ')).trans (follows_comment _)
  unfold skipLineRest
  dsimp only
  generalize (if (c.skip (· == ' ')).next == '#' then (c.skip (· == ' ')).skip (!isLineEnd ·) else c.skip (· == ' ')) = d
    at follows ⊢
  split
  · exact follows.trans (Cursor.follows_lineBreak _)
  · exact meets_tokenFault started (ahead.of follows).here

theorem readsToken_anchor (ahead : c.Ahead P) : ReadsToken P c (readAnchor c) := by
  have follows := c.advance.follows_advanceBy (c.advance.run isNameChar).length
  have later := (ahead.of (c.follows_advance.trans follows)).here
  unfold readAnchor
  dsimp only
  split
  · exact meets_tokenFault ahead.here later
  · split
    · exact meets_tokenFault ahead.here later
    · exact ⟨follows, ahead.here, later⟩

theorem reads_escapedBytes (steps : Nat) (ahead : c.Ahead P) (started : P began) :
    Reads P c (readEscapedBytes activity began steps c) := by
  induction steps generalizing c with
  | zero => exact reads_ok (.refl c)
  | succ steps ih =>
    have aheadOne := ahead.of c.follows_advance
    rw [readEscapedBytes]
    split
    · exact reads_ok (.refl c)
    · dsimp only
      split
      · exact meets_tokenFault started aheadOne.here
      · split
        · exact meets_tokenFault started aheadOne.here
        · have follows := c.follows_advance.trans (c.advance.follows_advanceBy 2)
          refine ((ih (ahead.of follows)).behind follows).bind ahead fun bytes d _ _ => ?_
          exact reads_ok (.refl d)

theorem reads_addressFrom (steps : Nat) (ahead : c.Ahead P) (started : P began) :
    Reads P c (readAddressFrom activity began steps c) := by
  induction steps generalizing c with
  | zero => exact reads_ok (.refl c)
  | succ steps ih =>
    rw [readAddressFrom]
    have follows := c.follows_advanceBy (c.run fun ch => isAddressChar ch && ch != '%').length
    have ahead := ahead.of follows
    dsimp only
    split
    · exact reads_ok follows
    · refine ((reads_escapedBytes _ ahead started).bind ahead fun bytes d _ later => ?_).behind follows
      dsimp only
      split
      · exact meets_tokenFault started ahead.here
      · refine (ih later).bind later fun more e _ _ => ?_
        exact reads_ok (.refl e)

theorem reads_address (ahead : c.Ahead P) (started : P began) : Reads P c (readAddress activity naming began c) := by
  unfold readAddress
  refine (reads_addressFrom _ ahead started).bind ahead fun chars d _ _ => ?_
  dsimp only
  split
  · exact meets_tokenFault started ahead.here
  · exact reads_ok (.refl d)

/-- A handle takes at least a character. -/
theorem reads_handle (ahead : c.Ahead P) (started : P began) :
    Reads P c.advance (readHandle activity began c) := by
  unfold readHandle
  split
  · exact meets_tokenFault started ahead.here
  · split
    · exact reads_ok (.refl _)
    · have follows := Cursor.advance_follows_advanceBy (c.advance.run isNameChar).length c
      dsimp only
      split
      · exact meets_tokenFault started (ahead.of (c.follows_advance.trans follows)).here
      · exact reads_ok (follows.trans (Cursor.follows_advance _))

theorem reads_tagBody (ahead : c.Ahead P) (started : P began) : Reads P c.advance (readTagBody began c) := by
  unfold readTagBody
  have aheadOne := ahead.of c.follows_advance
  dsimp only
  split
  · have follows := c.advance_follows_advanceBy 1
    have ahead := aheadOne.of follows
    refine ((reads_address ahead started).bind ahead fun suffix d _ later => ?_).behind follows
    dsimp only
    split
    · exact meets_tokenFault started later.here
    · exact reads_ok d.follows_advance
  · split
    · exact reads_ok (.refl _)
    · have suffix (handle : String) (d : Cursor) (later : d.Ahead P) :
          Reads P d (readAddress .tag .tagName began d >>= fun r => .ok (Word.tag (some handle) r.1, r.2)) :=
        (reads_address later started).bind later fun suffix e _ _ => reads_ok (.refl e)
      split
      · exact (reads_handle ahead started).bind aheadOne fun handle d _ later => suffix handle d later
      · exact suffix "!" _ aheadOne

theorem readsToken_tag (ahead : c.Ahead P) : ReadsToken P c (readTag c) := by
  unfold readTag
  refine (reads_tagBody ahead ahead.here).meets_bind (ahead.of c.follows_advance) fun word d follows later => ?_
  dsimp only
  split
  · exact meets_tokenFault ahead.here later.here
  · exact ⟨follows, ahead.here, later.here⟩

theorem reads_versionNumber (ahead : c.Ahead P) (started : P began) : Reads P c (readVersionNumber began c) := by
  unfold readVersionNumber
  dsimp only
  split
  · exact meets_tokenFault started ahead.here
  · split
    · trivial
    · exact reads_ok (c.follows_advanceBy _)

theorem reads_version (ahead : c.Ahead P) (started : P began) : Reads P c (readVersion began c) := by
  have follows := c.follows_skip (· == ' ')
  have ahead := ahead.of follows
  unfold readVersion
  refine ((reads_versionNumber ahead started).bind ahead fun major d _ later => ?_).behind follows
  dsimp only
  split
  · exact meets_tokenFault started later.here
  · have later := later.of d.follows_advance
    refine ((reads_versionNumber later started).bind later fun minor e _ last => ?_).behind d.follows_advance
    dsimp only
    split
    · exact meets_tokenFault started last.here
    · exact reads_ok (.refl e)

theorem reads_handleDirective (ahead : c.Ahead P) (started : P began) :
    Reads P c (readHandleDirective began c) := by
  have follows := c.follows_skip (· == ' ')
  have ahead := ahead.of follows
  have handle : Reads P _ (readHandle .directive began _) :=
    (reads_handle ahead started).behind (Cursor.follows_advance _)
  unfold readHandleDirective
  refine (handle.bind ahead fun handle d _ later => ?_).behind follows
  dsimp only
  split
  · exact meets_tokenFault started later.here
  · have follows := d.follows_skip (· == ' ')
    have later := later.of follows
    refine ((reads_address later started).bind later fun expansion e _ last => ?_).behind follows
    dsimp only
    split
    · exact meets_tokenFault started last.here
    · exact reads_ok (.refl e)

theorem readsToken_directive (ahead : c.Ahead P) : ReadsToken P c (readDirective c) := by
  have follows := c.advance.follows_advanceBy (c.advance.run isNameChar).length
  have later := ahead.of (c.follows_advance.trans follows)
  unfold readDirective
  dsimp only
  generalize c.advance.advanceBy _ = d at follows later ⊢
  split
  · exact meets_tokenFault ahead.here later.here
  · have ending (directive : Directive) (e : Cursor) (onward : d.Follows e) (last : e.Ahead P) : ReadsToken P c (do
        let stop ← skipLineRest .directive c.mark e
        return (⟨.directive directive, c.mark, e.mark⟩, stop)) :=
      (meets_skipLineRest last ahead.here).bind fun stop ending =>
        ⟨(follows.trans onward).trans ending, ahead.here, last.here⟩
    split
    · exact (reads_version later ahead.here).meets_bind later ending
    · split
      · exact (reads_handleDirective later ahead.here).meets_bind later ending
      · exact (reads_ok (d.follows_skip (!isLineEnd ·))).meets_bind later ending

end AccessPolicy.Yaml

import AccessPolicy.Proofs.Source.Stream

namespace AccessPolicy.Source

section Shortening

theorem length_of_nameAhead {text name : List Char} (found : nameAhead? text = some name) :
    name.length + 1 + unknownTail.length ≤ text.length := by
  obtain ⟨n, among, rfl⟩ := Option.map_eq_some_iff.mp found
  have follows := List.find?_some among
  cases rest : text.drop n with
  | nil => simp [rest, startsBlankThen] at follows
  | cons c rest' =>
    rw [rest, startsBlankThen, Bool.and_eq_true, List.isPrefixOf_iff_prefix] at follows
    have tail := follows.2.length_le
    have whole := congrArg List.length rest
    rw [List.length_drop, List.length_cons] at whole
    rw [List.length_take]
    omega

theorem length_of_unknownHere {text name : List Char} (found : unknownHere? text = some name) :
    unknownLead.length + 1 + name.length + 1 + unknownTail.length ≤ text.length := by
  unfold unknownHere? at found
  split at found
  · rename_i c rest _ follows
    split at found
    · have behind := length_of_nameAhead found
      have whole := congrArg List.length follows
      rw [List.length_drop, List.length_cons] at whole
      omega
    · cases found
  · cases found

/-- A text that says that a property is not known is longer than what is told of it. -/
theorem length_of_unknownProperty {text name : List Char} (found : unknownProperty? text = some name) :
    unknownLead.length + 1 + name.length + 1 + unknownTail.length ≤ text.length := by
  induction text with
  | nil => cases found
  | cons c rest ih =>
    rw [unknownProperty?, Option.or_eq_some_iff] at found
    rcases found with here | ⟨_, later⟩
    · exact length_of_unknownHere here
    · exact Nat.le_succ_of_le (ih later)

theorem shorten_of_none {text : String} (none : unknownProperty? text.toList = none) : shorten text = text := by
  rw [shorten, none]

theorem shorten_of_some {text : String} {name : List Char} (found : unknownProperty? text.toList = some name) :
    shorten text = "Unknown property: " ++ String.ofList name := by
  rw [shorten, found]

/-- A text is told as it is exactly if it does not say that a property is not known. -/
theorem shorten_eq_self_iff {text : String} : shorten text = text ↔ unknownProperty? text.toList = none := by
  refine ⟨fun same => ?_, shorten_of_none⟩
  cases found : unknownProperty? text.toList with
  | none => rfl
  | some name =>
    rw [shorten_of_some found] at same
    have bound := length_of_unknownProperty found
    have length := congrArg (fun s : String => s.toList.length) same
    have words : "Unknown property: ".toList.length = 18 ∧ unknownLead.length = 23 ∧ unknownTail.length = 8 := by
      decide
    simp only [String.toList_append, List.length_append, String.toList_ofList] at length
    omega

end Shortening

/-- Whether what is said of a failure is what is told of it in short. It is said of the failure itself, without being
shortened, or its cause is told in the same words. -/
def Report.SpeaksForItself (r : Report) : Prop :=
  match r.cause with
  | some cause => r.message = shorten cause
  | none => (r.message ≠ "" ∨ r.isMarked = true) ∧ unknownProperty? r.message.toList = none

theorem Report.message_eq_iff (r : Report) : r.message = r.explanation?.getD "None" ↔ r.SpeaksForItself := by
  obtain ⟨message, _ | cause, marked⟩ := r
  · by_cases empty : message = ""
    · subst empty
      cases marked <;> simp [explanation?, SpeaksForItself, shorten, unknownProperty?]
    · simp only [explanation?, SpeaksForItself]
      rw [eq_comm]
      simp [empty, shorten_eq_self_iff]
  · simp [explanation?, SpeaksForItself]

theorem Report.explanation_of_unknown {r : Report} {name : String}
    (known : (unknownProperty? (r.cause.getD r.message).toList).map String.ofList = some name) :
    r.explanation? = some ("Unknown property: " ++ name) := by
  obtain ⟨chars, found, rfl⟩ := Option.map_eq_some_iff.mp known
  obtain ⟨message, _ | cause, marked⟩ := r
  · have some : message ≠ "" := by
      rintro rfl
      cases found
    simpa [explanation?, some] using shorten_of_some found
  · simpa [explanation?] using shorten_of_some found

namespace Trouble

/-- A trouble in words of its own, if it is not one with a document. Trouble with a text has no cause. -/
def report? : Trouble → Option Report
  | markup text failure => (failure.message? text).map fun message => ⟨message, none, isMarkup failure⟩
  | schema _ => none
  | encoding fault => some ⟨fault.message, none, false⟩
  | closed => some ⟨closedMessage, none, false⟩
  | reported _ _ report => some report

/-- What is told of a trouble in short. -/
def explanation? : Trouble → Option String
  | schema faults => some (Document.faultsMessage faults)
  | t => t.report?.bind Report.explanation?

/-- The property that a trouble, or else its cause, says is not known. -/
def unknown? : Trouble → Option String
  | schema faults => faults.findSome? Document.SchemaFault.unknownKey?
  | t => t.report?.bind fun r => (unknownProperty? (r.cause.getD r.message).toList).map String.ofList

/-- Whether a trouble is one with the form of a text or of a document. -/
def IsOfForm : Trouble → Prop
  | markup _ failure => isMarkup failure = true
  | schema _ => True
  | reported _ reach _ => reach = .markup
  | encoding _ | closed => False

/-- Whether what is told of a trouble is what is told of it in short. That is so of trouble with the form, and of what
speaks for itself. -/
def IsExplained (t : Trouble) : Prop := t.IsOfForm ∨ ∀ r ∈ t.report?, r.SpeaksForItself

theorem explanation_of_report {t : Trouble} {r : Report} (report : t.report? = some r) :
    t.explanation? = r.explanation? := by
  cases t with
  | schema faults => cases report
  | _ => rw [explanation?, report, Option.bind_some]; nofun

/-- Trouble with the form is told in short; all other trouble is told in full. -/
theorem wording_cases {t : Trouble} {wording : String} (worded : t.wording? = some wording) :
    (t.IsOfForm ∧ wording = t.explanation?.getD "None") ∨
      ¬t.IsOfForm ∧ ∃ r, t.report? = some r ∧ wording = r.message := by
  cases t with
  | markup text failure =>
    cases said : failure.message? text with
    | none => simp [wording?, said] at worded
    | some message =>
      have report : (markup text failure).report? = some ⟨message, none, isMarkup failure⟩ := by simp [report?, said]
      by_cases form : isMarkup failure = true
      · refine Or.inl ⟨form, ?_⟩
        rw [wording?, if_pos form, said] at worded
        rw [explanation_of_report report, form]
        simpa [Report.explanation?] using worded.symm
      · rw [wording?, if_neg form, said] at worded
        exact Or.inr ⟨form, _, report, (Option.some.inj worded).symm⟩
  | schema faults => exact Or.inl ⟨trivial, (Option.some.inj worded).symm⟩
  | encoding fault => exact Or.inr ⟨id, _, rfl, (Option.some.inj worded).symm⟩
  | closed => exact Or.inr ⟨id, _, rfl, (Option.some.inj worded).symm⟩
  | reported name reach report =>
    cases reach with
    | markup => exact Or.inl ⟨rfl, (Option.some.inj worded).symm⟩
    | item => exact Or.inr ⟨by simp [IsOfForm], report, rfl, (Option.some.inj worded).symm⟩
    | all => cases worded

theorem wording_eq_iff {t : Trouble} {wording : String} (worded : t.wording? = some wording) :
    wording = t.explanation?.getD "None" ↔ t.IsExplained := by
  rcases wording_cases worded with ⟨form, same⟩ | ⟨other, r, report, rfl⟩
  · exact iff_of_true same (Or.inl form)
  · rw [explanation_of_report report, Report.message_eq_iff, IsExplained, report]
    simp [other]

/-- What is told in short of trouble that says that a property is not known is its name. -/
theorem explanation_of_unknown {t : Trouble} {name : String} (unknown : t.unknown? = some name) :
    t.explanation? = some ("Unknown property: " ++ name) := by
  cases t with
  | schema faults =>
    rw [unknown?] at unknown
    simp [explanation?, Document.faultsMessage, unknown]
  | _ =>
    rw [unknown?, Option.bind_eq_some_iff] at unknown
    · obtain ⟨r, report, known⟩ := unknown
      rw [explanation_of_report report]
      exact Report.explanation_of_unknown known
    · nofun

end Trouble

/-- An answer is taken in if neither it nor one before it is the end or lets its trouble through. -/
theorem Answer.lt_length_of_goesOn {taken rest : List Answer} {k : Nat} (within : k < (taken ++ rest).length)
    (goesOn : ∀ b ∈ (taken ++ rest).take (k + 1), ¬b.Ends ∧ ∀ u, ¬b.LetsThrough u)
    (ending : rest = [] ∨ ∃ b after, rest = b :: after ∧ (b.Ends ∨ ∃ u, b.LetsThrough u)) : k < taken.length := by
  rcases ending with rfl | ⟨b, after, rfl, stops⟩
  · simpa using within
  · by_contra beyond
    have among : b ∈ (taken ++ b :: after).take (k + 1) := by
      rw [List.take_append, Nat.succ_sub (Nat.le_of_not_lt beyond)]
      simp
    rcases stops with ends | ⟨u, through⟩
    · exact (goesOn b among).1 ends
    · exact (goesOn b among).2 u through

/-- Of each answer that fails and is taken in, what is told is what is told in short, exactly if the trouble is one with
the form, or speaks for itself. -/
theorem explained_iff {reading : Bool} {source : Option String} {prior : Diagnostics} {script : List Answer} {k : Nat}
    {a : Answer} {t : Trouble} (atK : script[k]? = some a)
    (goesOn : ∀ b ∈ script.take (k + 1), ¬b.Ends ∧ ∀ u, ¬b.LetsThrough u) (failed : a.outcomeBy reading = .failed t) :
    ∃ after wording, (stream reading source (some prior) script).log = some after ∧ t.wording? = some wording ∧
      prior.newMessages after (itemIdentity (source.getD "") (k + 1)) =
        ["Error parsing the policy document: " ++ wording] ∧
      (wording = t.explanation?.getD "None" ↔ t.IsExplained) ∧
      ∀ name, t.unknown? = some name → (wording = "Unknown property: " ++ name ↔ t.IsExplained) := by
  obtain ⟨taken, rest, rfl, each, ending⟩ := Answer.exists_taken reading script
  have stops : rest = [] ∨ ∃ b after, rest = b :: after ∧ (b.Ends ∨ ∃ u, b.LetsThrough u) := by
    refine ending.imp_right fun ⟨b, after, first, why⟩ => ⟨b, after, first, why.imp And.left ?_⟩
    exact fun ⟨u, through, _⟩ => ⟨u, through⟩
  have within := Answer.lt_length_of_goesOn (List.getElem?_eq_some_iff.mp atK).1 goesOn stops
  rw [List.getElem?_append_left within] at atK
  obtain ⟨continues, -⟩ := each a (List.mem_of_getElem? atK)
  obtain ⟨trouble, same, -⟩ := exists_stream_eq source (fun a member => (each a member).1) ending
  have outcome : (taken.map (Answer.outcomeBy reading))[k]? = some (a.outcomeBy reading) := by simp [atK]
  have messages := @newMessages_notesFrom (source.getD "") _ _ _ prior outcome
  rw [failed] at continues messages
  cases worded : t.wording? with
  | none => simp [Outcome.reception, worded, Reception.continues] at continues
  | some wording =>
    simp only [Outcome.reception, worded, Reception.messages] at messages
    refine ⟨_, wording, by rw [same]; rfl, rfl, messages, Trouble.wording_eq_iff worded, fun name unknown => ?_⟩
    rw [← Trouble.wording_eq_iff worded, Trouble.explanation_of_unknown unknown]
    rfl

/-- A failure to run, in words that say that a property is not known. -/
def unknownPropertyFailure : Answer :=
  .interrupted ⟨"RuntimeError", [.operation], ⟨"Unable to find property 'foo' on class: PolicyDoc", none, false⟩⟩

/-- A failure of the form, in the same words. -/
def unknownPropertyMarkup : Answer :=
  .interrupted ⟨"YAMLError", [.markup], ⟨"Unable to find property 'foo' on class: PolicyDoc", none, false⟩⟩

theorem unknownPropertyMarkup_explained :
    ∃ after wording, (stream false none (some .empty) [unknownPropertyMarkup]).log = some after ∧
      Diagnostics.empty.newMessages after "[1]" = ["Error parsing the policy document: " ++ wording] ∧
      wording = "Unknown property: 'foo'" := by
  have goesOn : ∀ b ∈ [unknownPropertyMarkup].take 1, ¬b.Ends ∧ ∀ u, ¬b.LetsThrough u := by
    intro b member
    obtain rfl : b = unknownPropertyMarkup := by simpa using member
    refine ⟨by simp [unknownPropertyMarkup, Answer.Ends], fun u through => ?_⟩
    cases through with
    | interrupted unforeseen => exact unforeseen .markup (by simp)
  obtain ⟨after, wording, log, -, told, -, unknown⟩ :=
    @explained_iff false none .empty [unknownPropertyMarkup] 0 _ _ rfl goesOn rfl
  exact ⟨after, wording, log, told, (unknown "'foo'" (by decide +kernel)).mpr (Or.inl rfl)⟩

/-- A failure to run that says that a property is not known is told in full. -/
theorem unknownPropertyFailure_unexplained :
    ∃ t after, unknownPropertyFailure.outcomeBy false = .failed t ∧
      (stream false (some "s") (some .empty) [unknownPropertyFailure]).log = some after ∧
      t.explanation? = some "Unknown property: 'foo'" ∧
      Diagnostics.empty.newMessages after "s[1]" =
        ["Error parsing the policy document: Unable to find property 'foo' on class: PolicyDoc"] :=
  ⟨_, _, rfl, rfl, by decide +kernel, by decide +kernel⟩

end AccessPolicy.Source

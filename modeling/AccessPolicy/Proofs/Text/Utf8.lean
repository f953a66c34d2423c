import AccessPolicy.Proofs.Conditions
import AccessPolicy.Text.Utf8
import Mathlib.Tactic.SplitIfs

namespace AccessPolicy.Text

/-- What bytes start with. -/
def stepAt (b : UInt8) (rest : List UInt8) : Utf8Step := utf8Step b.toNat (rest.take 3 |>.map UInt8.toNat)

/-- Whether bytes start with so many characters, and some bytes are left behind them. -/
inductive Decodes : List UInt8 → List Char → List UInt8 → Prop
  | done (bytes : List UInt8) : Decodes bytes [] bytes
  | char {b : UInt8} {rest left : List UInt8} {c : Char} {size : Nat} {chars : List Char}
      (here : stepAt b rest = .char c size) (more : Decodes (rest.drop (size - 1)) chars left) :
      Decodes (b :: rest) (c :: chars) left

/-- A sequence that does not stop short is what it is whatever follows. -/
theorem utf8Step_append (first : Nat) (rest : List Nat) :
    utf8Step first rest = .short ∨ ∀ more, utf8Step first (rest ++ more) = utf8Step first rest := by
  unfold utf8Step
  by_cases ascii : first < 0x80
  · exact .inr fun more => by rw [if_pos ascii, if_pos ascii]
  by_cases low : first < 0xC2
  · exact .inr fun more => by simp only [ascii, low, if_true, if_false]
  by_cases two : first < 0xE0
  · simp only [ascii, low, two, if_true, if_false]
    cases rest with
    | nil => exact .inl rfl
    | cons b rest => exact .inr fun more => rfl
  by_cases three : first < 0xF0
  · simp only [ascii, low, two, three, if_true, if_false]
    match rest with
    | [] => exact .inl rfl
    | [b] =>
      by_cases second : isSecond first b = true
      · exact .inl (by simp [second])
      · exact .inr fun more => by cases more <;> simp [second]
    | b :: c :: rest => exact .inr fun more => rfl
  by_cases four : first < 0xF5
  · simp only [ascii, low, two, three, four, if_true, if_false]
    match rest with
    | [] => exact .inl rfl
    | [b] =>
      by_cases second : isSecond first b = true
      · exact .inl (by simp [second])
      · exact .inr fun more => by rcases more with _ | ⟨c, _ | ⟨d, more⟩⟩ <;> simp [second]
    | [b, c] =>
      by_cases second : isSecond first b = true
      · by_cases third : isContinuation c = true
        · exact .inl (by simp [second, third])
        · exact .inr fun more => by cases more <;> simp [second, third]
      · exact .inr fun more => by cases more <;> simp [second]
    | b :: c :: d :: rest => exact .inr fun more => rfl
  · exact .inr fun more => by simp only [ascii, low, two, three, four, if_false]

/-- The bytes of a character are there. -/
theorem size_of_utf8Step {first : Nat} {rest : List Nat} {c : Char} {size : Nat}
    (here : utf8Step first rest = .char c size) : size - 1 ≤ rest.length := by
  unfold utf8Step at here
  split_ifs at here
  · cases here
    exact Nat.zero_le _
  · split at here
    · cases here
    · split at here <;> cases here
      simp
  · split at here
    · cases here
    · split at here <;> cases here
    · split at here
      · cases here
      · split at here <;> cases here
        simp
  · split at here
    · cases here
    · split at here <;> cases here
    · split at here
      · cases here
      · split at here <;> cases here
    · split at here
      · cases here
      · split at here
        · cases here
        · split at here <;> cases here
          simp

theorem stepAt_append (b : UInt8) (rest : List UInt8) :
    stepAt b rest = .short ∨ ∀ more, stepAt b (rest ++ more) = stepAt b rest := by
  refine (utf8Step_append b.toNat (rest.take 3 |>.map UInt8.toNat)).imp_right fun same more => ?_
  rw [stepAt, List.take_append, List.map_append, same]
  rfl

theorem size_of_stepAt {b : UInt8} {rest : List UInt8} {c : Char} {size : Nat} (here : stepAt b rest = .char c size) :
    size - 1 ≤ rest.length := by
  have taken := size_of_utf8Step here
  rw [List.length_map, List.length_take] at taken
  omega

variable {bytes left left' : List UInt8} {chars chars' : List Char}

namespace Decodes

theorem append (decodes : Decodes bytes chars left) (more : List UInt8) :
    Decodes (bytes ++ more) chars (left ++ more) := by
  induction decodes with
  | done bytes => exact .done _
  | @char b rest left c size chars here _ ih =>
    have same := (stepAt_append b rest).resolve_left (by simp [here]) more
    have behind : (rest ++ more).drop (size - 1) = rest.drop (size - 1) ++ more :=
      List.drop_append_of_le_length (size_of_stepAt here)
    exact .char (same.trans here) (behind ▸ ih)

theorem trans (first : Decodes bytes chars left) (second : Decodes left chars' left') :
    Decodes bytes (chars ++ chars') left' := by
  induction first with
  | done bytes => exact second
  | char here _ ih => exact .char here (ih second)

/-- Of two readings of the same bytes one goes on where the other stops. -/
theorem comparable (first : Decodes bytes chars left) (second : Decodes bytes chars' left') :
    (∃ more, chars' = chars ++ more ∧ Decodes left more left') ∨
      ∃ more, chars = chars' ++ more ∧ Decodes left' more left := by
  induction first generalizing chars' left' with
  | done bytes => exact .inl ⟨chars', rfl, second⟩
  | char here further ih =>
    cases second with
    | done bytes => exact .inr ⟨_, rfl, .char here further⟩
    | char there further' =>
      obtain ⟨rfl, rfl⟩ := Utf8Step.char.inj (here.symm.trans there)
      rcases ih further' with ⟨more, rfl, goesOn⟩ | ⟨more, rfl, goesOn⟩
      · exact .inl ⟨more, rfl, goesOn⟩
      · exact .inr ⟨more, rfl, goesOn⟩

end Decodes

/-- Bytes that start with a sequence that stops short. -/
inductive IsShort : List UInt8 → Prop
  | intro {b : UInt8} {rest : List UInt8} (here : stepAt b rest = .short) : IsShort (b :: rest)

/-- Bytes that start with a sequence that is broken. -/
inductive IsBroken : List UInt8 → Prop
  | intro {b : UInt8} {rest : List UInt8} {count : Nat} {reason : Utf8Reason}
      (here : stepAt b rest = .broken count reason) : IsBroken (b :: rest)

/-- Bytes that are there, but start with no character. -/
def IsStuck (bytes : List UInt8) : Prop := IsShort bytes ∨ IsBroken bytes

theorem IsBroken.append (broken : IsBroken bytes) (more : List UInt8) : IsBroken (bytes ++ more) := by
  obtain @⟨b, rest, count, reason, here⟩ := broken
  exact .intro (((stepAt_append b rest).resolve_left (by simp [here]) more).trans here)

theorem IsBroken.not_short (broken : IsBroken bytes) : ¬IsShort bytes := by
  rintro ⟨there⟩
  obtain ⟨here⟩ := broken
  simp [here] at there

theorem IsStuck.ne_nil (stuck : IsStuck bytes) : bytes ≠ [] := by
  rcases stuck with short | broken
  · cases short
    simp
  · cases broken
    simp

/-- No character can be read where bytes end, stop short or are broken. -/
theorem Decodes.eq_nil_of_stuck (decodes : Decodes bytes chars left) (stops : bytes = [] ∨ IsStuck bytes) :
    chars = [] ∧ left = bytes := by
  cases decodes with
  | done bytes => exact ⟨rfl, rfl⟩
  | char here _ =>
    rcases stops with nothing | short | broken
    · cases nothing
    · cases short with
      | intro there => simp [here] at there
    · cases broken with
      | intro there => simp [here] at there

/-- Bytes can be read up to one place only. -/
theorem Decodes.unique (first : Decodes bytes chars left) (second : Decodes bytes chars' left')
    (stops : left = [] ∨ IsStuck left) (stops' : left' = [] ∨ IsStuck left') : chars = chars' ∧ left = left' := by
  rcases first.comparable second with ⟨more, rfl, goesOn⟩ | ⟨more, rfl, goesOn⟩
  · obtain ⟨rfl, rfl⟩ := goesOn.eq_nil_of_stuck stops
    simp
  · obtain ⟨rfl, rfl⟩ := goesOn.eq_nil_of_stuck stops'
    simp

/-- What can be read before bytes that are no character is the start of what can be read at all. -/
theorem Decodes.isPrefix_of_stuck (first : Decodes bytes chars left) (second : Decodes bytes chars' left')
    (stops : left' = [] ∨ IsStuck left') : chars <+: chars' := by
  rcases first.comparable second with ⟨more, rfl, _⟩ | ⟨more, rfl, goesOn⟩
  · exact List.prefix_append ..
  · obtain ⟨rfl, _⟩ := goesOn.eq_nil_of_stuck stops
    simp

/-- Reading goes on up to the end, to a sequence that stops short, or to one that is broken. -/
theorem meets_readUtf8 (position : Nat) (read : List Char) {steps : Nat} (enough : bytes.length ≤ steps) :
    Meets (fun r => ∃ new, r.1 = read.reverse ++ new ∧ Decodes bytes new r.2 ∧ (r.2 = [] ∨ IsShort r.2))
      (fun _ => ∃ new left, Decodes bytes new left ∧ IsBroken left) (readUtf8 position read steps bytes) := by
  induction steps generalizing bytes position read with
  | zero =>
    obtain rfl : bytes = [] := List.length_eq_zero_iff.mp (Nat.le_zero.mp enough)
    exact ⟨[], by simp, .done [], .inl rfl⟩
  | succ steps ih =>
    cases bytes with
    | nil => exact ⟨[], by simp, .done [], .inl rfl⟩
    | cons b rest =>
      rw [readUtf8, ← stepAt]
      cases here : stepAt b rest with
      | char c size =>
        have fewer : (rest.drop (size - 1)).length ≤ steps := by
          rw [List.length_drop]
          rw [List.length_cons] at enough
          omega
        have further := ih (position + size) (c :: read) fewer
        dsimp only
        cases result : readUtf8 (position + size) (c :: read) steps (rest.drop (size - 1)) with
        | ok r =>
          obtain ⟨new, text, decodes, stops⟩ := further.of_ok result
          exact ⟨c :: new, by simp [text], .char here decodes, stops⟩
        | error fault =>
          obtain ⟨new, left, decodes, broken⟩ := further.of_error result
          exact ⟨c :: new, left, .char here decodes, broken⟩
      | broken count reason => exact ⟨[], b :: rest, .done _, .intro here⟩
      | short => exact ⟨[], by simp, .done _, .inr (.intro here)⟩

theorem meets_decodePart (bytes : List UInt8) :
    Meets (fun r => Decodes bytes r.1 r.2 ∧ (r.2 = [] ∨ IsShort r.2))
      (fun _ => ∃ chars left, Decodes bytes chars left ∧ IsBroken left) (decodePart bytes) := by
  refine (meets_readUtf8 0 [] (Nat.le_refl _)).mono fun r ⟨new, text, decodes, stops⟩ => ?_
  obtain rfl : r.1 = new := text
  exact ⟨decodes, stops⟩

/-- A part of bytes is read exactly if nothing in it is broken. -/
theorem decodePart_eq_ok_iff :
    decodePart bytes = .ok (chars, left) ↔ Decodes bytes chars left ∧ (left = [] ∨ IsShort left) := by
  refine ⟨(meets_decodePart bytes).of_ok, fun ⟨decodes, stops⟩ => ?_⟩
  cases result : decodePart bytes with
  | ok r =>
    obtain ⟨decodes', stops'⟩ := (meets_decodePart bytes).of_ok result
    obtain ⟨same, same'⟩ := decodes.unique decodes' (stops.imp_right .inl) (stops'.imp_right .inl)
    rw [same, same']
  | error fault =>
    obtain ⟨chars', left', decodes', broken⟩ := (meets_decodePart bytes).of_error result
    obtain ⟨_, rfl⟩ := decodes.unique decodes' (stops.imp_right .inl) (.inr (.inr broken))
    rcases stops with rfl | short
    · cases broken
    · exact absurd short broken.not_short

theorem exists_fault_of_isBroken (decodes : Decodes bytes chars left) (broken : IsBroken left) :
    ∃ fault, decodePart bytes = .error fault := by
  cases result : decodePart bytes with
  | ok r =>
    obtain ⟨decodes', stops⟩ := (meets_decodePart bytes).of_ok result
    obtain ⟨_, rfl⟩ := decodes.unique decodes' (.inr (.inr broken)) (stops.imp_right .inl)
    rcases stops with nothing | short
    · rw [nothing] at broken
      cases broken
    · exact absurd short broken.not_short
  | error fault => exact ⟨fault, rfl⟩

/-- Bytes are read exactly if they are characters to the end. -/
theorem decode_eq_ok_iff : decode bytes = .ok chars ↔ Decodes bytes chars [] := by
  have whole : decode bytes = .ok chars ↔ decodePart bytes = .ok (chars, []) := by
    unfold decode
    cases decodePart bytes with
    | ok r =>
      obtain ⟨chars', left⟩ := r
      cases left with
      | nil => simp [bind, Except.bind, pure, Except.pure]
      | cons b short => simp [bind, Except.bind, throw, throwThe, MonadExceptOf.throw]
    | error fault => simp [bind, Except.bind]
  rw [whole, decodePart_eq_ok_iff]
  simp

end AccessPolicy.Text

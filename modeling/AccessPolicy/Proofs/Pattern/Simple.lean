import AccessPolicy.Pattern

namespace AccessPolicy.Pattern

/-- The characters that have a meaning of their own, short of the full stop. -/
def specials : List Char := ['\\', '|', ')', '[', '*', '+', '?', '\x7b', '^', '$', '(']

/-- Whether a character of a pattern stands for one character, whatever is around it. -/
def isSimple (c : Char) : Bool := !specials.contains c

/-- The part that such a character makes. -/
def simplePart (c : Char) : Node := if c == '.' then .any false else .char .exact c.toNat

theorem ne_of_isSimple {c : Char} (simple : isSimple c = true) : ∀ special ∈ specials, c ≠ special := by
  rintro special member rfl
  simp [isSimple, member] at simple

theorem tokens_cons {c : Char} {rest : List Char} {position : Nat} (simple : isSimple c = true) :
    tokens position (c :: rest) = .plain position c :: tokens (position + 1) rest := by
  have other := ne_of_isSimple simple '\\' (by decide)
  rw [tokens]
  · exact fun same => absurd same other
  · exact fun _ _ same => absurd same other

section Reading

variable {α β : Type} {x : Reader α} {f : α → Reader β} {a : α} {s s' : Progress}

theorem bind_eq (first : x s = .ok (a, s')) : (x >>= f) s = f a s' := by
  change StateT.bind x f s = f a s'
  rw [StateT.bind, first]
  rfl

theorem peek_eq : peek s = .ok (s.left.head?, s) := rfl

theorem get_eq : (get : Reader Progress) s = .ok (s, s) := rfl

theorem resume_eq {left : List Token} (proper : ∀ position, left.head? ≠ some (.dangling position)) :
    resume left s = .ok ((), { s with left }) := by
  unfold resume
  cases head : left.head? with
  | none => rfl
  | some token =>
    cases token with
    | plain | escape => rfl
    | dangling position => exact absurd head (proper position)

theorem take_eq {token : Token} {rest : List Token} (left : s.left = token :: rest)
    (proper : ∀ position, rest.head? ≠ some (.dangling position)) :
    take s = .ok (some token, { s with left := rest }) := by
  rw [take, bind_eq get_eq, left]
  exact bind_eq (resume_eq proper)

theorem accept_none {c : Char} (left : s.left = []) : accept c s = .ok (false, s) := by
  rw [accept, bind_eq peek_eq, left]
  rfl

theorem charNode_exact (n : Nat) : charNode [] n = .char .exact n := rfl

theorem sequence_cons {c : Char} {position fuel : Nat} {top : Bool} {parts : List Node} {rest : List Token}
    (simple : isSimple c = true) (left : s.left = .plain position c :: rest)
    (proper : ∀ position, rest.head? ≠ some (.dangling position)) (flags : s.flags = []) :
    sequence (fuel + 1) top parts s = sequence fuel top (simplePart c :: parts) { s with left := rest } := by
  have others := ne_of_isSimple simple
  simp only [specials, List.forall_mem_cons] at others
  obtain ⟨_, bar, closing, square, star, plus, question, curly, caret, dollar, round, -⟩ := others
  have goesOn : (Token.plain position c).isAmong ['|', ')'] = false := by
    simp [Token.isAmong, bar, closing]
  rw [sequence, bind_eq peek_eq, left]
  simp only [List.head?_cons, goesOn, Bool.false_eq_true, if_false]
  rw [bind_eq (take_eq left proper), bind_eq get_eq, flags]
  -- No branch is left but those of the full stop and of a character that stands for itself.
  by_cases stop : c = '.'
  · subst stop
    rfl
  · simp [square, star, plus, question, curly, caret, dollar, round, stop, simplePart, charNode_exact]

theorem flatten_parts (source : List Char) : flatten (source.map simplePart) = source.map simplePart := by
  have leaf : ∀ c, flatten [simplePart c] = [simplePart c] := by
    intro c
    unfold simplePart
    split <;> rfl
  induction source with
  | nil => rfl
  | cons c rest ih =>
    rw [List.map_cons, ← List.singleton_append, flatten, List.flatMap_append]
    exact congr (congrArg _ (leaf c)) ih

theorem head?_tokens {source : List Char} (simple : ∀ c ∈ source, isSimple c = true) (position place : Nat) :
    (tokens position source).head? ≠ some (.dangling place) := by
  cases source with
  | nil => simp [tokens]
  | cons c rest =>
    simp [tokens_cons (simple c (List.mem_cons_self ..))]

theorem sequence_simple {source : List Char} (simple : ∀ c ∈ source, isSimple c = true) {position fuel : Nat}
    {top : Bool} {parts : List Node} (enough : source.length ≤ fuel) (left : s.left = tokens position source)
    (flags : s.flags = []) :
    sequence fuel top parts s = .ok (flatten (parts.reverse ++ source.map simplePart), { s with left := [] }) := by
  induction source generalizing s position fuel parts with
  | nil =>
    obtain ⟨_, _, _, _, _, _, _⟩ := s
    obtain rfl := left
    rw [List.map_nil, List.append_nil]
    cases fuel with
    | zero => rw [sequence]; rfl
    | succ fuel => rw [sequence, bind_eq peek_eq]; rfl
  | cons c rest ih =>
    obtain ⟨first, later⟩ := List.forall_mem_cons.mp simple
    rw [tokens_cons first] at left
    obtain ⟨fuel, rfl⟩ : ∃ n, fuel = n + 1 := ⟨fuel - 1, by simp at enough; omega⟩
    have more := @ih { s with left := tokens (position + 1) rest } later (position + 1) fuel (simplePart c :: parts)
      (by simpa using enough) rfl flags
    rw [sequence_cons first left (head?_tokens later _) flags, more]
    simp

theorem length_tokens {source : List Char} (simple : ∀ c ∈ source, isSimple c = true) (position : Nat) :
    (tokens position source).length = source.length := by
  induction source generalizing position with
  | nil => rfl
  | cons c rest ih =>
    obtain ⟨first, later⟩ := List.forall_mem_cons.mp simple
    rw [tokens_cons first, List.length_cons, ih later, List.length_cons]

theorem alternatives_simple {source : List Char} (simple : ∀ c ∈ source, isSimple c = true) {position fuel : Nat}
    {top : Bool} (enough : source.length < fuel) (left : s.left = tokens position source) (flags : s.flags = []) :
    alternatives fuel top s = .ok (source.map simplePart, { s with left := [] }) := by
  obtain ⟨fuel, rfl⟩ : ∃ n, fuel = n + 1 := ⟨fuel - 1, by omega⟩
  have more : moreAlternatives fuel { s with left := [] } = .ok ([], { s with left := [] }) := by
    cases fuel with
    | zero => rw [moreAlternatives]; rfl
    | succ fuel => rw [moreAlternatives, bind_eq (accept_none rfl)]; rfl
  rw [alternatives, bind_eq (sequence_simple simple (by omega) left flags), bind_eq more, bind_eq get_eq,
    List.reverse_nil, List.nil_append, flatten_parts]
  rfl

theorem totalWidth_parts (groups : List (Option Width)) (source : List Char) :
    (totalWidth groups (source.map simplePart)).least = source.length := by
  induction source with
  | nil => rfl
  | cons c rest ih =>
    have one : ((simplePart c).width groups).least = 1 := by
      unfold simplePart
      split <;> rfl
    rw [List.map_cons, totalWidth, Width.add, ih, one, List.length_cons, Nat.add_comm]

theorem firstDefect?_parts (template : Bool) (source : List Char) :
    firstDefect? template (source.map simplePart) = none := by
  induction source with
  | nil => rfl
  | cons c rest ih =>
    have none : (simplePart c).defect? template = none := by
      unfold simplePart
      split <;> rfl
    rw [List.map_cons, firstDefect?, none, ih]
    rfl

theorem anyMistaken_parts (source : List Char) : anyMistaken (source.map simplePart) = false := by
  induction source with
  | nil => rfl
  | cons c rest ih =>
    have none : (simplePart c).isMistaken = false := by
      unfold simplePart
      split <;> rfl
    rw [List.map_cons, anyMistaken, none, ih]
    rfl

theorem read_simple {source : List Char} (simple : ∀ c ∈ source, isSimple c = true) :
    read source = .ok ⟨.seq (source.map simplePart), min source.length (countLimit - 1)⟩ := by
  have body : alternatives (4 * source.length + 4) true ⟨tokens 0 source, source.length, [], [], none, [], []⟩ =
      .ok (source.map simplePart, ⟨[], source.length, [], [], none, [], []⟩) :=
    alternatives_simple simple (by omega) rfl rfl
  have result : whole source.length ⟨tokens 0 source, source.length, [], [], none, [], []⟩ =
      .ok (⟨.seq (source.map simplePart), min source.length (countLimit - 1)⟩,
        ⟨[], source.length, [], [], none, [], []⟩) := by
    have wrapped := congrArg (Except.map fun r : List Node × Progress => (Node.seq r.1, r.2)) body
    rw [whole, bind_eq get_eq, bind_eq (resume_eq (head?_tokens simple 0)),
      bind_eq (x := Node.seq <$> alternatives _ _) wrapped, bind_eq get_eq]
    simp [Node.defect?, firstDefect?_parts, Node.isMistaken, anyMistaken_parts, Node.width, Width.cut, totalWidth_parts]
    rfl
  rw [read, length_tokens simple, StateT.run', result]
  rfl

end Reading

section Matching

/-- Whether a text is another one, with any one character, but no end of a line, where that has a full stop. -/
def resembles : List Char → List Char → Bool
  | [], [] => true
  | c :: source, d :: text => (d == c || c == '.' && d != '\n') && resembles source text
  | _, _ => false

theorem resembles_self (source : List Char) : resembles source source = true := by
  induction source with
  | nil => rfl
  | cons c rest ih => simp [resembles, ih]

theorem length_eq_of_resembles {source text : List Char} (alike : resembles source text = true) :
    text.length = source.length := by
  induction source generalizing text with
  | nil => cases text with
    | nil => rfl
    | cons => cases alike
  | cons c rest ih => cases text with
    | nil => cases alike
    | cons d text =>
      simp only [resembles, Bool.and_eq_true] at alike
      rw [List.length_cons, List.length_cons, ih alike.2]

/-- Without full stops a text resembles only itself. -/
theorem resembles_iff_eq {source text : List Char} (noStop : '.' ∉ source) :
    resembles source text = true ↔ text = source := by
  refine ⟨fun alike => ?_, fun same => same ▸ resembles_self source⟩
  induction source generalizing text with
  | nil => cases text with
    | nil => rfl
    | cons => cases alike
  | cons c rest ih => cases text with
    | nil => cases alike
    | cons d text =>
      obtain ⟨notHere, notLater⟩ : '.' ≠ c ∧ '.' ∉ rest := by simpa using noStop
      simp only [resembles, Bool.and_eq_true, Bool.or_eq_true, beq_iff_eq] at alike
      obtain ⟨same | stop, later⟩ := alike
      · rw [same, ih notLater later]
      · exact absurd stop.1.symm notHere

theorem toNat_beq (c d : Char) : (d.toNat == c.toNat) = (d == c) := by
  rw [Bool.eq_iff_iff, beq_iff_eq, beq_iff_eq]
  exact Char.toNat_inj

/-- A part goes on behind the next character if it stands for that. -/
theorem run_simplePart {text : Array Char} {c : Char} {inside : Bool} {next : Lead} {rest : Rest} :
    (simplePart c).run text inside next rest = takeOne text (fun d => d == c || c == '.' && d != '\n') rest := by
  unfold simplePart
  split
  · rename_i stop
    obtain rfl : c = '.' := by simpa using stop
    rw [Node.run]
    refine congrArg (takeOne text · rest) (funext fun d => ?_)
    by_cases same : d = '.' <;> simp [same]
  · rename_i noStop
    rw [Node.run]
    refine congrArg (takeOne text · rest) (funext fun d => ?_)
    simp [Fold.isChar, toNat_beq, noStop]

/-- Parts in a row come to the end of the text exactly if what is left of the text resembles what they are made of. -/
theorem runAll_simplePart {text : Array Char} {source : List Char} {next : Lead} {p place : Nat}
    (within : p ≤ text.size) :
    ∃ place', runAll text (source.map simplePart) false next (atEnd text) p ⟨[], place⟩ =
      (resembles source (text.toList.drop p), ⟨[], place'⟩) := by
  induction source generalizing p with
  | nil =>
    rw [List.map_nil, runAll, atEnd]
    split
    · rename_i ends
      obtain rfl : p = text.size := by simpa using ends
      have drop : text.toList.drop text.size = [] := by simp
      exact ⟨text.size, by rw [drop]; rfl⟩
    · rename_i goesOn
      have more : p < text.toList.length := by
        rw [Array.length_toList]
        simp at goesOn
        omega
      exact ⟨place, by rw [List.drop_eq_getElem_cons more]; rfl⟩
  | cons c rest ih =>
    rw [List.map_cons, runAll, run_simplePart, takeOne]
    cases ahead : text[p]? with
    | none =>
      have ends : text.size ≤ p := Array.getElem?_eq_none_iff.mp ahead
      exact ⟨place, by simp [List.drop_eq_nil_of_le (by simpa using ends : text.toList.length ≤ p), resembles]⟩
    | some d =>
      obtain ⟨more, rfl⟩ := Array.getElem?_eq_some_iff.mp ahead
      have left : text.toList.drop p = text[p] :: text.toList.drop (p + 1) :=
        List.drop_eq_getElem_cons (by simpa using more)
      rw [left, resembles]
      dsimp only
      cases text[p] == c || c == '.' && text[p] != '\n' with
      | false => exact ⟨place, rfl⟩
      | true => simpa using ih more

/-- A simple pattern fits what resembles it. -/
theorem fits_simple {p : Pattern} (simple : ∀ c ∈ p.source.toList, isSimple c = true) (text : String) :
    p.fits text = .ok (resembles p.source.toList text.toList) := by
  have form : p.form = ⟨.seq (p.source.toList.map simplePart), min p.source.toList.length (countLimit - 1)⟩ :=
    Except.ok.inj (p.denoted.symm.trans (read_simple simple))
  rw [Pattern.fits, form, Form.fits]
  simp only [List.size_toArray]
  split
  · rename_i short
    cases alike : resembles p.source.toList text.toList with
    | false => rfl
    | true =>
      have length := length_eq_of_resembles alike
      omega
  · rw [Node.run]
    obtain ⟨place, run⟩ := @runAll_simplePart text.toList.toArray p.source.toList .unknown 0 0 (Nat.zero_le _)
    rw [run]
    simp only [List.drop_zero]
    cases resembles p.source.toList text.toList <;> rfl

/-- A text that is simple is a pattern. -/
theorem exists_ofText {source : String} (simple : ∀ c ∈ source.toList, isSimple c = true) :
    ∃ p, Pattern.ofText source = .ok p := by
  unfold Pattern.ofText
  split
  · exact ⟨_, rfl⟩
  · rename_i fault failed
    rw [read_simple simple] at failed
    cases failed

end Matching

end AccessPolicy.Pattern

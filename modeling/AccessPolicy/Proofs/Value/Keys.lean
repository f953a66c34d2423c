import AccessPolicy.Proofs.Calendar
import AccessPolicy.Proofs.Decimal.Reading
import AccessPolicy.Proofs.Text.Quoted
import AccessPolicy.Proofs.Value.Sameness

namespace AccessPolicy.Value
open Text

/-- The kind of data other than text that a text is the text of, told by its characters. -/
def kindOfText (s : List Char) : String :=
  if s.head? = some 'N' then "NoneType"
  else if s.head? = some 'T' ∨ s.head? = some 'F' then "bool"
  else if s.head? = some 'b' then "bytes"
  else if ':' ∈ s then "datetime"
  else if '.' ∈ s ∨ 'e' ∈ s ∨ 'n' ∈ s then "float"
  else if '-' ∈ s.tail then "date"
  else "int"

/-- Whether data may be the key of a map: it is neither a collection, nor a number that rounding does not give. -/
def IsKey : Value → Prop
  | list _ | tuple _ | set _ | map _ => False
  | float x => x.IsRounded
  | _ => True

/-- Whether data is a decimal that is no number. -/
def IsNan (v : Value) : Prop := ∃ object, v = float (.nan object)

theorem toList_toString_int (n : Int) :
    (toString n).toList = signMark (decide (n < 0)) ++ Nat.toDigits 10 n.natAbs := by
  cases n with
  | ofNat n =>
    have digits : toString (Int.ofNat n) = n.repr := rfl
    rw [digits, Nat.repr_eq_ofList_toDigits]
    simp [signMark]
  | negSucc n =>
    have digits : toString (Int.negSucc n) = "-" ++ (n + 1).repr := rfl
    rw [digits, Nat.repr_eq_ofList_toDigits]
    simp [signMark]

/-- A text that starts with a digit, behind a sign, is that of a number, a day or a moment. -/
theorem kindOfText_of_digit {negative : Bool} {digit : Char} {rest : List Char} (isDigit : digit.isDigit = true) :
    kindOfText (signMark negative ++ digit :: rest) =
      if ':' ∈ rest then "datetime"
      else if '.' ∈ rest ∨ 'e' ∈ rest ∨ 'n' ∈ rest then "float"
      else if '-' ∈ rest then "date"
      else "int" := by
  have other {c : Char} (letter : c.isDigit = false) : c ≠ digit := by
    rintro rfl
    rw [isDigit] at letter
    cases letter
  have n := other (c := 'N') (by decide)
  have t := other (c := 'T') (by decide)
  have f := other (c := 'F') (by decide)
  have b := other (c := 'b') (by decide)
  have colon := other (c := ':') (by decide)
  have point := other (c := '.') (by decide)
  have e := other (c := 'e') (by decide)
  have small := other (c := 'n') (by decide)
  have minus := other (c := '-') (by decide)
  cases negative <;>
    simp [kindOfText, signMark, n.symm, t.symm, f.symm, b.symm, colon, point, e, small, minus]

theorem kindOfText_int (n : Int) : kindOfText (toString n).toList = "int" := by
  obtain ⟨first, others, written, isDigit, all⟩ := exists_toDigits_cons n.natAbs
  have absent {c : Char} (other : c.isDigit = false) : c ∉ others := not_mem_of_digits all other
  rw [toList_toString_int, written, kindOfText_of_digit isDigit]
  simp [absent (c := ':') (by decide), absent (c := '.') (by decide), absent (c := 'e') (by decide),
    absent (c := 'n') (by decide), absent (c := '-') (by decide)]

theorem exists_padded_cons (width n : Nat) : ∃ first others, (padded width n).toList = first :: others ∧
    first.isDigit = true ∧ ∀ c ∈ others, c.isDigit = true := by
  obtain ⟨first, others, written⟩ := List.exists_cons_of_ne_nil
    (show (padded width n).toList ≠ [] from toList_padded width n ▸ paddedDigits_ne_nil _ _)
  have all : ∀ c ∈ first :: others, c.isDigit = true := by
    rw [← written]
    exact fun c => isDigit_of_mem_padded
  exact ⟨first, others, written, List.forall_mem_cons.mp all⟩

theorem kindOfText_date (d : Date) : kindOfText d.text.toList = "date" := by
  obtain ⟨first, others, written, isDigit, all⟩ := exists_padded_cons 4 d.year
  have absent {width n : Nat} {c : Char} (other : c.isDigit = false) : c ∉ (padded width n).toList :=
    not_mem_of_digits (fun c => isDigit_of_mem_padded) other
  have text : d.text.toList = signMark false ++
      first :: (others ++ '-' :: ((padded 2 d.month).toList ++ '-' :: (padded 2 d.day).toList)) := by
    simp [Date.text, written, signMark]
  have colon := not_mem_of_digits all (c := ':') (by decide)
  have point := not_mem_of_digits all (c := '.') (by decide)
  have e := not_mem_of_digits all (c := 'e') (by decide)
  have n := not_mem_of_digits all (c := 'n') (by decide)
  rw [text, kindOfText_of_digit isDigit]
  simp [colon, point, e, n, absent (c := ':') (by decide), absent (c := '.') (by decide), absent (c := 'e') (by decide),
    absent (c := 'n') (by decide)]

theorem kindOfText_moment (m : Moment) : kindOfText (m.textWith " ").toList = "datetime" := by
  obtain ⟨first, others, written, isDigit, _⟩ := exists_padded_cons 4 m.date.year
  obtain ⟨before, after, text⟩ :
      ∃ before after, (m.textWith " ").toList = signMark false ++ first :: (before ++ ':' :: after) := by
    rw [Moment.toList_textWith]
    refine ⟨others ++ '-' :: ((padded 2 m.date.month).toList ++ '-' :: ((padded 2 m.date.day).toList ++
      ' ' :: (padded 2 m.hour).toList)), (padded 2 m.minute).toList ++ ':' :: ((padded 2 m.second).toList ++
      (microText m.micro ++ zoneText m.offset)), ?_⟩
    simp [Date.text, written, signMark]
  rw [text, kindOfText_of_digit isDigit]
  simp

theorem kindOfText_bytes (b : List UInt8) : kindOfText (quotedBytes b).toList = "bytes" := by
  simp [quotedBytes, kindOfText]

/-- A decimal starts with a digit, and has a point or the mark of an exponent, but no colon. -/
theorem exists_decimalText_cons (n : Nat) (point : Int) : ∃ digit rest,
    Binary64.decimalText (Nat.toDigits 10 n) point = digit :: rest ∧ digit.isDigit = true ∧ ('.' ∈ rest ∨ 'e' ∈ rest) ∧
      ':' ∉ rest := by
  have exponent : ':' ∉ Binary64.exponentText (point - 1) := by
    intro member
    have numeric := isNumeric_exponentText (point - 1) ':' (List.mem_cons_of_mem _ member)
    simp [IsNumeric] at numeric
  obtain ⟨first, others, written, isDigit, all⟩ := exists_toDigits_cons n
  have colon := not_mem_of_digits (List.forall_mem_cons.mpr ⟨isDigit, all⟩) (c := ':') (by decide)
  rw [List.mem_cons, not_or] at colon
  rw [written]
  unfold Binary64.decimalText
  split
  · split
    · exact ⟨'0', '.' :: (List.replicate (-point).toNat '0' ++ first :: others), by simp, rfl, by simp, by simp [colon]⟩
    · split
      · exact ⟨first, others ++ (List.replicate _ '0' ++ ['.', '0']), by simp; rfl, isDigit, by simp, by simp [colon.2]⟩
      · rename_i range before long
        obtain ⟨k, more⟩ : ∃ k, point.toNat = k + 1 := ⟨point.toNat - 1, by omega⟩
        refine ⟨first, others.take k ++ '.' :: others.drop k, by simp [more], isDigit, by simp, ?_⟩
        rw [List.mem_append, List.mem_cons, not_or, not_or]
        exact ⟨fun member => colon.2 (List.mem_of_mem_take member), by decide,
          fun member => colon.2 (List.mem_of_mem_drop member)⟩
  · refine ⟨first, (if (first :: others).length ≤ 1 then [] else '.' :: others) ++
      'e' :: Binary64.exponentText (point - 1), by simp, isDigit, by simp, ?_⟩
    split_ifs <;> simp [colon.2, exponent]

theorem kindOfText_float {x : Binary64} (rounded : x.IsRounded) : kindOfText x.text.toList = "float" := by
  cases x with
  | nan object =>
    rw [Binary64.text]
    decide
  | infinite negative => cases negative <;> decide
  | finite negative m e =>
    rcases Nat.eq_zero_or_pos m with rfl | some
    · obtain rfl : e = Binary64.leastExponent := rounded.2.2.2.resolve_left (by norm_num)
      cases negative <;> decide
    · obtain ⟨n, point, _, shown, _⟩ := Binary64.exists_decimalText rounded some
      obtain ⟨digit, rest, written, isDigit, marked, colon⟩ := exists_decimalText_cons n point
      rw [shown, written, kindOfText_of_digit isDigit]
      rcases marked with point | e
      · simp [colon, point]
      · simp [colon, e]

/-- The text of a key that is no text tells its kind. -/
theorem kindOfText_plain {v : Value} (key : v.IsKey) (other : ∀ s, v ≠ text s) :
    kindOfText v.plain.toList = v.kind := by
  cases v with
  | null => decide
  | bool b => cases b <;> decide
  | int n => exact kindOfText_int n
  | float x => exact kindOfText_float key
  | text s => exact absurd rfl (other s)
  | bytes b => exact kindOfText_bytes b
  | date d => exact kindOfText_date d
  | moment m => exact kindOfText_moment m
  | list | tuple | set | map => exact key.elim

theorem toString_int_inj {m n : Int} (same : toString m = toString n) : m = n := by
  have texts := congrArg (fun s => takeSign s.toList) same
  obtain ⟨first, others, written, isDigit, _⟩ := exists_toDigits_cons m.natAbs
  obtain ⟨first', others', written', isDigit', _⟩ := exists_toDigits_cons n.natAbs
  simp only [toList_toString_int] at texts
  rw [written, written', takeSign_digits isDigit, takeSign_digits isDigit', ← written, ← written', Prod.mk.injEq,
    decide_eq_decide] at texts
  obtain ⟨signs, digits⟩ := texts
  have sizes : m.natAbs = n.natAbs := toDigits_inj digits
  omega

/-- Of two numbers with one text, both are the same or neither is a number. -/
theorem eq_or_nan_of_text_eq {x y : Binary64} (rounded : x.IsRounded) (rounded' : y.IsRounded)
    (same : x.text = y.text) : x = y ∨ (∃ object, x = .nan object) ∧ ∃ object, y = .nan object := by
  have unread (object : Option Nat) : Text.readFloat (Binary64.nan object).text.toList = some Binary64.noNumber := by
    rw [Binary64.text]
    decide +kernel
  by_cases first : ∃ object, x = .nan object <;> by_cases second : ∃ object, y = .nan object
  · exact Or.inr ⟨first, second⟩
  · obtain ⟨object, rfl⟩ := first
    have read := Binary64.readFloat_text rounded' (not_exists.mp second)
    rw [← same, unread] at read
    exact absurd ⟨_, (Option.some.inj read).symm⟩ second
  · obtain ⟨object, rfl⟩ := second
    have read := Binary64.readFloat_text rounded (not_exists.mp first)
    rw [same, unread] at read
    exact absurd ⟨_, (Option.some.inj read).symm⟩ first
  · have read := Binary64.readFloat_text rounded (not_exists.mp first)
    rw [same, Binary64.readFloat_text rounded' (not_exists.mp second)] at read
    exact Or.inl (Option.some.inj read).symm

/-- Keys that are no texts have different texts, unless they are no numbers. -/
theorem eq_or_nan_of_plain_eq {v w : Value} (key : v.IsKey) (key' : w.IsKey) (other : ∀ s, v ≠ text s)
    (other' : ∀ s, w ≠ text s) (same : v.plain = w.plain) : v = w ∨ v.IsNan ∧ w.IsNan := by
  have kinds : v.kind = w.kind := by
    rw [← kindOfText_plain key other, ← kindOfText_plain key' other', same]
  cases v with
  | null => cases w with | null => exact Or.inl rfl | _ => simp [kind] at kinds
  | bool b =>
    cases w with
    | bool b' => cases b <;> cases b' <;> first | exact Or.inl rfl | exact absurd same (by decide)
    | _ => simp [kind] at kinds
  | int m => cases w with | int n => rw [toString_int_inj same]; exact Or.inl rfl | _ => simp [kind] at kinds
  | float x =>
    cases w with
    | float y =>
      obtain rfl | ⟨⟨object, rfl⟩, object', rfl⟩ := eq_or_nan_of_text_eq key key' same
      · exact Or.inl rfl
      · exact Or.inr ⟨⟨object, rfl⟩, object', rfl⟩
    | _ => simp [kind] at kinds
  | text s => exact absurd rfl (other s)
  | bytes b => cases w with | bytes b' => rw [quotedBytes_inj same]; exact Or.inl rfl | _ => simp [kind] at kinds
  | date d => cases w with | date d' => rw [Date.text_inj same]; exact Or.inl rfl | _ => simp [kind] at kinds
  | moment m => cases w with | moment m' => rw [Moment.text_inj same]; exact Or.inl rfl | _ => simp [kind] at kinds
  | list | tuple | set | map => exact key.elim

end AccessPolicy.Value

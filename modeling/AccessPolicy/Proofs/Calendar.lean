import AccessPolicy.Calendar
import AccessPolicy.Proofs.Text.Digits
import Mathlib.Tactic.SplitIfs

namespace AccessPolicy

/-- The characters of a number with leading noughts. -/
theorem toList_padded (width n : Nat) :
    (padded width n).toList = Text.paddedDigits (width - (Nat.toDigits 10 n).length) n := by
  simp [padded, Text.paddedDigits]

theorem isDigit_of_mem_padded {width n : Nat} {c : Char} (member : c ∈ (padded width n).toList) : c.isDigit = true := by
  rw [toList_padded] at member
  exact Text.isDigit_of_mem_paddedDigits member

theorem padded_inj {width m n : Nat} (same : (padded width m).toList = (padded width n).toList) : m = n := by
  rw [toList_padded, toList_padded] at same
  rw [← Text.ofDigitChars_paddedDigits _ m, same, Text.ofDigitChars_paddedDigits]

theorem padded_append_inj {width m n : Nat} {rest rest' : List Char} (stops : rest.takeWhile Char.isDigit = [])
    (stops' : rest'.takeWhile Char.isDigit = [])
    (same : (padded width m).toList ++ rest = (padded width n).toList ++ rest') : m = n ∧ rest = rest' := by
  obtain ⟨digits, rests⟩ := Text.digits_append_inj (fun c => isDigit_of_mem_padded) (fun c => isDigit_of_mem_padded)
    stops stops' same
  exact ⟨padded_inj digits, rests⟩

theorem dateText_append_inj {d d' : Date} {rest rest' : List Char} (stops : rest.takeWhile Char.isDigit = [])
    (stops' : rest'.takeWhile Char.isDigit = []) (same : d.text.toList ++ rest = d'.text.toList ++ rest') :
    d = d' ∧ rest = rest' := by
  simp only [Date.text, String.toList_append, List.append_assoc] at same
  obtain ⟨years, same⟩ := padded_append_inj (by simp) (by simp) same
  obtain ⟨months, same⟩ := padded_append_inj (by simp) (by simp) (List.append_cancel_left same)
  obtain ⟨days, same⟩ := padded_append_inj stops stops' (List.append_cancel_left same)
  cases d; cases d'
  simp_all

/-- The text of a day tells the day. -/
theorem Date.text_inj {d d' : Date} (same : d.text = d'.text) : d = d' := by
  have whole : d.text.toList ++ [] = d'.text.toList ++ [] := by rw [same]
  exact (dateText_append_inj rfl rfl whole).1

theorem toList_offsetText (s : Int) : (offsetText s).toList = (if s < 0 then '-' else '+') ::
    ((padded 2 (s.natAbs / 3600)).toList ++ ':' :: ((padded 2 (s.natAbs / 60 % 60)).toList ++
      if s.natAbs % 60 = 0 then [] else ':' :: (padded 2 (s.natAbs % 60)).toList)) := by
  unfold offsetText
  simp only
  split_ifs <;> simp

theorem offsetText_inj {s s' : Int} (same : (offsetText s).toList = (offsetText s').toList) : s = s' := by
  have stops (n : Nat) : (if n = 0 then [] else ':' :: (padded 2 n).toList).takeWhile Char.isDigit = [] := by
    split <;> simp
  rw [toList_offsetText, toList_offsetText, List.cons.injEq] at same
  obtain ⟨signs, same⟩ := same
  obtain ⟨hours, same⟩ := padded_append_inj (by simp) (by simp) same
  obtain ⟨minutes, seconds⟩ := padded_append_inj (stops _) (stops _) (List.cons.inj same).2
  have seconds : s.natAbs % 60 = s'.natAbs % 60 := by
    split_ifs at seconds with none none' none'
    · rw [none, none']
    · exact padded_inj (List.cons.inj seconds).2
  have signs : s < 0 ↔ s' < 0 := by
    by_cases negative : s < 0 <;> by_cases negative' : s' < 0 <;> simp [negative, negative'] at signs ⊢
  omega

/-- The text of a distance from universal time, if that is known. -/
def zoneText (offset : Option Int) : List Char := (offset.map fun s => (offsetText s).toList).getD []

theorem zoneText_inj {o o' : Option Int} (same : zoneText o = zoneText o') : o = o' := by
  cases o <;> cases o'
  · rfl
  · simp [zoneText, toList_offsetText] at same
  · simp [zoneText, toList_offsetText] at same
  · rw [offsetText_inj same]

/-- A distance from universal time starts with its sign. -/
theorem zoneText_cases (o : Option Int) :
    zoneText o = [] ∨ ∃ sign rest, zoneText o = sign :: rest ∧ (sign = '-' ∨ sign = '+') := by
  cases o with
  | none => exact Or.inl rfl
  | some s =>
    refine Or.inr ⟨_, _, toList_offsetText s, ?_⟩
    split <;> simp

theorem takeWhile_zoneText (o : Option Int) : (zoneText o).takeWhile Char.isDigit = [] := by
  obtain none | ⟨sign, rest, text, rfl | rfl⟩ := zoneText_cases o
  · rw [none]; rfl
  · rw [text]; rfl
  · rw [text]; rfl

/-- The text of a part of a second. -/
def microText (micro : Nat) : List Char := if micro = 0 then [] else '.' :: (padded 6 micro).toList

theorem micro_zone_inj {n n' : Nat} {o o' : Option Int}
    (same : microText n ++ zoneText o = microText n' ++ zoneText o') : n = n' ∧ o = o' := by
  unfold microText at same
  split_ifs at same with none none' none'
  · exact ⟨none.trans none'.symm, zoneText_inj same⟩
  · obtain empty | ⟨sign, rest, text, rfl | rfl⟩ := zoneText_cases o <;> simp_all
  · obtain empty | ⟨sign, rest, text, rfl | rfl⟩ := zoneText_cases o' <;> simp_all
  · obtain ⟨micros, zones⟩ := padded_append_inj (takeWhile_zoneText o) (takeWhile_zoneText o') (List.cons.inj same).2
    exact ⟨micros, zoneText_inj zones⟩

theorem takeWhile_micro_zone (n : Nat) (o : Option Int) : (microText n ++ zoneText o).takeWhile Char.isDigit = [] := by
  unfold microText
  split
  · exact takeWhile_zoneText o
  · rfl

theorem Moment.toList_textWith (separator : String) (m : Moment) :
    (m.textWith separator).toList = m.date.text.toList ++ (separator.toList ++ ((padded 2 m.hour).toList ++
      ':' :: ((padded 2 m.minute).toList ++ ':' :: ((padded 2 m.second).toList ++
        (microText m.micro ++ zoneText m.offset))))) := by
  unfold Moment.textWith microText zoneText
  cases m.offset <;> split_ifs <;> simp

/-- The text of a moment tells all its parts. -/
theorem Moment.text_inj {m m' : Moment} (same : m.textWith " " = m'.textWith " ") : m = m' := by
  have texts := congrArg String.toList same
  rw [Moment.toList_textWith, Moment.toList_textWith] at texts
  obtain ⟨dates, texts⟩ := dateText_append_inj (by simp) (by simp) texts
  obtain ⟨hours, texts⟩ := padded_append_inj (by simp) (by simp) (List.append_cancel_left texts)
  obtain ⟨minutes, texts⟩ := padded_append_inj (by simp) (by simp) (List.cons.inj texts).2
  obtain ⟨seconds, texts⟩ :=
    padded_append_inj (takeWhile_micro_zone ..) (takeWhile_micro_zone ..) (List.cons.inj texts).2
  obtain ⟨micros, offsets⟩ := micro_zone_inj texts
  cases m
  cases m'
  simp_all

end AccessPolicy

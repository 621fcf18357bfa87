import WheelDisplay.Lcd.Content
import WheelDisplay.Lcd.Number
import WheelDisplay.Lib.Decimal

/-! # Time texts and the values they show

A time is written as `[-][m:]s.t`. Reading it back gives the four fields of the
value, and the fields give the value.
-/

namespace WheelDisplay.Lcd

open CString Labels

structure Time where
  negative : Bool
  minutes : Nat
  seconds : Nat
  tenth : Nat
  deriving DecidableEq

def timeOf (value : Word) : Time where
  negative := signOf value != 0
  minutes := minutesOf value
  seconds := secondsOf value
  tenth := tenthOf value

def parseSign (s : List Byte) : Bool × List Byte :=
  match expect 0x2D s with
  | some rest => (true, rest)
  | none => (false, s)

/-- `[m:]s`, where the seconds have two digits after minutes. -/
def parseClock (s : List Byte) : Option (Nat × Nat × List Byte) := do
  let (first, rest) ← readNumber s
  match expect 0x3A rest with
  | some rest =>
    let (seconds, rest) ← readPadded 2 rest
    some (first, seconds, rest)
  | none => some (0, first, rest)

def parseTime (s : List Byte) : Option Time := do
  let (negative, s) := parseSign s
  let (minutes, seconds, s) ← parseClock s
  let s ← expect 0x2E s
  let (tenth, s) ← readNumber s
  if s = [] then some { negative, minutes, seconds, tenth } else none

/-- The text of a label that shows a value as a time. -/
def ReadsBack (t : LCDtext) (value : Word) : Prop :=
  ∃ s, t.string = some s ∧ t.len.toNat = s.length ∧ (∀ c ∈ s, glyphOf fontSmall c ≠ none) ∧
    parseTime s = some (timeOf value)

/-- A call that shows `value` as a time, next to any other call that shows one. -/
structure ShowsTime (l : Labels) (pos : Nat) (type : DisplayType) (value : Word) : Prop where
  ret : (timeText value ++ [0]).length ≤ stringMaxLen
  text : ReadsBack (lcdProcessMessage pos type.code value l (pos + 1)) value
  distinct : ∀ (l' : Labels) (pos' : Nat) (type' : DisplayType) (value' : Word),
    pos' ≠ posGear → type'.isTime = true → valueDue pos' value' l' →
    (lcdProcessMessage pos' type'.code value' l' (pos' + 1)).text =
      (lcdProcessMessage pos type.code value l (pos + 1)).text → value' = value

theorem tenthOf_eq (value : Word) : tenthOf value = value.toNat % 16 := by
  rw [tenthOf, BitVec.toNat_and]
  exact Nat.and_two_pow_sub_one_eq_mod value.toNat 4

theorem secondsOf_eq (value : Word) : secondsOf value = value.toNat / 16 % 64 := by
  rw [secondsOf, BitVec.toNat_and, BitVec.toNat_ushiftRight, Nat.shiftRight_eq_div_pow]
  exact Nat.and_two_pow_sub_one_eq_mod _ 6

theorem minutesOf_eq (value : Word) : minutesOf value = value.toNat / 1024 % 32 := by
  rw [minutesOf, BitVec.toNat_and, BitVec.toNat_ushiftRight, Nat.shiftRight_eq_div_pow]
  exact Nat.and_two_pow_sub_one_eq_mod _ 5

theorem signOf_eq (value : Word) : signOf value = value.toNat / 32768 := by
  rw [signOf, BitVec.toNat_ushiftRight, Nat.shiftRight_eq_div_pow]

theorem signOf_lt (value : Word) : signOf value < 2 := by
  have hValue := value.isLt
  rw [signOf_eq]
  omega

theorem toNat_fields (value : Word) :
    value.toNat = 32768 * signOf value + 1024 * minutesOf value + 16 * secondsOf value + tenthOf value := by
  have hValue := value.isLt
  rw [signOf_eq, minutesOf_eq, secondsOf_eq, tenthOf_eq]
  omega

theorem timeOf_injective : Function.Injective timeOf := by
  intro value value' h
  rw [timeOf, timeOf, Time.mk.injEq] at h
  obtain ⟨hNegative, hMinutes, hSeconds, hTenth⟩ := h
  have hSign : signOf value = signOf value' := by
    have hBit : ∀ a < 2, ∀ b < 2, (a != 0) = (b != 0) → a = b := by decide
    exact hBit _ (signOf_lt value) _ (signOf_lt value') hNegative
  apply BitVec.eq_of_toNat_eq
  rw [toNat_fields, toNat_fields value', hSign, hMinutes, hSeconds, hTenth]

def signText (value : Word) : List Byte := if signOf value ≠ 0 then [0x2D] else []

def clockText (value : Word) : List Byte :=
  if minutesOf value = 0 then digits (secondsOf value)
  else digits (minutesOf value) ++ 0x3A :: zeroPadded 2 (secondsOf value)

theorem zeroPadded_two {n : Nat} (h : n < 100) : zeroPadded 2 n = (if n < 10 then [0x30] else []) ++ digits n := by
  have hLength := itoa_length h
  rw [itoa_natCast] at hLength
  rw [zeroPadded, hLength]
  split_ifs <;> rfl

theorem timeText_eq (value : Word) :
    timeText value = signText value ++ (clockText value ++ 0x2E :: digits (tenthOf value)) := by
  have hSeconds : secondsOf value < 100 := (secondsOf_lt value).trans (by decide)
  rw [timeText, signText, clockText, zeroPadded_two hSeconds]
  simp only [itoa_natCast, ne_eq, ite_not]
  split_ifs <;> simp

theorem clockText_head (value : Word) (rest : List Byte) :
    ∃ b tail, clockText value ++ rest = b :: tail ∧ IsDigit b := by
  have hDigits : ∀ (n : Nat) (rest : List Byte), ∃ b tail, digits n ++ rest = b :: tail ∧ IsDigit b := by
    intro n rest
    obtain ⟨b, tail, hRow⟩ := List.exists_cons_of_ne_nil (digits_ne_nil n)
    refine ⟨b, tail ++ rest, ?_, digits_isDigit (n := n) ?_⟩
    · rw [hRow, List.cons_append]
    · rw [hRow]
      exact List.mem_cons_self
  rw [clockText]
  split
  · exact hDigits _ rest
  · rw [List.append_assoc]
    exact hDigits _ _

theorem parseSign_signText (value : Word) {s : List Byte} (h : ∃ b tail, s = b :: tail ∧ IsDigit b) :
    parseSign (signText value ++ s) = (signOf value != 0, s) := by
  obtain ⟨b, tail, rfl, hDigit⟩ := h
  have hMinus : b ≠ 0x2D := by
    rintro rfl
    exact absurd hDigit (by decide)
  by_cases hSign : signOf value = 0
  · rw [signText, if_neg (not_not.mpr hSign), List.nil_append, parseSign, expect_other hMinus, hSign]
    rfl
  · rw [signText, if_pos hSign, List.singleton_append, parseSign, expect_cons, bne_iff_ne.mpr hSign]

theorem parseClock_clockText (value : Word) (rest : List Byte) :
    parseClock (clockText value ++ 0x2E :: rest) = some (minutesOf value, secondsOf value, 0x2E :: rest) := by
  have hPoint : ∀ b ∈ (0x2E :: rest).head?, ¬ IsDigit b := by
    rintro b ⟨⟩
    decide
  have hColon : ∀ (tail : List Byte), ∀ b ∈ (0x3A :: tail).head?, ¬ IsDigit b := by
    rintro tail b ⟨⟩
    decide
  have hNotColon : (0x2E : Byte) ≠ 0x3A := by decide
  have hSeconds : (digits (secondsOf value)).length ≤ 2 :=
    (digits_length_le_iff _ (by decide)).mpr ((secondsOf_lt value).trans (by decide))
  rw [clockText]
  split
  next hMinutes =>
    rw [parseClock, readNumber_digits _ hPoint, hMinutes]
    simp only [Option.bind_eq_bind, Option.bind_some, expect_other hNotColon]
  next =>
    rw [List.append_assoc, List.cons_append, parseClock, readNumber_digits _ (hColon _)]
    simp only [Option.bind_eq_bind, Option.bind_some, expect_cons, readPadded_zeroPadded hSeconds]

theorem parseTime_timeText (value : Word) : parseTime (timeText value) = some (timeOf value) := by
  have hTenth : readNumber (digits (tenthOf value)) = some (tenthOf value, []) := by
    have hEnd : ∀ b ∈ ([] : List Byte).head?, ¬ IsDigit b := by
      rintro b ⟨⟩
    have hRead := readNumber_digits (tenthOf value) hEnd
    rw [List.append_nil] at hRead
    exact hRead
  rw [timeText_eq, parseTime, parseSign_signText value (clockText_head value _)]
  simp only [parseClock_clockText, Option.bind_eq_bind, Option.bind_some, expect_cons, hTenth, if_true]
  rfl

theorem timeText_injective : Function.Injective timeText := by
  intro value value' h
  apply timeOf_injective
  apply Option.some.inj
  rw [← parseTime_timeText, ← parseTime_timeText, h]

theorem glyphOf_timeText (value : Word) : ∀ c ∈ timeText value, glyphOf fontSmall c ≠ none := by
  have hDigits : ∀ n, ∀ c ∈ digits n, glyphOf fontSmall c ≠ none :=
    fun n c hMem => glyphOf_digit (Or.inl rfl) (digits_mem hMem)
  have hPadded : ∀ n, ∀ c ∈ zeroPadded 2 n, glyphOf fontSmall c ≠ none :=
    fun n c hMem => glyphOf_digit (Or.inl rfl) (zeroPadded_mem hMem)
  have hClock : ∀ c ∈ clockText value, glyphOf fontSmall c ≠ none := by
    rw [clockText]
    split
    · exact hDigits _
    · rw [List.forall_mem_append, List.forall_mem_cons]
      exact ⟨hDigits _, by decide, hPadded _⟩
  have hSign : ∀ c ∈ signText value, glyphOf fontSmall c ≠ none := by
    rw [signText]
    split <;> decide
  rw [timeText_eq, List.forall_mem_append, List.forall_mem_append, List.forall_mem_cons]
  exact ⟨hSign, hClock, by decide, hDigits _⟩

section Stored

variable {l : Labels} {pos : Nat} {type : DisplayType} {value : Word}
  (hPos : pos ≠ posGear) (hTime : type.isTime = true) (hDue : valueDue pos value l)
include hPos hTime hDue

theorem message_timed :
    ∃ t length, lcdProcessMessage pos type.code value l (pos + 1) = timed type value length t ∧
      (¬ Overlong value → length = (timeText value).length) := by
  obtain ⟨t, hLabels, hValued⟩ := lcdProcessMessage_labels type value hPos l
  rw [Valued, if_neg hDue, if_pos hTime] at hValued
  obtain ⟨length, rfl, hLength⟩ := hValued
  refine ⟨valueBetween type (headerDue pos type.code l) (l (pos + 1)), length, ?_, hLength⟩
  rw [hLabels, set_same]

theorem message_string :
    (lcdProcessMessage pos type.code value l (pos + 1)).string =
      if Overlong value then none else some (timeText value) := by
  obtain ⟨t, length, hTimed, -⟩ := message_timed hPos hTime hDue
  rw [hTimed]
  exact timed_string type value length t

theorem message_readsBack (hShort : ¬ Overlong value) :
    ReadsBack (lcdProcessMessage pos type.code value l (pos + 1)) value := by
  refine ⟨timeText value, ?_, ?_, glyphOf_timeText value, parseTime_timeText value⟩
  · rw [message_string hPos hTime hDue, if_neg hShort]
  · obtain ⟨t, length, hTimed, hLength⟩ := message_timed hPos hTime hDue
    rw [hTimed]
    exact timed_len type t hShort hLength

end Stored

theorem showsTime_iff {l : Labels} {pos : Nat} {type : DisplayType} {value : Word} (hPos : pos ≠ posGear)
    (hTime : type.isTime = true) (hDue : valueDue pos value l) : ShowsTime l pos type value ↔ ¬ Overlong value := by
  constructor
  · intro h
    apply (timeText_length_lt_iff value).mp
    have hRet := h.ret
    rw [List.length_append] at hRet
    exact hRet
  · intro hShort
    refine ⟨?_, message_readsBack hPos hTime hDue hShort, ?_⟩
    · rw [List.length_append]
      exact (timeText_length_lt_iff value).mpr hShort
    · intro l' pos' type' value' hPos' hTime' hDue' hText
      have hString := LCDtext.string_of_text hText
      rw [message_string hPos' hTime' hDue', message_string hPos hTime hDue, if_neg hShort] at hString
      split at hString
      · cases hString
      · exact timeText_injective (Option.some.inj hString)

/-- `1:05.3` on the first row after `LCDinit`. -/
theorem showsTime_iff_lap :
    ShowsTime (lcdInit (zeroed fun _ => blank)) (headerPos 0) .laptime 0x0453 ↔ ¬ Overlong 0x0453 :=
  showsTime_iff (by decide) rfl (by
    rw [valueDue, lcdInit_headersZero (fun _ => blank) 0]
    decide)

/-- `-10:00.10` has nine characters, and `ret` has room for eight and the NUL. -/
theorem minus_ten_minutes :
    valueDue (headerPos 0) 0xA80A (lcdInit (zeroed fun _ => blank)) ∧
      timeText 0xA80A = ascii ['-', '1', '0', ':', '0', '0', '.', '1', '0'] ∧
      ¬ ShowsTime (lcdInit (zeroed fun _ => blank)) (headerPos 0) .laptime 0xA80A := by
  refine ⟨?_, by decide, ?_⟩
  · rw [valueDue, lcdInit_headersZero (fun _ => blank) 0]
    decide
  · intro h
    exact absurd h.ret (by decide)

end WheelDisplay.Lcd

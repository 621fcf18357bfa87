import WheelDisplay.Lcd.Label

/-! # LCDProcessMessage

The rows of the header tables are nine bytes wide, and the copy loop runs to the
first NUL. Flash after a table is taken to read NUL; no display type gets there.
-/

namespace WheelDisplay.Lcd

open CString Labels

def posGear : Nat := 0

def typeNull : Byte := 0x00

def typeFuelNeed : Byte := 0x03

def typeRpm : Byte := 0x07

/-- The types of `message.h` that a label other than the gear can show. -/
inductive DisplayType where
  | speed
  | fuel
  | fuelNeed
  | lap
  | lapsRem
  | pos
  | rpm
  | laptime
  | delta
  deriving DecidableEq

namespace DisplayType

def code : DisplayType → Byte
  | speed => 0x01
  | fuel => 0x02
  | fuelNeed => typeFuelNeed
  | lap => 0x04
  | lapsRem => 0x05
  | pos => 0x06
  | rpm => typeRpm
  | laptime => 0x10
  | delta => 0x11

def isTime : DisplayType → Bool
  | laptime | delta => true
  | _ => false

end DisplayType

def ascii (s : List Char) : List Byte := s.map fun c => BitVec.ofNat 8 c.toNat

def row (s : List Char) : List Byte := strncpy stringMaxLen (ascii s)

def headersInt : List Byte :=
  row [] ++ row ['s', 'p', 'e', 'e', 'd'] ++ row ['f', 'u', 'e', 'l'] ++
    row ['f', 'u', 'e', 'l', ' ', 'n', 'e', 'e', 'd'] ++ row ['l', 'a', 'p'] ++
    row ['t', 'o', ' ', 'g', 'o'] ++ row ['p', 'o', 's', 'i', 't', 'i', 'o', 'n'] ++ row ['r', 'p', 'm']

def headersTime : List Byte :=
  row ['l', 'a', 'p', 't', 'i', 'm', 'e'] ++ row ['d', 'e', 'l', 't', 'a']

def isTimeCode (type : Byte) : Prop := type &&& 0b10000 ≠ 0

instance (type : Byte) : Decidable (isTimeCode type) := inferInstanceAs (Decidable (_ ≠ _))

/-- The bytes that the header loop copies, the NUL included. -/
def headerBytes (type : Byte) : List Byte :=
  let index := (type &&& 0b1111).toNat
  throughNul ((if isTimeCode type then headersTime else headersInt).drop (stringMaxLen * index))

def tenthOf (value : Word) : Nat := (value &&& 0b1111).toNat

def secondsOf (value : Word) : Nat := ((value >>> 4) &&& 0b111111).toNat

def minutesOf (value : Word) : Nat := ((value >>> 10) &&& 0b11111).toNat

def signOf (value : Word) : Nat := (value >>> 15).toNat

def timeText (value : Word) : List Byte :=
  let minus : List Byte := if signOf value ≠ 0 then [0x2D] else []
  let minutes : List Byte :=
    if minutesOf value ≠ 0 then
      itoa (minutesOf value) ++ [0x3A] ++ if secondsOf value < 10 then [0x30] else []
    else []
  minus ++ minutes ++ itoa (secondsOf value) ++ [0x2E] ++ itoa (tenthOf value)

def processGear (value : Word) (l : Labels) : Labels :=
  if (l posGear).number ≠ value ∧ value < 9 then
    l.modify posGear fun t => ({ t with number := value }.setType typeNull).setRedraw
  else l

def writeHeader (pos : Nat) (type : Byte) (l : Labels) : Labels :=
  let l := l.store (textAddress pos 0) (headerBytes type)
  l.modify pos fun t =>
    ({ t with len := BitVec.ofNat 8 (headerBytes type).length }.setType type).setRedraw

def writeValue (pos : Nat) (type : Byte) (value : Word) (l : Labels) : Labels :=
  let l :=
    if isTimeCode type then
      let l := l.store (textAddress (pos + 1) 0) (strncpy stringMaxLen (timeText value))
      l.modify (pos + 1) fun t =>
        { t with len := BitVec.ofNat 8 (l.strlen (textAddress (pos + 1) 0)) }
    else l.modify (pos + 1) fun t => { t with number := value }
  l.modify (pos + 1) fun t => t.setRedraw.setType type

def headerDue (pos : Nat) (type : Byte) (l : Labels) : Prop := (l pos).getType ≠ type ∨ type = typeRpm

instance (pos : Nat) (type : Byte) (l : Labels) : Decidable (headerDue pos type l) :=
  inferInstanceAs (Decidable (_ ∨ _))

def lcdProcessMessage (pos : Nat) (type : Byte) (value : Word) (l : Labels) : Labels :=
  if pos = posGear then processGear value l
  else
    let l := if headerDue pos type l then writeHeader pos type l else l
    if (l pos).number ≠ value then writeValue pos type value l else l

namespace DisplayType

def header : DisplayType → List Byte
  | speed => ascii ['s', 'p', 'e', 'e', 'd']
  | fuel => ascii ['f', 'u', 'e', 'l']
  | fuelNeed => ascii ['f', 'u', 'e', 'l', ' ', 'n', 'e', 'e', 'd']
  | lap => ascii ['l', 'a', 'p']
  | lapsRem => ascii ['t', 'o', ' ', 'g', 'o']
  | pos => ascii ['p', 'o', 's', 'i', 't', 'i', 'o', 'n']
  | rpm => ascii ['r', 'p', 'm']
  | laptime => ascii ['l', 'a', 'p', 't', 'i', 'm', 'e']
  | delta => ascii ['d', 'e', 'l', 't', 'a']

theorem isTimeCode_code (type : DisplayType) : isTimeCode type.code ↔ type.isTime = true := by
  cases type <;> decide

theorem zero_notMem_header (type : DisplayType) : 0 ∉ type.header := by
  cases type <;> decide

theorem header_length (type : DisplayType) (h : type ≠ fuelNeed) : type.header.length < 9 := by
  cases type with
  | fuelNeed => exact absurd rfl h
  | _ => decide

theorem code_range (type : DisplayType) : type.code &&& 0b11111 = type.code := by
  cases type <;> rfl

theorem code_ne_zero (type : DisplayType) : type.code ≠ 0 := by
  cases type <;> decide

/-- The header that exactly fills its row runs on into the next one. -/
theorem headerBytes_code (type : DisplayType) :
    headerBytes type.code =
      if type = fuelNeed then type.header ++ ascii ['l', 'a', 'p'] ++ [0] else type.header ++ [0] := by
  cases type <;> decide

end DisplayType

/-- The values whose text has nine characters, one more than `ret` has room for. -/
def Overlong (value : Word) : Prop := signOf value ≠ 0 ∧ 10 ≤ minutesOf value ∧ 10 ≤ tenthOf value

instance (value : Word) : Decidable (Overlong value) := inferInstanceAs (Decidable (_ ∧ _))

theorem tenthOf_lt (value : Word) : tenthOf value < 16 := by
  rw [tenthOf, BitVec.toNat_and]
  exact Nat.and_lt_two_pow (value.toNat) (n := 4) (by decide)

theorem secondsOf_lt (value : Word) : secondsOf value < 64 := by
  rw [secondsOf, BitVec.toNat_and]
  exact Nat.and_lt_two_pow _ (n := 6) (by decide)

theorem minutesOf_lt (value : Word) : minutesOf value < 32 := by
  rw [minutesOf, BitVec.toNat_and]
  exact Nat.and_lt_two_pow _ (n := 5) (by decide)

theorem zero_notMem_timeText (value : Word) : 0 ∉ timeText value := by
  have hItoa : ∀ n : Nat, 0#8 ∉ itoa n := fun n => zero_notMem_itoa n
  rw [timeText]
  split_ifs <;> simp [hItoa]

theorem timeText_length (value : Word) :
    (timeText value).length = (if signOf value ≠ 0 then 1 else 0) +
      (if minutesOf value ≠ 0 then
        (if minutesOf value < 10 then 1 else 2) + 1 + if secondsOf value < 10 then 1 else 0 else 0) +
      (if secondsOf value < 10 then 1 else 2) + 1 + if tenthOf value < 10 then 1 else 2 := by
  have hMinutes : (itoa (minutesOf value)).length = _ := itoa_length ((minutesOf_lt value).trans (by decide))
  have hSeconds : (itoa (secondsOf value)).length = _ := itoa_length ((secondsOf_lt value).trans (by decide))
  have hTenth : (itoa (tenthOf value)).length = _ := itoa_length ((tenthOf_lt value).trans (by decide))
  rw [timeText]
  simp only [List.length_append, apply_ite List.length, hMinutes, hSeconds, hTenth, List.length_cons,
    List.length_nil]

theorem timeText_length_pos (value : Word) : 0 < (timeText value).length := by
  rw [timeText_length]
  omega

theorem timeText_length_lt_iff (value : Word) : (timeText value).length < 9 ↔ ¬ Overlong value := by
  rw [timeText_length, Overlong]
  split_ifs <;> omega

def headed (type : DisplayType) (t : LCDtext) : LCDtext :=
  ({ overwrite t 0 (type.header ++ [0]) with
    len := BitVec.ofNat 8 (type.header.length + 1) }.setType type.code).setRedraw

theorem writeHeader_eq {type : DisplayType} (h : type ≠ .fuelNeed) (pos : Nat) (l : Labels) :
    writeHeader pos type.code l = l.set pos (headed type (l pos)) := by
  have hBytes : headerBytes type.code = type.header ++ [0] := by
    rw [DisplayType.headerBytes_code, if_neg h]
  have hFits : 0 + (type.header ++ [0]).length ≤ 9 := by
    rw [Nat.zero_add, List.length_append, List.length_singleton]
    exact type.header_length h
  rw [writeHeader, hBytes, store_text l pos hFits, modify_set, List.length_append, List.length_singleton, headed]

/-- The label after the nine characters of FUEL_NEED and the first letter of the next row. -/
def overrun (t : LCDtext) : LCDtext :=
  ({ overwrite t 0 DisplayType.fuelNeed.header with
    metaByte := 0x6C, len := 13 }.setType typeFuelNeed).setRedraw

def collided (t : LCDtext) : LCDtext := { t with x := 0x61, y := 0x70, len := 0 }

theorem writeHeader_fuelNeed (pos : Nat) (l : Labels) :
    writeHeader pos typeFuelNeed l =
      (l.set (pos + 1) (collided (l (pos + 1)))).set pos (overrun (l pos)) := by
  have hBytes : headerBytes typeFuelNeed = DisplayType.fuelNeed.header ++ [0x6C, 0x61, 0x70, 0] := by decide
  have hMeta : textAddress pos 0 + DisplayType.fuelNeed.header.length = sizeofLCDtext * pos + 16 := rfl
  have hOther : pos ≠ pos + 1 := (Nat.succ_ne_self pos).symm
  have hStore : l.store (textAddress pos 0) (headerBytes typeFuelNeed) =
      (l.set pos { overwrite (l pos) 0 DisplayType.fuelNeed.header with metaByte := 0x6C }).set (pos + 1)
        (collided (l (pos + 1))) := by
    have hX : sizeofLCDtext * pos + 16 + 1 = sizeofLCDtext * (pos + 1) + 0 := rfl
    have hY : sizeofLCDtext * (pos + 1) + 0 + 1 = sizeofLCDtext * (pos + 1) + 1 := rfl
    have hLen : sizeofLCDtext * (pos + 1) + 1 + 1 = sizeofLCDtext * (pos + 1) + 2 := rfl
    rw [hBytes, store_append, store_text l pos (by decide), hMeta, store, setByteAt_offset _ pos (by decide),
      set_same, set_set, hX, store, setByteAt_offset _ (pos + 1) (by decide), set_other _ _ hOther.symm, hY, store,
      setByteAt_offset _ (pos + 1) (by decide), set_same, set_set, hLen, store,
      setByteAt_offset _ (pos + 1) (by decide), set_same, set_set, store]
    rfl
  rw [writeHeader, hStore, set_comm _ _ _ hOther.symm, modify_set]
  rfl

def numbered (type : DisplayType) (value : Word) (t : LCDtext) : LCDtext :=
  ({ t with number := value }.setRedraw).setType type.code

/-- The value label after a time was written to it, with the length that `strlen` found. -/
def timed (type : DisplayType) (value : Word) (length : Nat) (t : LCDtext) : LCDtext :=
  ({ overwrite t 0 (strncpy stringMaxLen (timeText value)) with
    len := BitVec.ofNat 8 length }.setRedraw).setType type.code

theorem writeValue_integer {type : DisplayType} (h : type.isTime = false) (pos : Nat) (value : Word) (l : Labels) :
    writeValue pos type.code value l = l.set (pos + 1) (numbered type value (l (pos + 1))) := by
  have hCode : ¬ isTimeCode type.code := by
    rw [DisplayType.isTimeCode_code, h]
    exact Bool.false_ne_true
  rw [writeValue, if_neg hCode, modify_eq l, modify_set, numbered]

theorem writeValue_time {type : DisplayType} (h : type.isTime = true) (pos : Nat) (value : Word) (l : Labels) :
    ∃ length, writeValue pos type.code value l = l.set (pos + 1) (timed type value length (l (pos + 1))) ∧
      (¬ Overlong value → length = (timeText value).length) := by
  have hCode : isTimeCode type.code := type.isTimeCode_code.mpr h
  have hFits : 0 + (strncpy stringMaxLen (timeText value)).length ≤ 9 := by
    rw [strncpy_length]
    exact le_rfl
  refine ⟨(l.set (pos + 1) (overwrite (l (pos + 1)) 0 (strncpy stringMaxLen (timeText value)))).strlen
    (textAddress (pos + 1) 0), ?_, ?_⟩
  · rw [writeValue, if_pos hCode, store_text l (pos + 1) hFits, modify_set, modify_set, timed]
  · intro hShort
    apply strlen_of_string
    rw [set_same]
    exact (string_strncpy _ (zero_notMem_timeText value)).trans
      (if_pos ((timeText_length_lt_iff value).mpr hShort))

def headerAfter (type : DisplayType) (due : Bool) (t : LCDtext) : LCDtext :=
  if due then if type = .fuelNeed then overrun t else headed type t else t

def valueBetween (type : DisplayType) (due : Bool) (t : LCDtext) : LCDtext :=
  if due && type = .fuelNeed then collided t else t

/-- What the value part of a call can do to the value label. -/
def Valued (type : DisplayType) (value number : Word) (t t' : LCDtext) : Prop :=
  if number = value then t' = t
  else if type.isTime then
    ∃ length, t' = timed type value length t ∧ (¬ Overlong value → length = (timeText value).length)
  else t' = numbered type value t

theorem valueBetween_eq {type : DisplayType} {due : Bool} (h : due = true → type ≠ .fuelNeed) (t : LCDtext) :
    valueBetween type due t = t := by
  rw [valueBetween, if_neg]
  rw [Bool.and_eq_true, decide_eq_true_eq]
  exact fun hBoth => h hBoth.1 hBoth.2

theorem headerAfter_number (type : DisplayType) (due : Bool) (t : LCDtext) :
    (headerAfter type due t).number = t.number := by
  rw [headerAfter]
  split_ifs <;> rfl

theorem writeValue_valued {type : DisplayType} {value number : Word} (h : number ≠ value) (pos : Nat) (l : Labels) :
    ∃ t, writeValue pos type.code value l = l.set (pos + 1) t ∧ Valued type value number (l (pos + 1)) t := by
  cases hTime : type.isTime with
  | true =>
    obtain ⟨length, hWrite, hLength⟩ := writeValue_time hTime pos value l
    refine ⟨_, hWrite, ?_⟩
    rw [Valued, if_neg h, if_pos hTime]
    exact ⟨length, rfl, hLength⟩
  | false =>
    refine ⟨_, writeValue_integer hTime pos value l, ?_⟩
    rw [Valued, if_neg h, hTime]
    rfl

theorem writeHeader_labels (type : DisplayType) (pos : Nat) (l : Labels) :
    (if headerDue pos type.code l then writeHeader pos type.code l else l) =
      (l.set (pos + 1) (valueBetween type (headerDue pos type.code l) (l (pos + 1)))).set pos
        (headerAfter type (headerDue pos type.code l) (l pos)) := by
  by_cases hDue : headerDue pos type.code l
  · by_cases hNeed : type = .fuelNeed
    · subst hNeed
      rw [if_pos hDue]
      simp only [hDue, headerAfter, valueBetween]
      exact writeHeader_fuelNeed pos l
    · rw [if_pos hDue, writeHeader_eq hNeed]
      simp only [hDue, hNeed, headerAfter, valueBetween, decide_true, decide_false, Bool.and_false,
        Bool.false_eq_true, if_true, if_false, set_self]
  · rw [if_neg hDue]
    simp only [hDue, headerAfter, valueBetween, decide_false, Bool.false_and, Bool.false_eq_true, if_false,
      set_self]

theorem lcdProcessMessage_labels (type : DisplayType) (value : Word) {pos : Nat} (h : pos ≠ posGear) (l : Labels) :
    ∃ t, lcdProcessMessage pos type.code value l =
        (l.set pos (headerAfter type (headerDue pos type.code l) (l pos))).set (pos + 1) t ∧
      Valued type value (l pos).number
        (valueBetween type (headerDue pos type.code l) (l (pos + 1))) t := by
  have hOther : pos + 1 ≠ pos := Nat.succ_ne_self pos
  rw [lcdProcessMessage, if_neg h]
  simp only [writeHeader_labels, set_same, headerAfter_number]
  by_cases hNumber : (l pos).number = value
  · refine ⟨valueBetween type (headerDue pos type.code l) (l (pos + 1)), ?_, ?_⟩
    · rw [if_neg (not_not.mpr hNumber), set_comm _ _ _ hOther.symm]
    · rw [Valued, if_pos hNumber]
  · obtain ⟨t, hWrite, hValued⟩ := writeValue_valued hNumber pos
      ((l.set (pos + 1) (valueBetween type (headerDue pos type.code l) (l (pos + 1)))).set pos
        (headerAfter type (headerDue pos type.code l) (l pos)))
    rw [set_other _ _ hOther, set_same] at hValued
    refine ⟨t, ?_, hValued⟩
    rw [if_pos hNumber, hWrite, set_comm _ _ _ hOther.symm, set_set]

end WheelDisplay.Lcd

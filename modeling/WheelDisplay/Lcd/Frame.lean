import WheelDisplay.Lcd.Draw
import WheelDisplay.Lib.StepRun

/-! # Where a message writes

The header of a row is at an even position and its value at the next one. A
history is any sequence of calls of the two functions that change the labels
after `LCDinit`.
-/

namespace WheelDisplay.Lcd

open CString Labels

/-- The positions of the headers: 2, 4, 6, 8, 10 and 12. -/
def headerPos (row : Fin 6) : Nat := 2 * row.val + 2

inductive Action where
  | gear (type : Byte) (value : Word)
  | message (row : Fin 6) (type : DisplayType) (value : Word)
  | update

def act (l : Labels) : Action → Labels
  | .gear type value => lcdProcessMessage posGear type value l
  | .message row type value => lcdProcessMessage (headerPos row) type.code value l
  | .update => (lcdUpdate l).2

def reached (beyond : Nat → LCDtext) (history : List Action) : Labels :=
  StepRun.run act (lcdInit (zeroed beyond)) history

/-- The test for a value change. It reads the number of the header label. -/
def valueDue (pos : Nat) (value : Word) (l : Labels) : Prop := (l pos).number ≠ value

def Terminated (t : LCDtext) : Prop := t.string.isSome ∧ t.len.toNat ≤ stringMaxLen

def SameGeometry (t t' : LCDtext) : Prop :=
  t'.x = t.x ∧ t'.y = t.y ∧ t'.width = t.width ∧ t'.font = t.font

/-- The call keeps to the two labels of its position, to the header row of its
type, to the text buffers and to `ret`. -/
structure Framed (l : Labels) (pos : Nat) (type : DisplayType) (value : Word) : Prop where
  others : ∀ k, k ≠ pos → k ≠ pos + 1 → lcdProcessMessage pos type.code value l k = l k
  headerRow : headerDue pos type.code l → (headerBytes type.code).length ≤ stringMaxLen
  headerText : headerDue pos type.code l → Terminated (lcdProcessMessage pos type.code value l pos)
  ret : valueDue pos value l → type.isTime = true → (timeText value ++ [0]).length ≤ stringMaxLen
  valueText : valueDue pos value l → type.isTime = true →
    Terminated (lcdProcessMessage pos type.code value l (pos + 1))
  geometry : ∀ k, SameGeometry (l k) (lcdProcessMessage pos type.code value l k)

theorem headerPos_ne_gear (row : Fin 6) : headerPos row ≠ posGear := Nat.succ_ne_zero _

theorem headerPos_ne_value (row row' : Fin 6) : headerPos row ≠ headerPos row' + 1 := by
  simp only [headerPos]
  omega

theorem headerPos_injective {row row' : Fin 6} (h : headerPos row = headerPos row') : row = row' := by
  simp only [headerPos] at h
  omega

theorem written_number (t : LCDtext) : (written t).number = t.number := by
  rw [written]
  split <;> rfl

theorem Refreshed.number {t t' : LCDtext} (h : Refreshed t t') : t'.number = t.number := by
  rw [Refreshed] at h
  split at h
  · obtain ⟨width, rfl⟩ := h
    exact written_number t
  · rw [h]

theorem headerPos_ge (row : Fin 6) : 2 ≤ headerPos row := Nat.le_add_left 2 _

theorem headerPos_succ_lt (row : Fin 6) : headerPos row + 1 < 14 := by
  simp only [headerPos]
  omega

theorem headerPos_lt (row : Fin 6) : headerPos row < 14 := Nat.lt_of_succ_lt (headerPos_succ_lt row)

theorem lcdUpdate_headerPos (l : Labels) (row : Fin 6) :
    Refreshed (l (headerPos row)) ((lcdUpdate l).2 (headerPos row)) :=
  lcdUpdate_refreshed l (headerPos_ge row) (headerPos_lt row)

theorem processGear_other (type : Byte) (value : Word) (l : Labels) {k : Nat} (h : k ≠ posGear) :
    lcdProcessMessage posGear type value l k = l k := by
  rw [lcdProcessMessage, if_pos rfl, processGear]
  split
  · rw [modify_eq]
    exact set_other l _ h
  · rfl

theorem message_header (row row' : Fin 6) (type : DisplayType) (value : Word) (l : Labels) :
    lcdProcessMessage (headerPos row) type.code value l (headerPos row') =
      if row' = row then headerAfter type (headerDue (headerPos row) type.code l) (l (headerPos row))
      else l (headerPos row') := by
  obtain ⟨t, hLabels, -⟩ := lcdProcessMessage_labels type value (headerPos_ne_gear row) l
  rw [hLabels, set_other _ _ (headerPos_ne_value row' row)]
  split
  next hSame => rw [hSame, set_same]
  next hOther => rw [set_other _ _ fun h => hOther (headerPos_injective h)]

def HeadersZero (l : Labels) : Prop := ∀ row, (l (headerPos row)).number = 0

theorem act_headersZero (l : Labels) (a : Action) (h : HeadersZero l) : HeadersZero (act l a) := by
  intro row'
  cases a with
  | gear type value =>
    rw [act, processGear_other type value l (headerPos_ne_gear row')]
    exact h row'
  | message row type value =>
    rw [act, message_header]
    split
    · rw [headerAfter_number]
      exact h row
    · exact h row'
  | update => exact (lcdUpdate_headerPos l row').number.trans (h row')

theorem lcdInit_headersZero (beyond : Nat → LCDtext) : HeadersZero (lcdInit (zeroed beyond)) := by
  intro row
  obtain ⟨font, x, y, hLabel⟩ := lcdInit_label beyond (headerPos_ge row) (headerPos_lt row)
  rw [hLabel]
  rfl

theorem reached_headersZero (beyond : Nat → LCDtext) (history : List Action) :
    HeadersZero (reached beyond history) :=
  StepRun.run_invariant HeadersZero act_headersZero (lcdInit_headersZero beyond) history

theorem headed_string {type : DisplayType} (h : type ≠ .fuelNeed) (t : LCDtext) :
    (headed type t).string = some type.header :=
  (LCDtext.string_of_text rfl).trans (string_store t type.zero_notMem_header (type.header_length h))

theorem headed_len {type : DisplayType} (h : type ≠ .fuelNeed) (t : LCDtext) :
    (headed type t).len.toNat = type.header.length + 1 := by
  have hLength := type.header_length h
  exact BitVec.toNat_ofNat .. ▸ Nat.mod_eq_of_lt (by omega)

theorem headed_terminated {type : DisplayType} (h : type ≠ .fuelNeed) (t : LCDtext) :
    Terminated (headed type t) := by
  refine ⟨?_, ?_⟩
  · rw [headed_string h]
    rfl
  · rw [headed_len h]
    exact type.header_length h

theorem timed_string (type : DisplayType) (value : Word) (length : Nat) (t : LCDtext) :
    (timed type value length t).string = if Overlong value then none else some (timeText value) := by
  have hText : (timed type value length t).text = (overwrite t 0 (strncpy stringMaxLen (timeText value))).text := by
    simp only [timed, LCDtext.setType, LCDtext.setRedraw]
  rw [LCDtext.string_of_text hText, stringMaxLen, string_strncpy t (zero_notMem_timeText value)]
  simp only [timeText_length_lt_iff, ite_not]

theorem timed_len (type : DisplayType) {value : Word} {length : Nat} (t : LCDtext) (hShort : ¬ Overlong value)
    (hLength : ¬ Overlong value → length = (timeText value).length) :
    (timed type value length t).len.toNat = (timeText value).length := by
  have hLt := (timeText_length_lt_iff value).mpr hShort
  have hLen : (timed type value length t).len.toNat = length % 256 := BitVec.toNat_ofNat ..
  rw [hLen, hLength hShort]
  omega

theorem headerAfter_geometry {type : DisplayType} {due : Bool} (t : LCDtext) :
    SameGeometry t (headerAfter type due t) := by
  rw [headerAfter]
  split_ifs <;> exact ⟨rfl, rfl, rfl, rfl⟩

theorem Valued.geometry {type : DisplayType} {value number : Word} {t t' : LCDtext}
    (h : Valued type value number t t') : SameGeometry t t' := by
  rw [Valued] at h
  split_ifs at h
  · rw [h]
    exact ⟨rfl, rfl, rfl, rfl⟩
  · obtain ⟨length, rfl, -⟩ := h
    simp only [SameGeometry, timed, LCDtext.setType, LCDtext.setRedraw, overwrite, and_self]
  · rw [h]
    simp only [SameGeometry, numbered, LCDtext.setType, LCDtext.setRedraw, and_self]

theorem Valued.terminated {type : DisplayType} {value number : Word} {t t' : LCDtext}
    (h : Valued type value number t t') (hDue : number ≠ value) (hTime : type.isTime = true)
    (hShort : ¬ Overlong value) : Terminated t' := by
  rw [Valued, if_neg hDue, if_pos hTime] at h
  obtain ⟨length, rfl, hLength⟩ := h
  refine ⟨?_, ?_⟩
  · rw [timed_string, if_neg hShort]
    rfl
  · rw [timed_len type t hShort hLength]
    exact Nat.le_of_lt ((timeText_length_lt_iff value).mpr hShort)

theorem framed_of_short {l : Labels} {pos : Nat} {type : DisplayType} {value : Word} (hPos : pos ≠ posGear)
    (hHeader : headerDue pos type.code l → type ≠ .fuelNeed)
    (hTime : valueDue pos value l → type.isTime = true → ¬ Overlong value) :
    Framed l pos type value := by
  obtain ⟨t, hLabels, hValued⟩ := lcdProcessMessage_labels type value hPos l
  have hNext : pos + 1 ≠ pos := Nat.succ_ne_self pos
  rw [valueBetween_eq fun hDue => hHeader (of_decide_eq_true hDue)] at hValued
  refine ⟨?_, ?_, ?_, ?_, ?_, ?_⟩
  · intro k hHeaderLabel hValueLabel
    rw [hLabels, set_other _ _ hValueLabel, set_other _ _ hHeaderLabel]
  · intro hDue
    rw [DisplayType.headerBytes_code, if_neg (hHeader hDue), List.length_append]
    exact type.header_length (hHeader hDue)
  · intro hDue
    rw [hLabels, set_other _ _ hNext.symm, set_same, headerAfter]
    simp only [hDue, hHeader hDue, decide_true, if_true, if_false]
    exact headed_terminated (hHeader hDue) (l pos)
  · intro hDue hIsTime
    rw [List.length_append]
    exact (timeText_length_lt_iff value).mpr (hTime hDue hIsTime)
  · intro hDue hIsTime
    rw [hLabels, set_same]
    exact hValued.terminated hDue hIsTime (hTime hDue hIsTime)
  · intro k
    rw [hLabels]
    by_cases hValueLabel : k = pos + 1
    · rw [hValueLabel, set_same]
      exact hValued.geometry
    · rw [set_other _ _ hValueLabel]
      by_cases hHeaderLabel : k = pos
      · rw [hHeaderLabel, set_same]
        exact headerAfter_geometry (l pos)
      · rw [set_other _ _ hHeaderLabel]
        exact ⟨rfl, rfl, rfl, rfl⟩

theorem Framed.ne_fuelNeed {l : Labels} {pos : Nat} {type : DisplayType} {value : Word}
    (h : Framed l pos type value) (hDue : headerDue pos type.code l) : type ≠ .fuelNeed := by
  rintro rfl
  exact absurd (h.headerRow hDue) (by decide)

theorem Framed.not_overlong {l : Labels} {pos : Nat} {type : DisplayType} {value : Word}
    (h : Framed l pos type value) (hDue : valueDue pos value l) (hTime : type.isTime = true) :
    ¬ Overlong value := by
  have hRet := h.ret hDue hTime
  rw [List.length_append] at hRet
  exact (timeText_length_lt_iff value).mp hRet

theorem Overlong.ne_zero {value : Word} (h : Overlong value) : value ≠ 0 := by
  rintro rfl
  exact absurd h (by decide)

/-- In every reachable state a call keeps its frame exactly when it does not
write the header of FUEL_NEED and its time, if it has one, fits the buffer. -/
theorem processMessage_framed_iff (beyond : Nat → LCDtext) (history : List Action) (row : Fin 6)
    (type : DisplayType) (value : Word) :
    Framed (reached beyond history) (headerPos row) type value ↔
      (headerDue (headerPos row) type.code (reached beyond history) → type ≠ .fuelNeed) ∧
        (type.isTime = true → ¬ Overlong value) := by
  have hZero := reached_headersZero beyond history row
  constructor
  · intro h
    refine ⟨h.ne_fuelNeed, ?_⟩
    intro hTime hOverlong
    have hDue : valueDue (headerPos row) value (reached beyond history) := by
      rw [valueDue, hZero]
      exact hOverlong.ne_zero.symm
    exact h.not_overlong hDue hTime hOverlong
  · rintro ⟨hHeader, hTime⟩
    exact framed_of_short (headerPos_ne_gear row) hHeader fun _ => hTime

/-- The first FUEL_NEED after `LCDinit` runs on into the next header, and so out of the text buffer. -/
theorem fuelNeed_overruns :
    ¬ Framed (reached (fun _ => blank) []) (headerPos 0) .fuelNeed 0 := by
  intro h
  have hDue : headerDue (headerPos 0) typeFuelNeed (reached (fun _ => blank) []) := Or.inl (by decide)
  exact absurd (h.headerRow hDue) (by decide)

end WheelDisplay.Lcd

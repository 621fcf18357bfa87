import WheelDisplay.Lcd.Frame

/-! # What the labels show after a message

The type in the meta byte is only ever or-ed into, so a header label that has
shown one type can name another only when the bits of the first are among its bits.
-/

namespace WheelDisplay.Lcd

open CString Labels

def HoldsText (t : LCDtext) : Prop := ∃ s, t.string = some s ∧ t.len.toNat = s.length ∧ 0 < s.length

/-- The two labels after a call with `type`; `updated` tells whether the value label was written. -/
structure Consistent (header value : LCDtext) (type : DisplayType) (updated : Prop) : Prop where
  title : header.getType = type.code
  text : header.string = some type.header
  integer : type.isTime = false → value.len = 0
  time : type.isTime = true → HoldsText value
  valueType : updated → value.getType = type.code

def Shown (l : Labels) : Action → Prop
  | .message row type value =>
    let l' := lcdProcessMessage (headerPos row) type.code value l
    Consistent (l' (headerPos row)) (l' (headerPos row + 1)) type (valueDue (headerPos row) value l)
  | _ => True

/-- No bit of the type that a label remembers is missing from `type`. -/
def Admits (t : LCDtext) (type : DisplayType) : Prop := t.getType ||| type.code = type.code

structure Fits (header label : LCDtext) (type : DisplayType) (value : Word) : Prop where
  ne_fuelNeed : type ≠ .fuelNeed
  header : Admits header type
  integer : type.isTime = false → label.len = 0
  time : type.isTime = true → if value = 0 then HoldsText label else ¬ Overlong value
  label : value ≠ 0 → Admits label type

def Prepared (l : Labels) : Action → Prop
  | .message row type value => Fits (l (headerPos row)) (l (headerPos row + 1)) type value
  | _ => True

theorem code_injective {type type' : DisplayType} (h : type.code = type'.code) : type = type' := by
  revert h
  cases type <;> cases type' <;> decide

theorem getType_written (t : LCDtext) (type : DisplayType) :
    (t.setRedraw.setType type.code).getType = t.getType ||| type.code := by
  rw [LCDtext.getType_setType, LCDtext.getType_setRedraw, type.code_range]

theorem headed_getType (type : DisplayType) (t : LCDtext) : (headed type t).getType = t.getType ||| type.code := by
  rw [headed, LCDtext.getType_setRedraw, LCDtext.getType_setType, type.code_range]
  rfl

theorem overrun_getType (t : LCDtext) : (overrun t).getType = 15 := by
  rw [overrun, LCDtext.getType_setRedraw, LCDtext.getType_setType]
  change ((0x6C : Byte) &&& 0b11111) ||| _ = _
  decide

theorem headed_len_ne_zero {type : DisplayType} (h : type ≠ .fuelNeed) (t : LCDtext) : (headed type t).len ≠ 0 := by
  intro hZero
  have hLen := headed_len h t
  rw [hZero] at hLen
  exact Nat.succ_ne_zero _ hLen.symm

namespace Valued

variable {type : DisplayType} {value number : Word} {t t' : LCDtext}

theorem unchanged (h : Valued type value number t t') (hSame : number = value) : t' = t := by
  rw [Valued, if_pos hSame] at h
  exact h

theorem getType (h : Valued type value number t t') (hDue : number ≠ value) :
    t'.getType = t.getType ||| type.code := by
  rw [Valued, if_neg hDue] at h
  split_ifs at h
  · obtain ⟨length, rfl, -⟩ := h
    exact getType_written _ type
  · rw [h]
    exact getType_written _ type

theorem len (h : Valued type value number t t') (hInteger : type.isTime = false) : t'.len = t.len := by
  rw [Valued, hInteger] at h
  split at h
  · rw [h]
  · rw [if_neg Bool.false_ne_true] at h
    rw [h]
    rfl

theorem holdsText_iff (h : Valued type value number t t') (hDue : number ≠ value) (hTime : type.isTime = true) :
    HoldsText t' ↔ ¬ Overlong value := by
  rw [Valued, if_neg hDue, if_pos hTime] at h
  obtain ⟨length, rfl, hLength⟩ := h
  constructor
  · rintro ⟨s, hString, -⟩ hOverlong
    rw [timed_string, if_pos hOverlong] at hString
    cases hString
  · intro hShort
    refine ⟨timeText value, ?_, timed_len type t hShort hLength, timeText_length_pos value⟩
    rw [timed_string, if_neg hShort]

end Valued

def Titled (t : LCDtext) : Prop :=
  ∀ type : DisplayType, t.getType = type.code → type ≠ .fuelNeed ∧ t.string = some type.header ∧ t.len ≠ 0

theorem headed_titled {type : DisplayType} (h : type ≠ .fuelNeed) {t : LCDtext} (hAdmits : Admits t type) :
    Titled (headed type t) := by
  intro type' hType
  rw [headed_getType, hAdmits] at hType
  obtain rfl := code_injective hType
  exact ⟨h, headed_string h t, headed_len_ne_zero h t⟩

theorem Refreshed.titled {t t' : LCDtext} (h : Refreshed t t') (hTitled : Titled t) : Titled t' := by
  rw [Refreshed] at h
  split at h
  · obtain ⟨width, rfl⟩ := h
    have hWritten : (written t).getType = t.getType := by
      rw [written]
      split <;> rfl
    intro type hType
    rw [LCDtext.getType_resetRedraw] at hType
    obtain ⟨hNeed, hString, hLen⟩ := hTitled type (hWritten.symm.trans hType)
    have hSame : written t = t := if_neg hLen
    rw [hSame]
    exact ⟨hNeed, hString, hLen⟩
  · rw [h]
    exact hTitled

theorem headerAfter_titled {type : DisplayType} {row : Fin 6} {l : Labels} (hNeed : type ≠ .fuelNeed)
    (hAdmits : Admits (l (headerPos row)) type) (hTitled : Titled (l (headerPos row))) :
    let t := headerAfter type (headerDue (headerPos row) type.code l) (l (headerPos row))
    Titled t ∧ t.getType = type.code := by
  by_cases hDue : headerDue (headerPos row) type.code l
  · simp only [hDue, hNeed, headerAfter, decide_true, if_true, if_false]
    exact ⟨headed_titled hNeed hAdmits, (headed_getType type _).trans hAdmits⟩
  · simp only [hDue, headerAfter, decide_false, Bool.false_eq_true, if_false]
    rw [headerDue, not_or, not_not] at hDue
    exact ⟨hTitled, hDue.1⟩

structure Remembered (l : Labels) : Prop where
  zero : HeadersZero l
  titled : ∀ row, Titled (l (headerPos row))

theorem act_remembered (l : Labels) (a : Action) (h : Remembered l) (hPrepared : Prepared l a) :
    Remembered (act l a) := by
  refine ⟨act_headersZero l a h.zero, ?_⟩
  intro row'
  cases a with
  | gear type value =>
    rw [act, processGear_other type value l (headerPos_ne_gear row')]
    exact h.titled row'
  | message row type value =>
    rw [act, message_header]
    split
    · exact (headerAfter_titled hPrepared.ne_fuelNeed hPrepared.header (h.titled row)).1
    · exact h.titled row'
  | update => exact (lcdUpdate_headerPos l row').titled (h.titled row')

theorem lcdInit_remembered (beyond : Nat → LCDtext) : Remembered (lcdInit (zeroed beyond)) := by
  refine ⟨lcdInit_headersZero beyond, ?_⟩
  intro row type hType
  have hNone : (lcdInit (zeroed beyond) (headerPos row)).getType = 0 := by
    obtain ⟨font, x, y, hLabel⟩ := lcdInit_label beyond (headerPos_ge row) (headerPos_lt row)
    rw [hLabel, LCDtext.getType_setRedraw]
    exact BitVec.zero_and
  exact absurd (hType.symm.trans hNone) type.code_ne_zero

theorem message_shown {l : Labels} (h : Remembered l) (row : Fin 6) {type : DisplayType} {value : Word}
    (hFits : Fits (l (headerPos row)) (l (headerPos row + 1)) type value) : Shown l (.message row type value) := by
  obtain ⟨t, hLabels, hValued⟩ := lcdProcessMessage_labels type value (headerPos_ne_gear row) l
  obtain ⟨hTitled, hType⟩ := headerAfter_titled hFits.ne_fuelNeed hFits.header (h.titled row)
  rw [valueBetween_eq fun _ => hFits.ne_fuelNeed, h.zero row] at hValued
  simp only [Shown, hLabels, set_same, set_other _ _ (headerPos_ne_value row row)]
  refine ⟨hType, (hTitled type hType).2.1, ?_, ?_, ?_⟩
  · intro hInteger
    exact (hValued.len hInteger).trans (hFits.integer hInteger)
  · intro hTime
    have hText := hFits.time hTime
    split at hText
    next hZero =>
      rw [hValued.unchanged hZero.symm]
      exact hText
    next hDue => exact (hValued.holdsText_iff (Ne.symm hDue) hTime).mpr hText
  · intro hDue
    rw [valueDue, h.zero row] at hDue
    exact (hValued.getType hDue).trans (hFits.label (Ne.symm hDue))

theorem ne_fuelNeed_of_shown {l : Labels} (h : Remembered l) {row : Fin 6} {type : DisplayType} {value : Word}
    (hShown : Shown l (.message row type value)) : type ≠ .fuelNeed := by
  rintro rfl
  have hType := hShown.title
  rw [message_header, if_pos rfl, headerAfter] at hType
  split at hType
  next =>
    rw [if_pos rfl, overrun_getType] at hType
    exact absurd hType (by decide)
  next => exact (h.titled row .fuelNeed hType).1 rfl

theorem message_fits {l : Labels} (h : Remembered l) (row : Fin 6) {type : DisplayType} {value : Word}
    (hShown : Shown l (.message row type value)) : Fits (l (headerPos row)) (l (headerPos row + 1)) type value := by
  have hNeed := ne_fuelNeed_of_shown h hShown
  obtain ⟨t, hLabels, hValued⟩ := lcdProcessMessage_labels type value (headerPos_ne_gear row) l
  rw [valueBetween_eq fun _ => hNeed, h.zero row] at hValued
  simp only [Shown, hLabels, set_same, set_other _ _ (headerPos_ne_value row row)] at hShown
  refine ⟨hNeed, ?_, ?_, ?_, ?_⟩
  · have hType := hShown.title
    rw [headerAfter] at hType
    split_ifs at hType
    · rw [headed_getType] at hType
      exact hType
    · rw [Admits, hType, BitVec.or_self]
  · intro hInteger
    exact (hValued.len hInteger).symm.trans (hShown.integer hInteger)
  · intro hTime
    split
    next hZero =>
      rw [← hValued.unchanged hZero.symm]
      exact hShown.time hTime
    next hDue => exact (hValued.holdsText_iff (Ne.symm hDue) hTime).mp (hShown.time hTime)
  · intro hDue
    have hType := hShown.valueType (by rw [valueDue, h.zero row]; exact Ne.symm hDue)
    rw [hValued.getType (Ne.symm hDue)] at hType
    exact hType

theorem shown_iff_prepared (l : Labels) (a : Action) (h : Remembered l) : Shown l a ↔ Prepared l a := by
  cases a with
  | message row type value => exact ⟨message_fits h row, message_shown h row⟩
  | gear | update => exact Iff.rfl

/-- The labels are right after every call of a history exactly when every call fits what it finds. -/
theorem history_shown_iff (beyond : Nat → LCDtext) (history : List Action) :
    StepRun.Along act Shown (lcdInit (zeroed beyond)) history ↔
      StepRun.Along act Prepared (lcdInit (zeroed beyond)) history :=
  StepRun.along_congr_of_invariant Remembered act_remembered shown_iff_prepared (lcdInit_remembered beyond) history

/-- After SPEED the header label of FUEL remembers the type 3. -/
theorem fuel_after_speed :
    ¬ StepRun.Along act Shown (lcdInit (zeroed fun _ => blank))
      [.message 0 .speed 5, .message 0 .fuel 5] := by
  rintro ⟨-, hFuel, -⟩
  exact absurd hFuel.title (by decide)

end WheelDisplay.Lcd

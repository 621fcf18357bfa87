import WheelDisplay.Lcd.Content

/-! # What a value label displays

A label of length 0 is drawn as its number, any other as the first `len` characters
of its text. A message leaves a label whose value is the number of the header label
as it is, and that number is always 0.
-/

namespace WheelDisplay.Lcd

open CString Labels

inductive Content where
  | number (number : Word)
  | text (len : Byte) (string : Option (List Byte))
  deriving DecidableEq

def LCDtext.displayed (t : LCDtext) : Content := if t.len = 0 then .number t.number else .text t.len t.string

def contentOf (type : Byte) (value : Word) : Content :=
  if isTimeCode type then .text (BitVec.ofNat 8 (timeText value).length) (some (timeText value))
  else .number value

namespace LCDtext

theorem displayed_congr {t t' : LCDtext} (hLen : t'.len = t.len) (hNumber : t'.number = t.number)
    (hText : t'.text = t.text) : t'.displayed = t.displayed := by
  rw [displayed, displayed, hLen, hNumber, string_of_text hText]

theorem displayed_number {t : LCDtext} (h : t.len = 0) : t.displayed = .number t.number := if_pos h

theorem displayed_resetRedraw (t : LCDtext) : t.resetRedraw.displayed = t.displayed := displayed_congr rfl rfl rfl

end LCDtext

theorem written_len (t : LCDtext) : (written t).len = t.len := by
  rw [written]
  split <;> rfl

theorem Refreshed.len {t t' : LCDtext} (h : Refreshed t t') : t'.len = t.len := by
  rw [Refreshed] at h
  split at h
  · obtain ⟨width, rfl⟩ := h
    exact written_len t
  · rw [h]

theorem Refreshed.displayed {t t' : LCDtext} (h : Refreshed t t') : t'.displayed = t.displayed := by
  by_cases hNumber : t.len = 0
  · rw [LCDtext.displayed_number (h.len.trans hNumber), LCDtext.displayed_number hNumber, h.number]
  · rw [Refreshed] at h
    split at h
    · obtain ⟨width, rfl⟩ := h
      rw [written, if_neg hNumber, LCDtext.displayed_resetRedraw]
      exact LCDtext.displayed_congr rfl rfl rfl
    · rw [h]

theorem valueBetween_len {type : DisplayType} (due : Bool) {t : LCDtext} (h : type.isTime = false → t.len = 0) :
    type.isTime = false → (valueBetween type due t).len = 0 := by
  intro hInteger
  rw [valueBetween]
  split
  · rfl
  · exact h hInteger

theorem valueBetween_displayed {type : DisplayType} (due : Bool) {t : LCDtext}
    (h : type.isTime = false → t.len = 0) : (valueBetween type due t).displayed = t.displayed := by
  cases hTime : type.isTime with
  | true =>
    have hNeed : type ≠ .fuelNeed := by
      rintro rfl
      cases hTime
    rw [valueBetween_eq fun _ => hNeed]
  | false =>
    rw [LCDtext.displayed_number (valueBetween_len due h hTime), LCDtext.displayed_number (h hTime)]
    congr 1
    rw [valueBetween]
    split <;> rfl

theorem valueBetween_getRedraw (type : DisplayType) (due : Bool) (t : LCDtext) :
    (valueBetween type due t).getRedraw = t.getRedraw := by
  rw [valueBetween]
  split <;> rfl

theorem contentOf_integer {type : DisplayType} (h : type.isTime = false) (value : Word) :
    contentOf type.code value = .number value := by
  rw [contentOf, if_neg]
  rw [type.isTimeCode_code, h]
  exact Bool.false_ne_true

theorem contentOf_time {type : DisplayType} (h : type.isTime = true) (value : Word) :
    contentOf type.code value = .text (BitVec.ofNat 8 (timeText value).length) (some (timeText value)) :=
  if_pos (type.isTimeCode_code.mpr h)

theorem numbered_displayed (type : DisplayType) (value : Word) {t : LCDtext} (h : t.len = 0) :
    (numbered type value t).displayed = .number value := by
  have hLen : (numbered type value t).len = 0 := h
  rw [LCDtext.displayed_number hLen]
  rfl

theorem timed_displayed_iff (type : DisplayType) {value : Word} {length : Nat} (t : LCDtext)
    (hLength : ¬ Overlong value → length = (timeText value).length) :
    (timed type value length t).displayed =
        .text (BitVec.ofNat 8 (timeText value).length) (some (timeText value)) ↔ ¬ Overlong value := by
  constructor
  · intro hDisplayed hOverlong
    rw [LCDtext.displayed, timed_string, if_pos hOverlong] at hDisplayed
    split at hDisplayed
    · cases hDisplayed
    · injection hDisplayed with _ hString
      cases hString
  · intro hShort
    have hNat := timed_len type t hShort hLength
    have hDrawn : (timed type value length t).len ≠ 0 := by
      intro hZero
      rw [hZero] at hNat
      exact (timeText_length_pos value).ne hNat
    rw [LCDtext.displayed, timed_string, if_neg hShort, if_neg hDrawn, ← hNat, BitVec.ofNat_toNat,
      BitVec.setWidth_eq]

namespace Valued

variable {type : DisplayType} {value : Word} {t t' : LCDtext}

/-- A call for 0 leaves what the label displays; any other value is displayed when its text fits. -/
theorem displayed_iff (h : Valued type value 0 t t') (hLen : type.isTime = false → t.len = 0) :
    t'.displayed = contentOf type.code value ↔
      if value = 0 then t.displayed = contentOf type.code 0 else type.isTime = true → ¬ Overlong value := by
  by_cases hZero : value = 0
  · rw [h.unchanged hZero.symm, if_pos hZero, hZero]
  · rw [Valued, if_neg (Ne.symm hZero)] at h
    rw [if_neg hZero]
    cases hTime : type.isTime with
    | true =>
      rw [if_pos hTime] at h
      obtain ⟨length, rfl, hLength⟩ := h
      rw [contentOf_time hTime, forall_prop_of_true rfl]
      exact timed_displayed_iff type t hLength
    | false =>
      rw [if_neg (hTime ▸ Bool.false_ne_true)] at h
      rw [h, contentOf_integer hTime, numbered_displayed type value (hLen hTime)]
      exact iff_of_true rfl fun hNo => absurd hNo Bool.false_ne_true

theorem getRedraw_iff (h : Valued type value 0 t t') (hClear : t.getRedraw = false) :
    t'.getRedraw = true ↔ value ≠ 0 := by
  by_cases hZero : value = 0
  · rw [h.unchanged hZero.symm, hClear, hZero]
    exact iff_of_false Bool.false_ne_true (not_not.mpr rfl)
  · refine iff_of_true ?_ hZero
    rw [Valued, if_neg (Ne.symm hZero)] at h
    split at h
    · obtain ⟨length, rfl, -⟩ := h
      rw [timed, LCDtext.getRedraw_setType, LCDtext.getRedraw_setRedraw]
    · rw [h, numbered, LCDtext.getRedraw_setType, LCDtext.getRedraw_setRedraw]

end Valued

end WheelDisplay.Lcd

import WheelDisplay.Firmware.VendorWrite
import WheelDisplay.Lcd.Displayed
import WheelDisplay.Lcd.Gear

/-! # What the display shows after a turn of the loop

A turn whose update block runs sends every value to its label, but the test for a
change compares the value with the number of the header label, which nothing sets.
-/

namespace WheelDisplay.Firmware

open Lcd Labels Usb DisplayType

def rowType (f : Firmware) (row : Fin 6) : Byte := f.lcdtypes (row.val + 1)

def rowValue (f : Firmware) (row : Fin 6) : Word := f.device.data (rowType f row).toNat

def valueLabel (f : Firmware) (row : Fin 6) : LCDtext := f.labels (headerPos row + 1)

def Shows (row : Fin 6) (f : Firmware) : Prop :=
  (valueLabel f row).displayed = contentOf (rowType f row) (rowValue f row)

def ShowsGear (f : Firmware) : Prop :=
  f.device.data typeGear.toNat < 9 → (f.labels posGear).number = f.device.data typeGear.toNat

def cleared (l : Labels) : Labels := ⟨fun k => (l k).resetRedraw⟩

/-- With REDRAW clear before them, the messages set it on the value label if they change it. -/
def RedrawExact (row : Fin 6) (f : Firmware) : Prop :=
  let l := processMessages f.lcdtypes f.device.data (cleared f.labels)
  (l (headerPos row + 1)).getRedraw = true ↔ (l (headerPos row + 1)).displayed ≠ (valueLabel f row).displayed

def Updates (f : Firmware) (e : Event) : Prop :=
  isTurn f e = true ∧ (catchButtons f).device.updatePending ≠ 0

def RowFaithful (row : Fin 6) (f : Firmware) (e : Event) : Prop :=
  Updates f e → Shows row (step f e) ∧ (f.device.buttonChange = 0 → RedrawExact row f)

def Faithful (f : Firmware) (e : Event) : Prop :=
  (∀ row, RowFaithful row f e) ∧ (Updates f e → ShowsGear (step f e))

/-- The row can show its value: a time fits the buffer, and 0 is what the label shows already. -/
def Showable (row : Fin 6) (f : Firmware) : Prop :=
  if rowValue f row = 0 then (valueLabel f row).displayed = contentOf (rowType f row) 0
  else isTimeCode (rowType f row) → ¬ Overlong (rowValue f row)

/-- The row does not show its value yet, unless that is 0. -/
def Stale (row : Fin 6) (f : Firmware) : Prop :=
  rowValue f row ≠ 0 → (valueLabel f row).displayed ≠ contentOf (rowType f row) (rowValue f row)

def RowRenewable (row : Fin 6) (f : Firmware) (e : Event) : Prop :=
  Updates f e → Showable row (catchButtons f) ∧ (f.device.buttonChange = 0 → Stale row f)

/-- The first four rows show integers and the last two show times, whatever was rotated. -/
def Typed (types : Nat → Byte) : Prop :=
  types 0 = typeGear ∧
    ∃ t : Nat → DisplayType, ∀ i, 1 ≤ i → i < lcdtypesLength →
      types i = (t i).code ∧ (t i).isTime = decide (5 ≤ i)

theorem Typed.update {types : Nat → Byte} (h : Typed types) {i : Nat} (hLow : 1 ≤ i) (hHigh : i < 5)
    {type : DisplayType} (hInteger : type.isTime = false) : Typed (Function.update types i type.code) := by
  obtain ⟨hGear, t, hRows⟩ := h
  refine ⟨?_, Function.update t i type, ?_⟩
  · rw [Function.update_of_ne (by omega), hGear]
  · intro j hjLow hjHigh
    by_cases hSame : j = i
    · rw [hSame, Function.update_self, Function.update_self, hInteger]
      exact ⟨rfl, (decide_eq_false (by omega)).symm⟩
    · rw [Function.update_of_ne hSame, Function.update_of_ne hSame]
      exact hRows j hjLow hjHigh

theorem Typed.rotateTop {types : Nat → Byte} (h : Typed types) : Typed (rotateTop types) := by
  rw [Firmware.rotateTop]
  split_ifs <;> exact (h.update (by decide) (by decide) rfl).update (by decide) (by decide) rfl

theorem Typed.rotateSecond {types : Nat → Byte} (h : Typed types) : Typed (rotateSecond types) := by
  rw [Firmware.rotateSecond]
  split_ifs <;> exact (h.update (by decide) (by decide) rfl).update (by decide) (by decide) rfl

theorem Typed.catchButtons {f : Firmware} (h : Typed f.lcdtypes) : Typed (catchButtons f).lcdtypes := by
  rw [Firmware.catchButtons]
  split
  · exact h
  · have hTop : Typed (if f.device.buttonChange.getLsbD 0 then Firmware.rotateTop f.lcdtypes else f.lcdtypes) := by
      split
      · exact h.rotateTop
      · exact h
    change Typed (if f.device.buttonChange.getLsbD 1 then Firmware.rotateSecond _ else _)
    split
    · exact hTop.rotateSecond
    · exact hTop

def Messaged (type : DisplayType) (value : Word) (header label header' label' : LCDtext) : Prop :=
  ∃ due, header' = headerAfter type due header ∧
    Valued type value header.number (valueBetween type due label) label'

theorem processType_row {types : Nat → Byte} {type : DisplayType} {i : Nat} (hRow : i ≠ 0)
    (hType : types i = type.code) (data : Nat → Word) (l : Labels) :
    Messaged type (data (types i).toNat) (l (2 * i)) (l (2 * i + 1)) (processType types data l i (2 * i))
        (processType types data l i (2 * i + 1)) ∧
      ∀ k, k ≠ 2 * i → k ≠ 2 * i + 1 → processType types data l i k = l k := by
  have hPos : 2 * i ≠ posGear := Nat.mul_ne_zero (by decide) hRow
  obtain ⟨t, hLabels, hValued⟩ := lcdProcessMessage_labels type (data (types i).toNat) hPos l
  have hStep : processType types data l i =
      (l.set (2 * i) (headerAfter type (headerDue (2 * i) type.code l) (l (2 * i)))).set (2 * i + 1) t := by
    rw [processType, hType, ← hLabels, hType]
  rw [hStep]
  constructor
  · rw [set_same, set_other _ _ (Nat.succ_ne_self _).symm, set_same]
    exact ⟨_, rfl, hValued⟩
  · intro k hHeader hLabel
    rw [set_other _ _ hLabel, set_other _ _ hHeader]

theorem processTypes_rows {types : Nat → Byte} {t : Nat → DisplayType} (data : Nat → Word) {rows : List Nat}
    (hNodup : rows.Nodup) (hRows : ∀ i ∈ rows, i ≠ 0 ∧ types i = (t i).code) (l : Labels) :
    (∀ i ∈ rows, Messaged (t i) (data (types i).toNat) (l (2 * i)) (l (2 * i + 1))
        (rows.foldl (processType types data) l (2 * i)) (rows.foldl (processType types data) l (2 * i + 1))) ∧
      ∀ k, (∀ i ∈ rows, k ≠ 2 * i ∧ k ≠ 2 * i + 1) → rows.foldl (processType types data) l k = l k := by
  induction rows generalizing l with
  | nil => exact ⟨fun i hi => absurd hi List.not_mem_nil, fun _ _ => rfl⟩
  | cons i rest ih =>
    obtain ⟨hFresh, hRest⟩ := List.nodup_cons.mp hNodup
    obtain ⟨hFirst, hOthers⟩ := List.forall_mem_cons.mp hRows
    obtain ⟨hIn, hOut⟩ := ih hRest hOthers (processType types data l i)
    obtain ⟨hMessaged, hKept⟩ := processType_row hFirst.1 hFirst.2 data l
    constructor
    · intro j hj
      rw [List.foldl_cons]
      obtain rfl | hj := List.mem_cons.mp hj
      · have hApart : ∀ i ∈ rest, i ≠ j := fun i hi hSame => hFresh (hSame ▸ hi)
        rw [hOut (2 * j) fun i hi => by have := hApart i hi; omega,
          hOut (2 * j + 1) fun i hi => by have := hApart i hi; omega]
        exact hMessaged
      · have hApart : j ≠ i := fun hSame => hFresh (hSame ▸ hj)
        have hLater := hIn j hj
        rwa [hKept (2 * j) (by omega) (by omega), hKept (2 * j + 1) (by omega) (by omega)] at hLater
    · intro k hk
      obtain ⟨hHere, hThere⟩ := List.forall_mem_cons.mp hk
      rw [List.foldl_cons, hOut k hThere, hKept k hHere.1 hHere.2]

theorem processMessages_eq (types : Nat → Byte) (data : Nat → Word) (l : Labels) :
    processMessages types data l =
      (List.range' 1 6).foldl (processType types data) (processGear (data (types 0).toNat) l) := by
  have hRows : List.range lcdtypesLength = 0 :: List.range' 1 6 := rfl
  have hGear : processType types data l 0 = processGear (data (types 0).toNat) l := rfl
  rw [processMessages, hRows, List.foldl_cons, hGear]

theorem Typed.rows {types : Nat → Byte} (h : Typed types) :
    ∃ t : Nat → DisplayType, (∀ i ∈ List.range' 1 6, i ≠ 0 ∧ types i = (t i).code) ∧
      ∀ row : Fin 6, types (row.val + 1) = (t (row.val + 1)).code ∧
        (t (row.val + 1)).isTime = decide (4 ≤ row.val) := by
  obtain ⟨-, t, hTypes⟩ := h
  refine ⟨t, ?_, ?_⟩
  · intro i hi
    obtain ⟨hLow, hHigh⟩ := List.mem_range'_1.mp hi
    exact ⟨Nat.ne_of_gt hLow, (hTypes i hLow hHigh).1⟩
  · intro row
    obtain ⟨hType, hTime⟩ := hTypes (row.val + 1) (Nat.le_add_left 1 _) (Nat.succ_lt_succ row.isLt)
    exact ⟨hType, hTime.trans (decide_eq_decide.mpr Nat.succ_le_succ_iff)⟩

theorem processMessages_row {types : Nat → Byte} (h : Typed types) (data : Nat → Word) (l : Labels) (row : Fin 6) :
    ∃ type : DisplayType, types (row.val + 1) = type.code ∧ type.isTime = decide (4 ≤ row.val) ∧
      Messaged type (data (types (row.val + 1)).toNat) (l (headerPos row)) (l (headerPos row + 1))
        (processMessages types data l (headerPos row)) (processMessages types data l (headerPos row + 1)) := by
  obtain ⟨t, hRows, hTypes⟩ := h.rows
  have hGear : ∀ k, k ≠ posGear → processGear (data (types 0).toNat) l k = l k :=
    fun k hk => processGear_other (types 0) _ l hk
  have hMem : row.val + 1 ∈ List.range' 1 6 := by
    rw [List.mem_range'_1]
    omega
  have hMessaged := (processTypes_rows data List.nodup_range' hRows (processGear (data (types 0).toNat) l)).1 _ hMem
  have hPos : 2 * (row.val + 1) = headerPos row := rfl
  rw [hPos, hGear _ (headerPos_ne_gear row), hGear _ (Nat.succ_ne_zero (headerPos row)),
    ← processMessages_eq] at hMessaged
  exact ⟨t (row.val + 1), (hTypes row).1, (hTypes row).2, hMessaged⟩

theorem processGear_number {value : Word} (h : value < 9) (l : Labels) :
    (processGear value l posGear).number = value := by
  rw [processGear_gear, if_pos h]

theorem processMessages_gear {types : Nat → Byte} (h : Typed types) (data : Nat → Word) (l : Labels)
    (hValue : data typeGear.toNat < 9) :
    (processMessages types data l posGear).number = data typeGear.toNat := by
  obtain ⟨t, hRows, -⟩ := h.rows
  have hOther : ∀ i ∈ List.range' 1 6, posGear ≠ 2 * i ∧ posGear ≠ 2 * i + 1 := by
    intro i hi
    obtain ⟨hLow, -⟩ := List.mem_range'_1.mp hi
    simp only [posGear]
    omega
  rw [processMessages_eq, (processTypes_rows data List.nodup_range' hRows _).2 posGear hOther, h.1,
    processGear_number hValue]

structure Regular (f : Firmware) : Prop where
  typed : Typed f.lcdtypes
  zero : HeadersZero f.labels
  integers : ∀ row : Fin 6, row.val < 4 → (valueLabel f row).len = 0

theorem catchButtons_label (f : Firmware) (k : Nat) :
    (catchButtons f).labels k = f.labels k ∨ (catchButtons f).labels k = (f.labels k).setRedraw := by
  rw [catchButtons]
  split
  · exact Or.inl rfl
  · change redrawAll f.labels k = _ ∨ redrawAll f.labels k = _
    simp only [redrawAll]
    split
    · exact Or.inr rfl
    · exact Or.inl rfl

theorem catchButtons_number (f : Firmware) (k : Nat) :
    ((catchButtons f).labels k).number = (f.labels k).number := by
  obtain hLabel | hLabel := catchButtons_label f k <;> rw [hLabel]
  rfl

theorem catchButtons_len (f : Firmware) (k : Nat) : ((catchButtons f).labels k).len = (f.labels k).len := by
  obtain hLabel | hLabel := catchButtons_label f k <;> rw [hLabel]
  rfl

theorem catchButtons_regular {f : Firmware} (h : Regular f) : Regular (catchButtons f) where
  typed := h.typed.catchButtons
  zero := fun row => (catchButtons_number f _).trans (h.zero row)
  integers := fun row hRow => (catchButtons_len f _).trans (h.integers row hRow)

theorem update_labels {f : Firmware} (hPending : f.device.updatePending ≠ 0) :
    (update f).labels = (lcdUpdate (processMessages f.lcdtypes f.device.data f.labels)).2 := by
  rw [update, if_neg hPending]

theorem update_row {f : Firmware} (h : Regular f) (hPending : f.device.updatePending ≠ 0) (row : Fin 6) :
    ∃ type header label, rowType f row = type.code ∧ type.isTime = decide (4 ≤ row.val) ∧
      Messaged type (rowValue f row) (f.labels (headerPos row)) (valueLabel f row) header label ∧
      Refreshed header ((update f).labels (headerPos row)) ∧ Refreshed label (valueLabel (update f) row) := by
  obtain ⟨type, hType, hTime, hMessaged⟩ := processMessages_row h.typed f.device.data f.labels row
  refine ⟨type, _, _, hType, hTime, hMessaged, ?_, ?_⟩
  · rw [update_labels hPending]
    exact lcdUpdate_headerPos _ row
  · rw [valueLabel, update_labels hPending]
    exact lcdUpdate_refreshed _ (Nat.le_succ_of_le (headerPos_ge row)) (headerPos_succ_lt row)

theorem update_types_data (f : Firmware) :
    (update f).lcdtypes = f.lcdtypes ∧ (update f).device.data = f.device.data := by
  obtain ⟨pending, hUpdate⟩ := update_device f
  exact ⟨update_lcdtypes f, by rw [hUpdate]⟩

theorem update_regular {f : Firmware} (h : Regular f) : Regular (update f) := by
  by_cases hPending : f.device.updatePending = 0
  · rw [update, if_pos hPending]
    exact h
  · refine ⟨(update_types_data f).1 ▸ h.typed, ?_, ?_⟩
    · intro row
      obtain ⟨type, header, label, -, -, ⟨due, rfl, -⟩, hHeader, -⟩ := update_row h hPending row
      rw [hHeader.number, headerAfter_number]
      exact h.zero row
    · intro row hRow
      obtain ⟨type, header, label, -, hTime, ⟨due, -, hValued⟩, -, hLabel⟩ := update_row h hPending row
      have hInteger : type.isTime = false := hTime.trans (decide_eq_false (Nat.not_le_of_lt hRow))
      rw [hLabel.len, hValued.len hInteger]
      exact valueBetween_len due (fun _ => h.integers row hRow) hInteger

theorem integers_of_type {f : Firmware} (h : Regular f) {row : Fin 6} {type : DisplayType}
    (hTime : type.isTime = decide (4 ≤ row.val)) : type.isTime = false → (valueLabel f row).len = 0 := by
  intro hInteger
  rw [hTime, decide_eq_false_iff_not] at hInteger
  exact h.integers row (Nat.lt_of_not_le hInteger)

theorem messaged_displayed_iff {f : Firmware} (h : Regular f) {row : Fin 6} {type : DisplayType}
    (hType : rowType f row = type.code) (hTime : type.isTime = decide (4 ≤ row.val))
    {header label header' label' : LCDtext} (hNumber : header.number = 0)
    (hLen : label.len = (valueLabel f row).len) (hDisplayed : label.displayed = (valueLabel f row).displayed)
    (hMessaged : Messaged type (rowValue f row) header label header' label') :
    label'.displayed = contentOf (rowType f row) (rowValue f row) ↔ Showable row f := by
  obtain ⟨due, -, hValued⟩ := hMessaged
  have hInteger : type.isTime = false → label.len = 0 := fun hNo => hLen.trans (integers_of_type h hTime hNo)
  rw [hNumber] at hValued
  rw [hType, hValued.displayed_iff (valueBetween_len due hInteger), valueBetween_displayed due hInteger, hDisplayed,
    Showable, hType, type.isTimeCode_code]

theorem update_gear {f : Firmware} (h : Regular f) (hPending : f.device.updatePending ≠ 0) : ShowsGear (update f) := by
  rw [ShowsGear, (update_types_data f).2]
  intro hValue
  have hMessages := processMessages_gear h.typed f.device.data f.labels hValue
  rw [update_labels hPending, lcdUpdate_other _ (Or.inl (by decide)), updateGear]
  split
  · rw [modify_eq, set_same]
    exact hMessages
  · exact hMessages

theorem update_shows_iff {f : Firmware} (h : Regular f) (hPending : f.device.updatePending ≠ 0) (row : Fin 6) :
    Shows row (update f) ↔ Showable row f := by
  obtain ⟨hTypes, hData⟩ := update_types_data f
  obtain ⟨type, header, label, hType, hTime, hMessaged, -, hLabel⟩ := update_row h hPending row
  rw [Shows, rowValue, rowType, hTypes, hData, hLabel.displayed]
  exact messaged_displayed_iff h hType hTime (h.zero row) rfl rfl hMessaged

theorem redrawExact_iff {f : Firmware} (h : Regular f) {row : Fin 6} (hShowable : Showable row f) :
    RedrawExact row f ↔ Stale row f := by
  obtain ⟨type, hType, hTime, hMessaged⟩ := processMessages_row h.typed f.device.data (cleared f.labels) row
  have hZero : (cleared f.labels (headerPos row)).number = 0 := h.zero row
  have hLen : (cleared f.labels (headerPos row + 1)).len = (valueLabel f row).len := rfl
  have hSame : (cleared f.labels (headerPos row + 1)).displayed = (valueLabel f row).displayed :=
    LCDtext.displayed_resetRedraw (valueLabel f row)
  have hDisplayed := (messaged_displayed_iff h hType hTime hZero hLen hSame hMessaged).mpr hShowable
  obtain ⟨due, -, hValued⟩ := hMessaged
  rw [hZero] at hValued
  have hRedraw := hValued.getRedraw_iff
    ((valueBetween_getRedraw type due _).trans (LCDtext.getRedraw_resetRedraw (valueLabel f row)))
  have hValue : f.device.data (f.lcdtypes (row.val + 1)).toNat = rowValue f row := rfl
  rw [RedrawExact, hRedraw, hDisplayed, Stale, hValue]
  by_cases hNone : rowValue f row = 0
  · rw [Showable, if_pos hNone] at hShowable
    rw [hNone, hShowable]
    simp
  · simp only [ne_eq, hNone, not_false_eq_true, true_iff, forall_const]
    exact not_congr eq_comm

theorem updates_step {f : Firmware} {e : Event} (h : Updates f e) :
    ∃ filter sample, step f e =
      { update (catchButtons f) with filter := filter, audioSample := sample, next := .hid } := by
  obtain ⟨hTurn, -⟩ := h
  cases e with
  | task found =>
    have hNext : f.next = .body := eq_of_beq hTurn
    obtain ⟨filter, sample, hBody⟩ := body_eq found.voice found.noise f
    refine ⟨filter, sample, ?_⟩
    rw [step, runTask, hNext]
    simp only [hBody]
  | _ => cases hTurn

theorem row_faithful_iff {f : Firmware} (h : Regular f) (row : Fin 6) (e : Event) :
    RowFaithful row f e ↔ RowRenewable row f e := by
  apply imp_congr_right
  intro hUpdates
  obtain ⟨filter, sample, hStep⟩ := updates_step hUpdates
  have hShows : Shows row (step f e) ↔ Shows row (update (catchButtons f)) := by
    rw [hStep]
    exact Iff.rfl
  rw [hShows, update_shows_iff (catchButtons_regular h) hUpdates.2]
  apply and_congr_right
  intro hShowable
  apply imp_congr_right
  intro hIdle
  have hSame : catchButtons f = f := if_pos hIdle
  rw [hSame] at hShowable
  exact redrawExact_iff h hShowable

theorem gear_shown {f : Firmware} (h : Regular f) {e : Event} (hUpdates : Updates f e) : ShowsGear (step f e) := by
  obtain ⟨filter, sample, hStep⟩ := updates_step hUpdates
  rw [hStep]
  exact update_gear (catchButtons_regular h) hUpdates.2

theorem step_regular (f : Firmware) (e : Event) (h : Regular f) : Regular (step f e) := by
  cases e with
  | task found =>
    rw [step, runTask]
    split
    · exact ⟨h.typed, h.zero, h.integers⟩
    · exact ⟨h.typed, h.zero, h.integers⟩
    · obtain ⟨filter, sample, hBody⟩ := body_eq found.voice found.noise f
      simp only [hBody]
      have hTurn := update_regular (catchButtons_regular h)
      exact ⟨hTurn.typed, hTurn.zero, hTurn.integers⟩
  | _ => exact ⟨h.typed, h.zero, h.integers⟩

theorem entry_regular (beyond : Nat → LCDtext) : Regular (entry beyond) := by
  refine ⟨⟨rfl, fun i => [fuelNeed, rpm, speed, pos, lap, laptime, delta].getD i fuelNeed, ?_⟩,
    lcdInit_headersZero beyond, ?_⟩
  · intro i hLow hHigh
    simp only [lcdtypesLength] at hHigh
    interval_cases i <;> exact ⟨rfl, rfl⟩
  · intro row hRow
    obtain ⟨font, x, y, hLabel⟩ :=
      lcdInit_label beyond (Nat.le_succ_of_le (headerPos_ge row)) (headerPos_succ_lt row)
    exact (congrArg LCDtext.len hLabel).trans rfl

/-- The body has not run yet: an update is due, every value label shows a number, and of the two times at most one has
been written. -/
structure Unturned (f : Firmware) : Prop where
  regular : Regular f
  pending : f.device.updatePending ≠ 0
  types : f.lcdtypes 5 = laptime.code ∧ f.lcdtypes 6 = delta.code
  numbers : ∀ row, (valueLabel f row).len = 0
  written : f.device.data laptime.code.toNat = 0 ∨ f.device.data delta.code.toNat = 0
  unwritten : f.next ≠ .body → f.device.data laptime.code.toNat = 0 ∧ f.device.data delta.code.toNat = 0

theorem entry_unturned (beyond : Nat → LCDtext) : Unturned (entry beyond) := by
  refine ⟨entry_regular beyond, (by decide : (1 : Byte) ≠ 0), ⟨rfl, rfl⟩, ?_, Or.inl rfl, fun _ => ⟨rfl, rfl⟩⟩
  intro row
  obtain ⟨font, x, y, hLabel⟩ := lcdInit_label beyond (Nat.le_succ_of_le (headerPos_ge row)) (headerPos_succ_lt row)
  exact (congrArg LCDtext.len hLabel).trans rfl

/-- One packet writes one cell at most. -/
theorem usbTask_unturned (env : Environment) {d : Device} (hPending : d.updatePending ≠ 0)
    (hTimes : d.data laptime.code.toNat = 0 ∧ d.data delta.code.toNat = 0) :
    (usbTask env d).updatePending ≠ 0 ∧
      ((usbTask env d).data laptime.code.toNat = 0 ∨ (usbTask env d).data delta.code.toNat = 0) := by
  obtain ⟨hData, hSame⟩ | ⟨r, -, -, hData, hDue⟩ := usbTask_cases env d
  · rw [hData, hSame]
    exact ⟨hPending, Or.inl hTimes.1⟩
  rw [hData, hDue]
  constructor
  · split
    · decide
    · exact hPending
  · obtain hLap | hOther := eq_or_ne r.bRequest.toNat laptime.code.toNat
    · have hDelta : delta.code.toNat ≠ r.bRequest.toNat := by
        rw [hLap]
        decide
      exact Or.inr ((Function.update_of_ne hDelta ..).trans hTimes.2)
    · exact Or.inl ((Function.update_of_ne hOther.symm ..).trans hTimes.1)

theorem step_unturned {f : Firmware} {e : Event} (h : Unturned f) (hTurn : isTurn f e = false) :
    Unturned (step f e) := by
  have hRegular := step_regular f e h.regular
  cases e with
  | task found =>
    rw [step, runTask] at hRegular ⊢
    cases hNext : f.next with
    | hid =>
      obtain ⟨hData, hPending⟩ := Hid.usbTask_data found.frameNumber found.ready found.buttons f.device
      rw [hNext] at hRegular
      have hTimes := h.unwritten (by rw [hNext]; decide)
      refine ⟨hRegular, ?_, h.types, h.numbers, ?_, fun _ => ?_⟩
      · rw [hPending]
        exact h.pending
      · rw [hData]
        exact h.written
      · rw [hData]
        exact hTimes
    | usb =>
      rw [hNext] at hRegular
      obtain ⟨hPending, hWritten⟩ := usbTask_unturned found.host h.pending (h.unwritten (by rw [hNext]; decide))
      exact ⟨hRegular, hPending, h.types, h.numbers, hWritten, fun hNot => absurd rfl hNot⟩
    | body =>
      rw [isTurn, hNext] at hTurn
      cases hTurn
  | _ => exact ⟨hRegular, h.pending, h.types, h.numbers, h.written, h.unwritten⟩

/-- The buttons rotate the first four types. -/
theorem catchButtons_type (f : Firmware) {k : Nat} (h : 4 < k) : (catchButtons f).lcdtypes k = f.lcdtypes k := by
  have hTop : ∀ types, rotateTop types k = types k := by
    intro types
    rw [rotateTop]
    split_ifs <;> exact assign_other (by omega) (by omega) ..
  have hSecond : ∀ types, rotateSecond types k = types k := by
    intro types
    rw [rotateSecond]
    split_ifs <;> exact assign_other (by omega) (by omega) ..
  rw [catchButtons]
  split
  · rfl
  · dsimp only
    split_ifs
    · rw [hSecond, hTop]
    · rw [hSecond]
    · rw [hTop]
    · rfl

theorem catchButtons_pending {f : Firmware} (h : f.device.updatePending ≠ 0) :
    (catchButtons f).device.updatePending ≠ 0 := by
  rw [catchButtons]
  split
  · exact h
  · exact (by decide : (1 : Byte) ≠ 0)

/-- The first turn finds a time at 0, and its label shows a number. -/
theorem Unturned.not_faithful {f : Firmware} {e : Event} (h : Unturned f) (hTurn : isTurn f e = true) :
    ¬ Faithful f e := by
  have hUpdates : Updates f e := ⟨hTurn, catchButtons_pending h.pending⟩
  obtain ⟨pending, hDevice⟩ := catchButtons_device f
  have hTimes : ∃ row, rowValue (catchButtons f) row = 0 ∧ isTimeCode (rowType (catchButtons f) row) := by
    obtain ⟨hLap, hDelta⟩ := h.types
    have hLapType : rowType (catchButtons f) 4 = laptime.code := (catchButtons_type f (by decide)).trans hLap
    have hDeltaType : rowType (catchButtons f) 5 = delta.code := (catchButtons_type f (by decide)).trans hDelta
    obtain hZero | hZero := h.written
    · refine ⟨4, ?_, ?_⟩
      · rw [rowValue, hLapType, hDevice]
        exact hZero
      · rw [hLapType]
        decide
    · refine ⟨5, ?_, ?_⟩
      · rw [rowValue, hDeltaType, hDevice]
        exact hZero
      · rw [hDeltaType]
        decide
  obtain ⟨row, hZero, hTime⟩ := hTimes
  have hNumber : (valueLabel (catchButtons f) row).len = 0 := (catchButtons_len f _).trans (h.numbers row)
  intro hFaithful
  have hShowable := ((row_faithful_iff h.regular row e).mp (hFaithful.1 row) hUpdates).1
  rw [Showable, if_pos hZero, LCDtext.displayed_number hNumber, contentOf, if_pos hTime] at hShowable
  cases hShowable

theorem Unturned.faithful_iff {f : Firmware} (h : Unturned f) (e : Event) : Faithful f e ↔ isTurn f e = false := by
  cases hTurn : isTurn f e with
  | true => exact iff_of_false (h.not_faithful hTurn) nofun
  | false =>
    have hNone : ¬ Updates f e := fun hUpdates => Bool.false_ne_true (hTurn.symm.trans hUpdates.1)
    exact iff_of_true ⟨fun _ hUpdates => absurd hUpdates hNone, fun hUpdates => absurd hUpdates hNone⟩ rfl

/-- In a run whose writes keep to `data`, the display as a whole is never faithful once the body has run, since the
first turn already finds a time at 0. After every update the gear is shown. Each row shows its value, and is redrawn
when it changes, exactly when every turn finds it renewable. -/
theorem turns_faithful_iff (beyond : Nat → LCDtext) (events : List Event) :
    (StepRun.Along step (fun f e => WithinData f e ∧ Faithful f e) (entry beyond) events ↔
        StepRun.Along step (fun f e => WithinData f e ∧ isTurn f e = false) (entry beyond) events) ∧
      (StepRun.Along step (fun f e => WithinData f e ∧ (Updates f e → ShowsGear (step f e))) (entry beyond) events ↔
        StepRun.Along step WithinData (entry beyond) events) ∧
      ∀ row,
        StepRun.Along step (fun f e => WithinData f e ∧ RowFaithful row f e) (entry beyond) events ↔
          StepRun.Along step (fun f e => WithinData f e ∧ RowRenewable row f e) (entry beyond) events := by
  refine ⟨?_, ?_, ?_⟩
  · exact StepRun.along_congr_of_invariant Unturned (fun _ _ h hTurn => step_unturned h hTurn.2)
      (fun _ e h => and_congr_right fun _ => h.faithful_iff e) (entry_unturned beyond) events
  · exact StepRun.along_congr_of_invariant Regular (fun f e h _ => step_regular f e h)
      (fun _ _ h => and_iff_left fun hUpdates => gear_shown h hUpdates) (entry_regular beyond) events
  · intro row
    exact StepRun.along_congr_of_invariant Regular (fun f e h _ => step_regular f e h)
      (fun _ e h => and_congr_right fun _ => row_faithful_iff h row e) (entry_regular beyond) events

def returning : List Event :=
  [.wakeUp, .reset, .setup ⟨64, 1, 5, 0, 0⟩, .task idle, .task idle, .task idle,
    .setup ⟨64, 1, 0, 0, 0⟩, .task idle, .task idle]

/-- The next turn leaves the 5 on the display. -/
theorem zero_not_shown :
    (step (run (fun _ => blank) returning) (.task idle)).device.data 1 = 0 ∧
      (valueLabel (step (run (fun _ => blank) returning) (.task idle)) 1).number = 5 ∧
      ¬ StepRun.Along step (fun f e => WithinData f e ∧ Faithful f e) (entry fun _ => blank)
        (returning ++ [.task idle]) := by
  refine ⟨by decide +kernel, by decide +kernel, ?_⟩
  intro hAlong
  rw [StepRun.along_append] at hAlong
  have hUpdates : Updates (run (fun _ => blank) returning) (.task idle) :=
    ⟨by decide +kernel, by decide +kernel⟩
  have hShows := (hAlong.2.1.2.1 1 hUpdates).1
  rw [Shows] at hShows
  exact absurd hShows (by decide +kernel)

end WheelDisplay.Firmware

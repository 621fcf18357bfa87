import Mathlib.Tactic.IntervalCases
import WheelDisplay.Ks0108.Bus
import WheelDisplay.Lcd.Font
import WheelDisplay.Lcd.Message

/-! # Drawing

A drawing function gives the `ks0108_instruction` calls it makes, in order. The
remainder `x % (controller * 64)` is that of `Nat`, where `x % 0` is `x`, as the
division routine of the compiler returns it.
-/

namespace WheelDisplay.Lcd

open CString Ks0108 Labels

def fontSmall : Byte := 0

def fontLarge : Byte := 1

def fontHuge : Byte := 2

def setPage (controller page : Byte) : Call := ⟨controller, 0xB8 + page, 0⟩

def setAddress (controller address : Byte) : Call := ⟨controller, 0x40 + address, 0⟩

def writeColumn (controller column : Byte) : Call := ⟨controller, column, 1⟩

def controllerOf (x : Byte) : Byte := if x < 64 then 0 else 1

def columnOf (x controller : Byte) : Byte := BitVec.ofNat 8 (x.toNat % (controller.toNat * 64))

def ks0108Clear : List Call :=
  [0, 1].flatMap fun controller =>
    [⟨controller, 0x3F, 0⟩, ⟨controller, 0xC0, 0⟩] ++
      (List.range 9).flatMap fun page =>
        [setPage controller (BitVec.ofNat 8 page), setAddress controller 0] ++
          List.replicate 64 (writeColumn controller 0)

/-- The pen of a drawing loop: the column and the controller it is at, and the calls made so far. -/
structure Pen where
  x : Byte
  controller : Byte
  calls : List Call

namespace Pen

def emit (p : Pen) (calls : List Call) : Pen := { p with calls := p.calls ++ calls }

/-- The line from one controller to the next is crossed at column 64. -/
def cross (p : Pen) (page : Byte) : Pen :=
  if p.x = 64 then { p with controller := 1 }.emit [setPage 1 page, setAddress 1 0] else p

def put (p : Pen) (column : Byte) : Pen :=
  if p.x < 128 then { p.emit [writeColumn p.controller column] with x := p.x + 1 } else p

end Pen

def ks0108ClearRange (lpage hpage laddress haddress : Byte) : List Call :=
  (List.range' lpage.toNat (hpage.toNat + 1 - lpage.toNat)).flatMap fun page =>
    let page : Byte := BitVec.ofNat 8 page
    let start : Pen := ⟨laddress, controllerOf laddress,
      [setPage (controllerOf laddress) page, setAddress (controllerOf laddress) (laddress % 64)]⟩
    let finish := (List.range (haddress.toNat - laddress.toNat)).foldl
      (fun p _ =>
        let p := p.cross page
        { p.emit [writeColumn p.controller 0] with x := p.x + 1 }) start
    finish.calls

def lcdWritechar8 (x page character : Byte) : Byte × List Call :=
  let controller := controllerOf x
  let start : Pen := ⟨x, controller, [setPage controller page, setAddress controller (columnOf x controller)]⟩
  let finish := (font8.getD character.toNat []).foldl
    (fun p column => if column ≠ 0 then (p.cross page).put column else p) start
  (finish.x + 1, finish.calls ++ [writeColumn finish.controller 0])

/-- One page of a character of the large font; `glyph` is the whole character. -/
def lcdWritechar16Page (startx page : Byte) (glyph : List (List Byte)) (i : Nat) (calls : List Call) : Pen :=
  let page := page + BitVec.ofNat 8 i
  let controller := controllerOf startx
  let start : Pen := ⟨startx, controller,
    calls ++ [setPage controller page, setAddress controller (columnOf startx controller)]⟩
  (List.range 9).foldl
    (fun p j =>
      if (glyph.getD 0 []).getD j 0 ||| (glyph.getD 1 []).getD j 0 ≠ 0 then
        (p.cross page).put ((glyph.getD i []).getD j 0)
      else p) start

def lcdWritechar16 (x page character : Byte) : Byte × List Call :=
  let glyph := font16.getD character.toNat []
  let upper := lcdWritechar16Page x page glyph 0 []
  let lower := lcdWritechar16Page x page glyph 1 upper.calls
  if lower.x < 128 then
    let space (i : Byte) : List Call :=
      [setPage lower.controller (page + i), setAddress lower.controller (columnOf lower.x lower.controller),
        writeColumn lower.controller 0]
    (lower.x + 1, lower.calls ++ space 0 ++ space 1)
  else (lower.x, lower.calls)

def lcdWritegear (gear : Byte) : List Call :=
  ks0108ClearRange 0 5 0 25 ++
    (List.range 5).flatMap fun line =>
      [setPage 0 (BitVec.ofNat 8 line), setAddress 0 0] ++
        (List.range 25).map fun i =>
          writeColumn 0 (((font40.getD gear.toNat []).getD line []).getD i 0)

/-- One character of `LCD_writestring`. -/
def writeCharacter (font y : Byte) (number : Word) (x c : Byte) : Byte × List Call :=
  if font = fontLarge then
    if 0x2F < c ∧ c < 0x3A then lcdWritechar16 x y (c - 0x30)
    else if c = 0x2D then lcdWritechar16 x y 0x0A
    else (x, [])
  else if font = fontSmall then
    if 0x60 < c ∧ c < 0x7B then lcdWritechar8 x y (c - 0x61)
    else if 0x2F < c ∧ c < 0x3A then lcdWritechar8 x y (c - 0x16)
    else if c = 0x20 then (x + 1, [])
    else if c = 0x2E then lcdWritechar8 x y 36
    else if c = 0x3A then lcdWritechar8 x y 37
    else if c = 0x2D then lcdWritechar8 x y 38
    else (x, [])
  else if font = fontHuge then
    if 0x2F < c ∧ c < 0x3A then (x, lcdWritegear (number.setWidth 8)) else (x, [])
  else (x, [])

/-- The number of characters that `LCD_writestring` draws of a number. `number` is unsigned, so `-10`
and the like are converted to 65526 and the like. -/
def numberLength (number : Word) : Byte :=
  if number < 10 ∧ number > -10 then 1
  else if number < 100 ∧ number > -100 then 2
  else if number < 1000 ∧ number > -1000 then 3
  else if number < 10000 ∧ number > -10000 then 4
  else 5

def formatNumber (k : Nat) (l : Labels) : Labels :=
  (l.store (textAddress k 0) (itoa (l k).number.toInt ++ [0])).modify k fun t =>
    { t with len := numberLength t.number }

def drawText (k : Nat) (l : Labels) : Byte × List Call :=
  let t := l k
  (List.range t.len.toNat).foldl
    (fun (drawn : Byte × List Call) i =>
      let (x, calls) := writeCharacter t.font t.y t.number drawn.1 (l.byteAt (textAddress k i))
      (x, drawn.2 ++ calls)) (t.x, [])

def cleanUp (t : LCDtext) (x : Byte) : List Call :=
  if x.toNat < t.x.toNat + t.width.toNat then
    if t.font = fontSmall then ks0108ClearRange t.y t.y x (t.x + t.width)
    else if t.font = fontLarge then ks0108ClearRange t.y (t.y + 1) x (t.x + t.width)
    else []
  else []

def lcdWritestring (k : Nat) (l : Labels) : List Call × Labels :=
  let isnum := (l k).len < 1
  let l := if isnum then formatNumber k l else l
  let (x, calls) := drawText k l
  let l := if isnum then l.modify k fun t => { t with len := 0 } else l
  (calls ++ cleanUp (l k) x, l.modify k fun t => { t with width := x - t.x }.resetRedraw)

def updateLabel (k : Nat) (l : Labels) : List Call × Labels :=
  if (l k).getRedraw then
    let (calls, l) := lcdWritestring k l
    (calls, l.modify k LCDtext.resetRedraw)
  else ([], l)

def updateGear (l : Labels) : List Call × Labels :=
  if (l posGear).getRedraw then
    (lcdWritegear ((l posGear).number.setWidth 8), l.modify posGear LCDtext.resetRedraw)
  else ([], l)

def updateStep (drawn : List Call × Labels) (k : Nat) : List Call × Labels :=
  let (calls, l) := updateLabel k drawn.2
  (drawn.1 ++ calls, l)

def lcdUpdate (l : Labels) : List Call × Labels := (List.range' 2 12).foldl updateStep (updateGear l)

def initLabel (k : Nat) (font x y : Byte) (l : Labels) : Labels :=
  l.modify k fun t => { t with font := font, x := x, y := y }.setRedraw

def leftcol : Byte := 28

def rightcol : Byte := 80

/-- What `LCDinit` does to the labels, after `ks0108_init`. -/
def lcdInit (l : Labels) : Labels :=
  let l := l.modify posGear fun t => { t with font := fontHuge, number := 8 }.setRedraw
  let l := initLabel 3 fontLarge leftcol 1 (initLabel 2 fontSmall leftcol 0 l)
  let l := initLabel 5 fontLarge rightcol 1 (initLabel 4 fontSmall rightcol 0 l)
  let l := initLabel 7 fontLarge leftcol 4 (initLabel 6 fontSmall leftcol 3 l)
  let l := initLabel 9 fontLarge rightcol 4 (initLabel 8 fontSmall rightcol 3 l)
  let l := initLabel 11 fontSmall 0 7 (initLabel 10 fontSmall 0 6 l)
  initLabel 13 fontSmall 64 7 (initLabel 12 fontSmall 64 6 l)

def blank : LCDtext := ⟨0, 0, 0, 0, 0, 0, fun _ => 0, 0⟩

/-- The array before `LCDinit`, with any memory after it. -/
def zeroed (beyond : Nat → LCDtext) : Labels := ⟨fun k => if k < 14 then blank else beyond k⟩

theorem lcdInit_label (beyond : Nat → LCDtext) {k : Nat} (hLow : 2 ≤ k) (hHigh : k < 14) :
    ∃ font x y, lcdInit (zeroed beyond) k = { blank with font := font, x := x, y := y }.setRedraw := by
  interval_cases k <;> exact ⟨_, _, _, rfl⟩

def written (t : LCDtext) : LCDtext :=
  if t.len = 0 then overwrite t 0 (itoa t.number.toInt ++ [0]) else t

/-- A redraw changes no more than the text of a number, the width and the redraw flag. -/
def Refreshed (t t' : LCDtext) : Prop :=
  if t.getRedraw then ∃ width, t' = { written t with width := width }.resetRedraw else t' = t

theorem itoa_toInt_length (number : Word) : (itoa number.toInt).length < 9 := by
  have hAbs : number.toInt.natAbs < 10 ^ 5 := by
    have hLow := BitVec.le_toInt number
    have hHigh := BitVec.toInt_lt (x := number)
    omega
  have hDigits : (digits number.toInt.natAbs).length ≤ 5 := by
    rw [digits, List.length_map]
    exact (Nat.length_toDigits_le_iff (by decide) (by decide)).mpr hAbs
  rw [itoa]
  split
  · rw [List.length_cons]
    omega
  · omega

theorem lcdWritestring_labels (k : Nat) (l : Labels) :
    ∃ width, (lcdWritestring k l).2 = l.set k { written (l k) with width := width }.resetRedraw := by
  rw [lcdWritestring]
  by_cases h : (l k).len = 0
  · have hNum : (l k).len < 1 := by
      rw [h]
      decide
    have hFits : 0 + (itoa (l k).number.toInt ++ [0]).length ≤ 9 := by
      rw [Nat.zero_add, List.length_append, List.length_singleton]
      exact itoa_toInt_length _
    refine ⟨(drawText k (formatNumber k l)).1 - (l k).x, ?_⟩
    simp only [hNum, if_true, formatNumber, store_text l k hFits, modify_set]
    rw [written, if_pos h]
    congr 1
    rw [← h]
    rfl
  · have hText : ¬ (l k).len < 1 := by
      intro hNum
      apply h
      bv_omega
    refine ⟨(drawText k l).1 - (l k).x, ?_⟩
    simp only [hText, if_false, modify_eq]
    rw [written, if_neg h]

theorem updateLabel_labels (k : Nat) (l : Labels) :
    ∃ t, (updateLabel k l).2 = l.set k t ∧ Refreshed (l k) t := by
  rw [updateLabel]
  cases hRedraw : (l k).getRedraw with
  | true =>
    obtain ⟨width, hLabels⟩ := lcdWritestring_labels k l
    refine ⟨{ written (l k) with width := width }.resetRedraw.resetRedraw, ?_, ?_⟩
    · simp only [if_true, hLabels, modify_set]
    · rw [Refreshed, if_pos hRedraw]
      refine ⟨width, ?_⟩
      rw [LCDtext.resetRedraw_resetRedraw]
  | false =>
    refine ⟨l k, ?_, ?_⟩
    · rw [set_self]
      rfl
    · rw [Refreshed, hRedraw]
      rfl

theorem updateStep_foldl {ks : List Nat} (hNodup : ks.Nodup) (drawn : List Call × Labels) :
    (∀ k ∈ ks, Refreshed (drawn.2 k) ((ks.foldl updateStep drawn).2 k)) ∧
      (∀ k ∉ ks, (ks.foldl updateStep drawn).2 k = drawn.2 k) := by
  induction ks generalizing drawn with
  | nil => exact ⟨fun k hk => absurd hk List.not_mem_nil, fun _ _ => rfl⟩
  | cons i rest ih =>
    obtain ⟨hFresh, hRest⟩ := List.nodup_cons.mp hNodup
    obtain ⟨hIn, hOut⟩ := ih hRest (updateStep drawn i)
    obtain ⟨t, hLabels, hRefreshed⟩ := updateLabel_labels i drawn.2
    have hStep : (updateStep drawn i).2 = drawn.2.set i t := hLabels
    rw [hStep] at hIn hOut
    constructor
    · intro k hk
      rw [List.foldl_cons]
      obtain rfl | hk := List.mem_cons.mp hk
      · rw [hOut k hFresh, set_same]
        exact hRefreshed
      · have hOther : k ≠ i := fun h => hFresh (h ▸ hk)
        have hLater := hIn k hk
        rw [set_other _ _ hOther] at hLater
        exact hLater
    · intro k hk
      rw [List.mem_cons, not_or] at hk
      rw [List.foldl_cons, hOut k hk.2, set_other _ _ hk.1]

theorem updateGear_other (l : Labels) {k : Nat} (h : k ≠ posGear) : (updateGear l).2 k = l k := by
  rw [updateGear]
  split
  · rw [modify_eq]
    exact set_other l _ h
  · rfl

theorem lcdUpdate_refreshed (l : Labels) {k : Nat} (hLow : 2 ≤ k) (hHigh : k < 14) :
    Refreshed (l k) ((lcdUpdate l).2 k) := by
  have hGear : k ≠ posGear := Nat.ne_of_gt (Nat.lt_of_lt_of_le (by decide) hLow)
  rw [← updateGear_other l hGear]
  exact (updateStep_foldl List.nodup_range' (updateGear l)).1 k (by rw [List.mem_range'_1]; omega)

theorem lcdUpdate_other (l : Labels) {k : Nat} (h : k < 2 ∨ 14 ≤ k) : (lcdUpdate l).2 k = (updateGear l).2 k :=
  (updateStep_foldl List.nodup_range' (updateGear l)).2 k (by rw [List.mem_range'_1]; omega)

end WheelDisplay.Lcd

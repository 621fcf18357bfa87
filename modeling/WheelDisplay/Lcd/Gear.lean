import WheelDisplay.Lcd.ClearRange
import WheelDisplay.Lcd.Frame

/-! # The gear

Label 0 holds the gear, and `LCD_writegear` takes its number for an index of `font40`. It
draws the glyph of the gear over five pages of the left controller, after a clear of six.
-/

namespace WheelDisplay.Lcd

open Ks0108 Labels Raster

/-- The values that a history sends to the gear, the first one first. -/
def gearValues (history : List Action) : List Word :=
  history.filterMap fun
    | .gear _ value => some value
    | _ => none

/-- The last of the values that is below 9. -/
def lastGear (values : List Word) : Option Word := (values.filter (· < 9)).getLast?

theorem processGear_gear (value : Word) (l : Labels) :
    (processGear value l posGear).number = if value < 9 then value else (l posGear).number := by
  rw [processGear]
  split
  next hDue =>
    rw [modify_eq, set_same, if_pos hDue.2]
    rfl
  next hSame =>
    split
    next hSmall => exact not_not.mp fun hDiffers => hSame ⟨hDiffers, hSmall⟩
    next => rfl

theorem updateGear_number (l : Labels) : ((updateGear l).2 posGear).number = (l posGear).number := by
  rw [updateGear]
  split
  · rw [modify_eq, set_same]
    rfl
  · rfl

theorem message_gear (row : Fin 6) (type : DisplayType) (value : Word) (l : Labels) :
    lcdProcessMessage (headerPos row) type.code value l posGear = l posGear := by
  have hValue : posGear ≠ headerPos row + 1 := (Nat.succ_ne_zero (headerPos row)).symm
  obtain ⟨t, hLabels, -⟩ := lcdProcessMessage_labels type value (headerPos_ne_gear row) l
  rw [hLabels, set_other _ _ hValue, set_other _ _ (headerPos_ne_gear row).symm]

theorem lastGear_cons (value : Word) (rest : List Word) (n : Word) :
    (lastGear (value :: rest)).getD n = (lastGear rest).getD (if value < 9 then value else n) := by
  rw [lastGear, lastGear, List.filter_cons]
  simp only [decide_eq_true_eq]
  split
  · rw [List.getLast?_cons]
    rfl
  · rfl

theorem run_gear (l : Labels) (history : List Action) :
    (StepRun.run act l history posGear).number = (lastGear (gearValues history)).getD (l posGear).number := by
  induction history generalizing l with
  | nil => rfl
  | cons a rest ih =>
    rw [StepRun.run_cons, ih]
    cases a with
    | gear type value =>
      have hAct : act l (.gear type value) = processGear value l := rfl
      have hValues : gearValues (.gear type value :: rest) = value :: gearValues rest := rfl
      rw [hAct, hValues, lastGear_cons, processGear_gear]
    | message row type value =>
      have hAct : act l (.message row type value) posGear = l posGear := message_gear row type value l
      rw [hAct]
      rfl
    | update =>
      have hAct : act l .update posGear = (updateGear l).2 posGear := lcdUpdate_other l (Or.inl (by decide))
      rw [hAct, updateGear_number]
      rfl

theorem lastGear_lt (values : List Word) : (lastGear values).getD 8 < 9 := by
  cases hLast : lastGear values with
  | none => decide
  | some value =>
    have hMem := List.mem_of_getLast? hLast
    exact of_decide_eq_true (List.mem_filter.mp hMem).2

theorem reached_gear (beyond : Nat → LCDtext) (history : List Action) :
    (reached beyond history posGear).number = (lastGear (gearValues history)).getD 8 :=
  run_gear (lcdInit (zeroed beyond)) history

/-- The byte that `font40[gear][line][i]` reads, when the three indices are in range. -/
def font40Byte (gear : Byte) (line i : Nat) : Option Byte := do
  let glyph ← font40[gear.toNat]?
  let columns ← glyph[line]?
  columns[i]?

/-- A line of the glyph as the loop of `LCD_writegear` reads it. -/
def gearLine (gear : Byte) (line : Nat) : List Byte :=
  (List.range 25).map fun i => ((font40.getD gear.toNat []).getD line []).getD i 0

theorem font40_shape :
    font40.length = 9 ∧ ∀ glyph ∈ font40, glyph.length = 5 ∧ ∀ columns ∈ glyph, columns.length = 25 := by
  decide

theorem font40Byte_eq {gear : Byte} (hGear : gear < 9) {line i : Nat} (hLine : line < 5) (hi : i < 25) :
    font40Byte gear line i = (gearLine gear line)[i]? := by
  obtain ⟨hFont, hGlyphs⟩ := font40_shape
  have hIndex : gear.toNat < font40.length := by bv_omega
  obtain ⟨hLines, hColumns⟩ := hGlyphs _ (List.getElem_mem hIndex)
  have hLineIndex : line < font40[gear.toNat].length := hLines ▸ hLine
  have hColumnIndex : i < font40[gear.toNat][line].length := hColumns _ (List.getElem_mem hLineIndex) ▸ hi
  have hGlyph : font40[gear.toNat]? = some font40[gear.toNat] := List.getElem?_eq_getElem hIndex
  have hRow : font40[gear.toNat][line]? = some font40[gear.toNat][line] := List.getElem?_eq_getElem hLineIndex
  have hCell : font40[gear.toNat][line][i]? = some font40[gear.toNat][line][i] :=
    List.getElem?_eq_getElem hColumnIndex
  rw [gearLine, List.getElem?_map, List.getElem?_range hi, Option.map_some, font40Byte, hGlyph]
  simp only [List.getD_eq_getElem?_getD, hGlyph, hRow, hCell, Option.getD_some, Option.bind_eq_bind, Option.bind_some]

/-- On the left controller a drawing loop crosses no line, and only writes. -/
theorem drawColumns_left (page : Byte) (columns : List Byte) {p : Pen} (hLeft : p.controller = 0)
    (h : p.x.toNat + columns.length ≤ 64) :
    (drawColumns page columns p).calls = p.calls ++ columns.map (writeColumn 0) := by
  induction columns generalizing p with
  | nil => exact (List.append_nil p.calls).symm
  | cons column rest ih =>
    rw [List.length_cons] at h
    have hLine : p.x ≠ 64 := by bv_omega
    have hEdge : p.x < 128 := by bv_omega
    have hPut : (p.cross page).put column = p.write column := by
      rw [Pen.cross, if_neg hLine, Pen.put, if_pos hEdge, Pen.write]
    have hNext : (p.write column).x.toNat = p.x.toNat + 1 := by
      rw [Pen.write]
      bv_omega
    have hCalls : (p.write column).calls = p.calls ++ [writeColumn 0 column] := by
      rw [Pen.write, Pen.emit, hLeft]
    have hStays : (p.write column).controller = 0 := hLeft
    rw [drawColumns_cons, hPut, ih hStays (by omega), hCalls, List.append_assoc, List.map_cons, List.singleton_append]

/-- The calls for a line that starts at the left edge of the display. -/
def lineCalls (line : Nat) (columns : List Byte) : List Call :=
  [setPage 0 (BitVec.ofNat 8 line), setAddress 0 0] ++ columns.map (writeColumn 0)

theorem lineCalls_screen (panel : Panel) {line : Nat} (hLine : line < 8) {columns : List Byte}
    (hFits : columns.length ≤ 64) (q : BitVec 3) {j : Nat} (hj : j < 128) :
    (panel.run (lineCalls line columns)).screen q j =
      paintPage panel.screen (BitVec.ofNat 3 line) 0 (columns.map some) q j := by
  have hPage : BitVec.ofNat 8 line < 8 := by bv_omega
  have hRegister : (BitVec.ofNat 8 line).setWidth 3 = BitVec.ofNat 3 line := by bv_omega
  have hBefore : ∀ q, ∀ j < 128, (panel.run []).screen q j = panel.screen q j := fun _ _ _ => rfl
  have hCalls : (drawColumns (BitVec.ofNat 8 line) columns (startPen 0 (BitVec.ofNat 8 line) [])).calls =
      lineCalls line columns := drawColumns_left _ columns rfl ((Nat.zero_add _).trans_le hFits)
  have hShows := (glyph_stands 0 hPage columns hBefore).shows q j hj
  rw [hCalls, hRegister] at hShows
  exact hShows

/-- Lines drawn one below the other each paint their own page. -/
theorem lines_screen (panel : Panel) {columns : Nat → List Byte} (hFits : ∀ line, (columns line).length ≤ 64) {n : Nat}
    (hn : n ≤ 8) (q : BitVec 3) {j : Nat} (hj : j < 128) :
    (panel.run ((List.range n).flatMap fun line => lineCalls line (columns line))).screen q j =
      if q.toNat < n then paint (panel.screen q) 0 ((columns q.toNat).map some) j else panel.screen q j := by
  induction n with
  | zero => rfl
  | succ n ih =>
    have hBefore := ih (Nat.le_of_succ_le hn)
    have hLine := lineCalls_screen (panel.run ((List.range n).flatMap fun line => lineCalls line (columns line)))
      hn (hFits n) q hj
    rw [List.range_succ, List.flatMap_append, List.flatMap_singleton, Panel.run_append, hLine]
    obtain rfl | hOther := eq_or_ne q.toNat n
    · have hRegister : BitVec.ofNat 3 q.toNat = q := BitVec.ofNat_toNat .. |>.trans (BitVec.setWidth_eq q)
      rw [if_neg (Nat.lt_irrefl _)] at hBefore
      rw [hRegister, paintPage, Function.update_self, if_pos (Nat.lt_succ_self _)]
      exact paint_congr _ hBefore
    · have hPage : q ≠ BitVec.ofNat 3 n := by bv_omega
      rw [paintPage_other _ hPage, hBefore]
      exact if_congr (by omega) rfl rfl

theorem lcdWritegear_eq (gear : Byte) :
    lcdWritegear gear =
      ks0108ClearRange 0 5 0 25 ++ (List.range 5).flatMap fun line => lineCalls line (gearLine gear line) := by
  rw [lcdWritegear]
  simp only [lineCalls, gearLine, List.map_map]
  rfl

/-- Every byte of the glyph is read from the table and shown on pages 0 to 4, page 5 is blank below it, and
the rest of both controllers is as it was. -/
structure DrawsGear (gear : Byte) (before after : Screen) : Prop where
  glyph : ∀ q < 5, ∀ j < 25, font40Byte gear q.toNat j = some (after q j)
  below : ∀ j < 25, after 5 j = 0
  others : ∀ q, ∀ j < 128, 5 < q ∨ 25 ≤ j → after q j = before q j

theorem clearGear_screen (panel : Panel) (q : BitVec 3) {j : Nat} (hj : j < 128) :
    (panel.run (ks0108ClearRange 0 5 0 25)).screen q j = if q ≤ 5 ∧ j < 25 then 0 else panel.screen q j := by
  have hRound : ¬ ∃ c < 25, 128 ≤ c ∧ 0 ≤ c ∧ 64 + c % 64 = j := by
    rintro ⟨c, hEnd, hBeyond, -⟩
    omega
  have hLands : Lands 0 25 j ↔ j < 25 := by
    rw [lands_iff hj, or_iff_left hRound]
    exact and_iff_right (Nat.zero_le j)
  have hPages : ((0 : Byte) ≤ q.setWidth 8 ∧ q.setWidth 8 ≤ (5 : Byte)) ↔ q ≤ 5 := by bv_omega
  rw [ks0108ClearRange_screen panel (by decide) (by decide) 0 25 q hj]
  exact if_congr (and_congr hPages hLands) rfl rfl

theorem gearLine_length (gear : Byte) (line : Nat) : (gearLine gear line).length = 25 := by
  rw [gearLine, List.length_map, List.length_range]

theorem gearLine_paint (gear : Byte) (line : Nat) (row : Nat → Byte) (j : Nat) :
    paint row 0 ((gearLine gear line).map some) j = if j < 25 then (gearLine gear line).getD j 0 else row j := by
  split
  next hInside =>
    have hIndex : j < (gearLine gear line).length := (gearLine_length gear line).symm ▸ hInside
    rw [paint, if_pos (Nat.zero_le j), Nat.sub_zero, List.getElem?_map, List.getElem?_eq_getElem hIndex,
      List.getD_eq_getElem?_getD, List.getElem?_eq_getElem hIndex, Option.map_some, Option.join_some, Option.getD_some,
      Option.getD_some]
  next hOutside =>
    apply paint_outside
    rw [List.length_map, gearLine_length, Nat.zero_add]
    exact Or.inr (Nat.le_of_not_lt hOutside)

theorem lcdWritegear_screen (panel : Panel) (gear : Byte) (q : BitVec 3) {j : Nat} (hj : j < 128) :
    (panel.run (lcdWritegear gear)).screen q j =
      if q < 5 ∧ j < 25 then (gearLine gear q.toNat).getD j 0
      else if q = 5 ∧ j < 25 then 0 else panel.screen q j := by
  have hFits : ∀ line, (gearLine gear line).length ≤ 64 := fun line => (gearLine_length gear line).trans_le (by decide)
  have hLast : ¬ q < 5 → (q ≤ 5 ↔ q = 5) := by bv_omega
  rw [lcdWritegear_eq, Panel.run_append, lines_screen _ hFits (by decide) q hj, gearLine_paint,
    clearGear_screen panel q hj]
  obtain hInside | hOutside := Nat.lt_or_ge j 25
  · simp only [hInside, and_true, if_true]
    split
    next hPage => exact (if_pos hPage).symm
    next hBelow =>
      have hPage : ¬ q < 5 := hBelow
      rw [if_neg hPage]
      exact if_congr (hLast hPage) rfl rfl
  · simp only [Nat.not_lt.mpr hOutside, and_false, if_false, ite_self]

theorem lcdWritegear_draws (panel : Panel) {gear : Byte} (hGear : gear < 9) :
    DrawsGear gear panel.screen (panel.run (lcdWritegear gear)).screen := by
  constructor
  · intro q hq j hj
    have hIndex : j < (gearLine gear q.toNat).length := (gearLine_length gear q.toNat).symm ▸ hj
    rw [font40Byte_eq hGear hq hj, lcdWritegear_screen panel gear q (by omega), if_pos ⟨hq, hj⟩,
      List.getD_eq_getElem?_getD, List.getElem?_eq_getElem hIndex]
    rfl
  · intro j hj
    rw [lcdWritegear_screen panel gear 5 (by omega), if_neg fun h => absurd h.1 (by decide), if_pos ⟨rfl, hj⟩]
  · intro q j hj hOther
    rw [lcdWritegear_screen panel gear q hj, if_neg, if_neg]
    · rintro ⟨rfl, hColumn⟩
      exact hOther.elim (absurd · (by decide)) (Nat.not_le.mpr hColumn)
    · rintro ⟨hPage, hColumn⟩
      bv_omega

/-- Every access of `LCD_writegear` to the table is in range. -/
def InRange (gear : Byte) : Prop := ∀ line < 5, ∀ i < 25, (font40Byte gear line i).isSome

theorem inRange_of_lt {gear : Byte} (h : gear < 9) : InRange gear := by
  intro line hLine i hi
  have hIndex : i < (gearLine gear line).length := (gearLine_length gear line).symm ▸ hi
  rw [font40Byte_eq h hLine hi, List.getElem?_eq_getElem hIndex]
  rfl

theorem lastGear_index (values : List Word) : ((lastGear values).getD 8).setWidth 8 < (9 : Byte) := by
  have hSmall := lastGear_lt values
  bv_omega

/-- A redraw of the gear shows the last gear that was sent. -/
theorem updateGear_draws (beyond : Nat → LCDtext) (history : List Action) (panel : Panel)
    (hRedraw : (reached beyond history posGear).getRedraw = true) :
    DrawsGear (((lastGear (gearValues history)).getD 8).setWidth 8) panel.screen
      (panel.run (updateGear (reached beyond history)).1).screen := by
  rw [updateGear, if_pos hRedraw, reached_gear]
  exact lcdWritegear_draws panel (lastGear_index (gearValues history))

/-- The gear label is the last gear below 9 that was sent to it, 8 before there is one, and a gear below 9 is drawn
whatever the display shows. -/
theorem gear_drawn (beyond : Nat → LCDtext) (history : List Action) (panel : Panel) {gear : Byte} (hGear : gear < 9) :
    (reached beyond history posGear).number < 9 ∧
      (reached beyond history posGear).number = (lastGear (gearValues history)).getD 8 ∧
      InRange ((reached beyond history posGear).number.setWidth 8) ∧
      DrawsGear gear panel.screen (panel.run (lcdWritegear gear)).screen := by
  have hNumber := reached_gear beyond history
  have hSmall : (reached beyond history posGear).number < 9 := hNumber ▸ lastGear_lt (gearValues history)
  have hIndex : (reached beyond history posGear).number.setWidth 8 < (9 : Byte) :=
    hNumber ▸ lastGear_index (gearValues history)
  exact ⟨hSmall, hNumber, inRange_of_lt hIndex, lcdWritegear_draws panel hGear⟩

theorem gear_drawn_third :
    (reached (fun _ => blank) [.gear 0 3, .gear 0 300, .update] posGear).number < 9 ∧
      (reached (fun _ => blank) [.gear 0 3, .gear 0 300, .update] posGear).number = 3 ∧
      InRange ((reached (fun _ => blank) [.gear 0 3, .gear 0 300, .update] posGear).number.setWidth 8) ∧
      DrawsGear 3 litPanel.screen (litPanel.run (lcdWritegear 3)).screen :=
  gear_drawn (fun _ => blank) [.gear 0 3, .gear 0 300, .update] litPanel (by decide)

end WheelDisplay.Lcd

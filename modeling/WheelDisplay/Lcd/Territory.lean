import WheelDisplay.Lcd.ClearRange
import WheelDisplay.Lcd.Redraw
import WheelDisplay.Lcd.Remainder

/-! # Parts of the display that the labels leave alone

What a label draws starts at its place and goes to the right. A territory is a part of the
display with the places from which nothing that is drawn gets there.
-/

namespace WheelDisplay.Lcd

open CString Ks0108 Labels Raster

/-- The place of a label among the redraws of an update. -/
theorem lcdUpdate_order {k : Nat} (hLow : 2 ≤ k) (hHigh : k < 14) :
    ∃ sooner later : List Nat, (sooner ++ later).Nodup ∧ (∀ i ∈ sooner ++ later, 2 ≤ i ∧ i < 14 ∧ i ≠ k) ∧
      ∀ l, lcdUpdate l = later.foldl updateStep (updateStep (sooner.foldl updateStep (updateGear l)) k) := by
  have hMem : k ∈ List.range' 2 12 := List.mem_range'_1.mpr ⟨hLow, hHigh⟩
  obtain ⟨sooner, later, hLoop⟩ := List.append_of_mem hMem
  have hNodup : (sooner ++ k :: later).Nodup := hLoop ▸ List.nodup_range'
  obtain ⟨hFresh, hBoth⟩ := List.nodup_cons.mp (List.nodup_middle.mp hNodup)
  refine ⟨sooner, later, hBoth, fun i hi => ?_, fun l => ?_⟩
  · have hRange : i ∈ List.range' 2 12 := by
      rw [hLoop, List.mem_append, List.mem_cons]
      exact (List.mem_append.mp hi).imp_right .inr
    obtain ⟨hFirst, hLast⟩ := List.mem_range'_1.mp hRange
    exact ⟨hFirst, hLast, fun hEq => hFresh (hEq ▸ hi)⟩
  · rw [lcdUpdate, hLoop, List.foldl_append, List.foldl_cons]

/-- `kept` relates two screens that agree on the part, as far as it goes, and `clear` says that what is drawn in
a font on a page from a column on keeps to the rest. -/
structure Territory where
  kept : Screen → Screen → Prop
  clear : Byte → Byte → Byte → Prop
  refl : ∀ screen, kept screen screen
  trans : ∀ {first second third}, kept first second → kept second third → kept first third
  mono : ∀ {font y x x'}, clear font y x → x ≤ x' → clear font y x'
  glyph : ∀ {font y x}, clear font y x → ∀ (glyph : Byte) (panel : Panel),
    kept panel.screen (panel.run (writeGlyph font x y glyph).2).screen
  cleanUp : ∀ {t : LCDtext} {x}, clear t.font t.y x →
    ∀ panel : Panel, kept panel.screen (panel.run (cleanUp t x)).screen

namespace Territory

variable (T : Territory)

def Spares (calls : List Call) : Prop := ∀ panel : Panel, T.kept panel.screen (panel.run calls).screen

variable {T}

theorem spares_nil : T.Spares [] := fun panel => T.refl panel.screen

theorem Spares.append {first second : List Call} (h : T.Spares first) (h' : T.Spares second) :
    T.Spares (first ++ second) := by
  intro panel
  rw [Panel.run_append]
  exact T.trans (h panel) (h' _)

theorem writeCharacter_spares {font y x : Byte} (hFont : font = fontSmall ∨ font = fontLarge) (h : T.clear font y x)
    (number : Word) (c : Byte) : T.Spares (writeCharacter font y number x c).2 := by
  rw [writeCharacter_eq hFont]
  cases glyphOf font c with
  | some glyph => exact T.glyph h glyph
  | none =>
    dsimp only
    split <;> exact spares_nil

variable (T)

/-- The label is drawn in one of the two fonts, wholly outside the territory. -/
structure Outside (t : LCDtext) : Prop where
  font : t.font = fontSmall ∨ t.font = fontLarge
  place : (∀ x, T.clear t.font t.y x) ∨ T.clear t.font t.y t.x ∧ t.x ≤ 120 ∧ t.len ≤ 13

variable {T}

/-- The characters spare the territory as long as the column count does not overflow. -/
theorem drawCharacters_spare {t : LCDtext} (hFont : t.font = fontSmall ∨ t.font = fontLarge) {bytes : List Byte}
    {d : Byte × List Call} (hDrawn : T.Spares d.2)
    (hPlace : (∀ x, T.clear t.font t.y x) ∨ T.clear t.font t.y d.1 ∧ d.1.toNat + 10 * bytes.length < 256) :
    T.Spares (bytes.foldl (drawCharacter t) d).2 ∧ T.clear t.font t.y (bytes.foldl (drawCharacter t) d).1 := by
  induction bytes generalizing d with
  | nil => exact ⟨hDrawn, hPlace.elim (fun hEverywhere => hEverywhere _) And.left⟩
  | cons c rest ih =>
    have hHere : T.clear t.font t.y d.1 := hPlace.elim (fun hEverywhere => hEverywhere _) And.left
    refine ih (hDrawn.append (writeCharacter_spares hFont hHere t.number c)) (hPlace.imp_right ?_)
    rintro ⟨-, hRoom⟩
    rw [List.length_cons] at hRoom
    have hNext : (drawCharacter t d c).1.toNat = columnAfter t.font d.1.toNat c :=
      writeCharacter_x t.font t.y t.number d.1 c
    obtain ⟨hAfter, hWidth⟩ := columnAfter_bounds t.font c (x := d.1.toNat) (by omega)
    refine ⟨T.mono hHere ?_, by omega⟩
    bv_omega

theorem drawnBytes_length {k : Nat} {l : Labels} (h : (l k).len ≤ 13) : (drawnBytes k l).length ≤ 13 := by
  rw [drawnBytes, textBytes, List.length_map, List.length_range]
  split
  next =>
    have hShort : numberLength (l k).number ≤ 13 := by
      rw [numberLength]
      split_ifs <;> decide
    rw [formatNumber_eq, set_same]
    exact BitVec.le_def.mp hShort
  next => exact BitVec.le_def.mp h

theorem lcdWritestring_spares {k : Nat} {l : Labels} (h : T.Outside (l k)) : T.Spares (lcdWritestring k l).1 := by
  have hPlace : (∀ x, T.clear (l k).font (l k).y x) ∨
      T.clear (l k).font (l k).y (l k).x ∧ (l k).x.toNat + 10 * (drawnBytes k l).length < 256 := by
    refine h.place.imp_right ?_
    rintro ⟨hClear, hColumn, hShort⟩
    have hLength := drawnBytes_length hShort
    exact ⟨hClear, by bv_omega⟩
  obtain ⟨hDrawn, hAfter⟩ := drawCharacters_spare (T := T) (d := ((l k).x, [])) h.font spares_nil hPlace
  rw [lcdWritestring_calls]
  exact hDrawn.append (T.cleanUp hAfter)

theorem updateLabel_spares {k : Nat} {l : Labels} (h : T.Outside (l k)) : T.Spares (updateLabel k l).1 := by
  rw [updateLabel]
  split
  · exact lcdWritestring_spares h
  · exact spares_nil

/-- What the loop over the labels adds to the calls. -/
theorem updateSteps_spare {ks : List Nat} (hNodup : ks.Nodup) (drawn : List Call × Labels)
    (h : ∀ k ∈ ks, T.Outside (drawn.2 k)) :
    ∃ calls, (ks.foldl updateStep drawn).1 = drawn.1 ++ calls ∧ T.Spares calls := by
  induction ks generalizing drawn with
  | nil => exact ⟨[], (List.append_nil _).symm, spares_nil⟩
  | cons k rest ih =>
    obtain ⟨hFresh, hRest⟩ := List.nodup_cons.mp hNodup
    obtain ⟨hHere, hOthers⟩ := List.forall_mem_cons.mp h
    obtain ⟨t, hLabels, -⟩ := updateLabel_labels k drawn.2
    have hLater : ∀ i ∈ rest, T.Outside ((updateStep drawn k).2 i) := by
      intro i hi
      have hOther : i ≠ k := fun hEq => hFresh (hEq ▸ hi)
      have hSame : (updateStep drawn k).2 i = drawn.2 i := by
        change (updateLabel k drawn.2).2 i = _
        rw [hLabels, set_other _ _ hOther]
      rw [hSame]
      exact hOthers i hi
    obtain ⟨calls, hCalls, hSpares⟩ := ih hRest (updateStep drawn k) hLater
    refine ⟨(updateLabel k drawn.2).1 ++ calls, ?_, (updateLabel_spares hHere).append hSpares⟩
    rw [List.foldl_cons, hCalls, ← List.append_assoc]
    rfl

/-- An update as a label sees it: before and after its own redraw the calls spare the territory. -/
theorem lcdUpdate_around {l : Labels} {k : Nat} (hLow : 2 ≤ k) (hHigh : k < 14) (hGear : T.Spares (updateGear l).1)
    (hOutside : ∀ i, 2 ≤ i → i < 14 → i ≠ k → T.Outside (l i)) :
    ∃ before after l', (lcdUpdate l).1 = before ++ (updateLabel k l').1 ++ after ∧ T.Spares before ∧ T.Spares after ∧
      l' k = l k ∧ (lcdUpdate l).2 k = (updateLabel k l').2 k := by
  obtain ⟨sooner, later, hNodup, hOthers, hUpdate⟩ := lcdUpdate_order hLow hHigh
  rw [List.forall_mem_append] at hOthers
  have hGearKept : ∀ i, 2 ≤ i → (updateGear l).2 i = l i :=
    fun i hFirst => updateGear_other l (Nat.ne_of_gt (Nat.lt_of_lt_of_le (by decide) hFirst))
  obtain ⟨calls, hCalls, hSpares⟩ := updateSteps_spare (T := T) hNodup.of_append_left (updateGear l) (by
    intro i hi
    obtain ⟨hFirst, hLast, hNe⟩ := hOthers.1 i hi
    rw [hGearKept i hFirst]
    exact hOutside i hFirst hLast hNe)
  have hKept := (updateStep_foldl hNodup.of_append_left (updateGear l)).2
  have hUpdated := hUpdate l
  generalize sooner.foldl updateStep (updateGear l) = drawn at hCalls hKept hUpdated
  obtain ⟨t, hSet, -⟩ := updateLabel_labels k drawn.2
  have hStep : (updateStep drawn k).2 = drawn.2.set k t := hSet
  obtain ⟨rest, hRest, hSpares'⟩ := updateSteps_spare (T := T) hNodup.of_append_right (updateStep drawn k) (by
    intro i hi
    obtain ⟨hFirst, hLast, hNe⟩ := hOthers.2 i hi
    rw [hStep, set_other _ _ hNe, hKept i fun hMem => List.disjoint_of_nodup_append hNodup hMem hi, hGearKept i hFirst]
    exact hOutside i hFirst hLast hNe)
  refine ⟨drawn.1, rest, drawn.2, ?_, ?_, hSpares', ?_, ?_⟩
  · rw [hUpdated, hRest]
    rfl
  · rw [hCalls]
    exact hGear.append hSpares
  · rw [hKept k fun hMem => (hOthers.1 k hMem).2.2 rfl, hGearKept k hLow]
  · rw [hUpdated, (updateStep_foldl hNodup.of_append_right _).2 k fun hMem => (hOthers.2 k hMem).2.2 rfl]
    rfl

end Territory

def OnRight (calls : List Call) : Prop := ∀ call ∈ calls, call.controller = 1

theorem OnRight.left {calls : List Call} (h : OnRight calls) (panel : Panel) (q : BitVec 3) {j : Nat} (hj : j < 64) :
    (panel.run calls).screen q j = panel.screen q j := by
  have hLeft : Panel.chipOf j = leftChip := if_pos hj
  have hKept : (panel.run calls).chip leftChip = panel.chip leftChip :=
    Panel.run_other (c := rightChip) panel (by decide) h
  rw [Panel.screen, Panel.screen, hLeft, hKept]

theorem OnRight.append {first second : List Call} (h : OnRight first) (h' : OnRight second) :
    OnRight (first ++ second) :=
  List.forall_mem_append.mpr ⟨h, h'⟩

structure Pen.Right (p : Pen) : Prop where
  controller : p.controller = 1
  calls : OnRight p.calls

theorem onRight_seek (page address : Byte) : OnRight [setPage 1 page, setAddress 1 address] :=
  List.forall_mem_cons.mpr ⟨rfl, List.forall_mem_singleton.mpr rfl⟩

theorem Pen.Right.cross {p : Pen} (h : p.Right) (page : Byte) : (p.cross page).Right := by
  rw [Pen.cross]
  split
  · exact ⟨rfl, h.calls.append (onRight_seek page 0)⟩
  · exact h

theorem Pen.Right.write {p : Pen} (h : p.Right) (column : Byte) : (p.write column).Right :=
  ⟨h.controller, h.calls.append (List.forall_mem_singleton.mpr h.controller)⟩

theorem Pen.Right.put {p : Pen} (h : p.Right) (column : Byte) : (p.put column).Right := by
  rw [Pen.put]
  split
  · exact h.write column
  · exact h

theorem Pen.Right.drawColumns {p : Pen} (h : p.Right) (page : Byte) (columns : List Byte) :
    (drawColumns page columns p).Right := by
  induction columns generalizing p with
  | nil => exact h
  | cons column rest ih => exact ih ((h.cross page).put column)

theorem startPen_right {x : Byte} (hx : 64 ≤ x) (page : Byte) {calls : List Call} (h : OnRight calls) :
    (startPen x page calls).Right := by
  have hStart : controllerOf x = 1 := if_neg (by bv_omega)
  rw [startPen, hStart]
  exact ⟨rfl, h.append (onRight_seek page _)⟩

theorem onRight_nil : OnRight [] := List.forall_mem_nil _

theorem lcdWritechar8_right {x : Byte} (hx : 64 ≤ x) (page character : Byte) :
    OnRight (lcdWritechar8 x page character).2 := by
  have hPen := (startPen_right hx page onRight_nil).drawColumns page (columns8 character)
  rw [lcdWritechar8_eq]
  exact hPen.calls.append (List.forall_mem_singleton.mpr hPen.controller)

theorem lcdWritechar16_right {x : Byte} (hx : 64 ≤ x) (page character : Byte) :
    OnRight (lcdWritechar16 x page character).2 := by
  have hUpper := (startPen_right hx page onRight_nil).drawColumns page (columns16 character 0)
  have hLower : (lowerPen x page character).Right :=
    (startPen_right hx (page + 1) hUpper.calls).drawColumns (page + 1) (columns16 character 1)
  have hBlank : ∀ column page', OnRight (blankCalls (lowerPen x page character).controller column page') := by
    intro column page'
    rw [hLower.controller]
    exact (onRight_seek page' _).append (List.forall_mem_singleton.mpr rfl)
  rw [lcdWritechar16_eq]
  dsimp only
  split
  · exact (hLower.calls.append (hBlank _ _)).append (hBlank _ _)
  · exact hLower.calls

theorem writeGlyph_right {x : Byte} (hx : 64 ≤ x) (font y glyph : Byte) : OnRight (writeGlyph font x y glyph).2 := by
  rw [writeGlyph]
  split
  · exact lcdWritechar16_right hx y glyph
  · exact lcdWritechar8_right hx y glyph

theorem clearPen_right {x : Byte} (hx : 64 ≤ x) (page : Byte) (n : Nat) : (clearPen page x n).Right := by
  induction n with
  | zero => exact startPen_right hx page onRight_nil
  | succ n ih =>
    rw [clearPen_succ]
    exact (ih.cross page).write 0

theorem ks0108ClearRange_right {x : Byte} (hx : 64 ≤ x) (lpage hpage haddress : Byte) :
    OnRight (ks0108ClearRange lpage hpage x haddress) := by
  rw [ks0108ClearRange_pens]
  intro call hMem
  obtain ⟨page, -, hCall⟩ := List.mem_flatMap.mp hMem
  exact (clearPen_right hx _ _).calls call hCall

theorem cleanUp_right {x : Byte} (hx : 64 ≤ x) (t : LCDtext) : OnRight (cleanUp t x) := by
  rw [cleanUp]
  split_ifs
  · exact ks0108ClearRange_right hx _ _ _
  · exact ks0108ClearRange_right hx _ _ _
  · exact onRight_nil
  · exact onRight_nil

/-- The pages that a font takes from the page of a label on are pages of the display. -/
def OnPages (font y : Byte) : Prop := if font = fontLarge then y < 7 else y < 8

instance (font y : Byte) : Decidable (OnPages font y) :=
  inferInstanceAs (Decidable (if font = fontLarge then y < 7 else y < 8))

theorem clearRange_otherPage (panel : Panel) {lpage hpage : Byte} (hPages : lpage ≤ hpage) (hLast : hpage < 8)
    {q : BitVec 3} (hOther : q.setWidth 8 < lpage ∨ hpage < q.setWidth 8) (laddress haddress : Byte) {j : Nat}
    (hj : j < 128) : (panel.run (ks0108ClearRange lpage hpage laddress haddress)).screen q j = panel.screen q j := by
  rw [ks0108ClearRange_screen panel hPages hLast _ _ q hj, if_neg]
  rintro ⟨⟨hLow, hHigh⟩, -⟩
  bv_omega

section Pages

variable {q : BitVec 3} {j : Nat} (hj : j < 128) (panel : Panel) (x : Byte)
include hj

theorem writeGlyph_otherPage {font y : Byte} (hPages : OnPages font y) (hOther : ∀ i < rows font, q ≠ labelPage y i)
    (glyph : Byte) : (panel.run (writeGlyph font x y glyph).2).screen q j = panel.screen q j := by
  rw [OnPages] at hPages
  rw [rows] at hOther
  rw [writeGlyph]
  split at hPages
  next hLarge =>
    have hUpper : q ≠ y.setWidth 3 := labelPage_zero y ▸ hOther 0 (by rw [if_pos hLarge]; decide)
    have hLower : q ≠ (y + 1).setWidth 3 := labelPage_one y ▸ hOther 1 (by rw [if_pos hLarge]; decide)
    rw [if_pos hLarge]
    obtain ⟨hLeft, hEnd⟩ | hFits := Classical.em (x.toNat < 64 ∧ x.toNat + width16 glyph = 64)
    · rw [lcdWritechar16_lost panel hPages hLeft hEnd q hj, paintPage_other _ hLower, paintPage_other _ hUpper,
        drawnLarge, paintLarge, paintPage_other _ hLower, paintPage_other _ hUpper]
    · rw [lcdWritechar16_fits panel hPages hFits q hj, paintLarge, paintPage_other _ hLower, paintPage_other _ hUpper]
  next hSmall =>
    have hOnly : q ≠ y.setWidth 3 := labelPage_zero y ▸ hOther 0 (by rw [if_neg hSmall]; decide)
    rw [if_neg hSmall, lcdWritechar8_screen panel x hPages glyph q hj, if_neg fun hBlank => hOnly hBlank.1,
      paintPage_other _ hOnly]

theorem cleanUp_otherPage {t : LCDtext} (hPages : OnPages t.font t.y)
    (hOther : ∀ i < rows t.font, q ≠ labelPage t.y i) :
    (panel.run (cleanUp t x)).screen q j = panel.screen q j := by
  rw [OnPages] at hPages
  rw [rows] at hOther
  rw [cleanUp]
  split
  next =>
    split at hPages
    next hLarge =>
      have hNotSmall : ¬ t.font = fontSmall := hLarge ▸ by decide
      have hUpper : q ≠ t.y.setWidth 3 := labelPage_zero t.y ▸ hOther 0 (by rw [if_pos hLarge]; decide)
      have hLower : q ≠ (t.y + 1).setWidth 3 := labelPage_one t.y ▸ hOther 1 (by rw [if_pos hLarge]; decide)
      rw [if_neg hNotSmall, if_pos hLarge]
      exact clearRange_otherPage panel (by bv_omega) (by bv_omega) (by bv_omega) _ _ hj
    next hSmall =>
      have hOnly : q ≠ t.y.setWidth 3 := labelPage_zero t.y ▸ hOther 0 (by rw [if_neg hSmall]; decide)
      split
      · exact clearRange_otherPage panel (BitVec.le_refl _) hPages (by bv_omega) _ _ hj
      · rfl
  next => rfl

end Pages

theorem Refreshed.place {t t' : LCDtext} (h : Refreshed t t') : t'.font = t.font ∧ t'.x = t.x ∧ t'.y = t.y := by
  rw [Refreshed] at h
  split at h
  · obtain ⟨width, rfl⟩ := h
    rw [written]
    split <;> exact ⟨rfl, rfl, rfl⟩
  · rw [h]
    exact ⟨rfl, rfl, rfl⟩

end WheelDisplay.Lcd

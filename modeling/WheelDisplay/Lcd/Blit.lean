import WheelDisplay.Ks0108.Panel
import WheelDisplay.Lcd.Draw
import WheelDisplay.Lib.Raster

/-! # Where a character lands on the display

A drawing loop follows the column registers of the controllers with its own count
of columns. The two agree as long as the loop writes; a controller whose last
column has been written is back at its column 0.
-/

namespace WheelDisplay.Lcd

open Ks0108 Raster

abbrev Screen := BitVec 3 → Nat → Byte

def paintPage (screen : Screen) (page : BitVec 3) (start : Nat) (cells : List (Option Byte)) : Screen :=
  Function.update screen page (paint (screen page) start cells)

theorem paintPage_nil (screen : Screen) (page : BitVec 3) (start : Nat) :
    paintPage screen page start [] = screen := by
  rw [paintPage, paint_nil, Function.update_eq_self]

theorem paintPage_append (screen : Screen) (page : BitVec 3) (start : Nat) (first second : List (Option Byte)) :
    paintPage screen page start (first ++ second) =
      paintPage (paintPage screen page start first) page (start + first.length) second := by
  rw [paintPage, paintPage, paintPage, Function.update_self, Function.update_idem, paint_append]

theorem paintPage_cons (screen : Screen) (page : BitVec 3) (start : Nat) (cell : Option Byte)
    (rest : List (Option Byte)) : paintPage screen page start (cell :: rest) =
      paintPage (paintPage screen page start [cell]) page (start + 1) rest :=
  paintPage_append screen page start [cell] rest

theorem paintPage_other (screen : Screen) {page q : BitVec 3} (h : q ≠ page) (start : Nat)
    (cells : List (Option Byte)) : paintPage screen page start cells q = screen q :=
  Function.update_of_ne h ..

theorem paintPage_write (screen : Screen) (page : BitVec 3) (start : Nat) (b : Byte) (q : BitVec 3) (j : Nat) :
    paintPage screen page start [some b] q j = if q = page ∧ j = start then b else screen q j := by
  rw [paintPage, paint_write, Function.update_apply]
  split
  next h => rw [Function.update_apply, h, if_congr (and_iff_right rfl) rfl rfl]
  next h => rw [if_neg fun hBoth => h hBoth.1]

theorem paintPage_comm (screen : Screen) {page page' : BitVec 3} (h : page ≠ page') (start start' : Nat)
    (cells cells' : List (Option Byte)) :
    paintPage (paintPage screen page start cells) page' start' cells' =
      paintPage (paintPage screen page' start' cells') page start cells := by
  simp only [paintPage, Function.update_of_ne h, Function.update_of_ne h.symm]
  exact Function.update_comm h ..

theorem paintPage_congr {screen screen' : Screen} {q : BitVec 3} {j : Nat} (h : screen q j = screen' q j)
    (page : BitVec 3) (start : Nat) (cells : List (Option Byte)) :
    paintPage screen page start cells q j = paintPage screen' page start cells q j := by
  by_cases hPage : q = page
  · subst hPage
    rw [paintPage, paintPage, Function.update_self, Function.update_self]
    exact paint_congr cells h
  · rw [paintPage_other screen hPage, paintPage_other screen' hPage, h]

/-- What `put` does on the display. -/
def Pen.write (p : Pen) (b : Byte) : Pen := { p.emit [writeColumn p.controller b] with x := p.x + 1 }

/-- The panel as a pen leaves it: the pen is on a controller whose registers are at its page and column. -/
structure Pen.Stands (panel : Panel) (c : Fin 2) (page : BitVec 3) (screen : Screen) (p : Pen) : Prop where
  controller : p.controller = number c
  page : ((panel.run p.calls).chip c).page = page
  column : ((panel.run p.calls).chip c).column = BitVec.ofNat 6 p.x.toNat
  shows : ∀ q, ∀ j < 128, (panel.run p.calls).screen q j = screen q j

theorem seek_chip (panel : Panel) (c : Fin 2) {page address : Byte} (hPage : page < 8) (hAddress : address < 64) :
    (panel.run [setPage (number c) page, setAddress (number c) address]).chip c =
      { panel.chip c with page := page.setWidth 3, column := address.setWidth 6 } := by
  rw [Panel.run_cons, Panel.run_cons, Panel.run_nil, setPage, setAddress, Panel.take_same, Panel.take_same,
    Chip.take_command, Chip.take_command, Chip.command_page _ hPage, Chip.command_column _ hAddress]

theorem seek_screen (panel : Panel) (controller page address : Byte) :
    (panel.run [setPage controller page, setAddress controller address]).screen = panel.screen := by
  rw [Panel.run_cons, Panel.run_cons, Panel.run_nil, setPage, setAddress, Panel.screen_command,
    Panel.screen_command]

theorem seek_stands {panel : Panel} {screen : Screen} {calls : List Call} (c : Fin 2) {x page address : Byte}
    (hShows : ∀ q, ∀ j < 128, (panel.run calls).screen q j = screen q j) (hPage : page < 8)
    (hAddress : address.toNat = x.toNat % 64) :
    Pen.Stands panel c (page.setWidth 3) screen
      ⟨x, number c, calls ++ [setPage (number c) page, setAddress (number c) address]⟩ := by
  have hInside : address < 64 := by bv_omega
  constructor
  · rfl
  · rw [Panel.run_append, seek_chip _ c hPage hInside]
  · rw [Panel.run_append, seek_chip _ c hPage hInside]
    apply BitVec.eq_of_toNat_eq
    rw [BitVec.toNat_setWidth, BitVec.toNat_ofNat, hAddress]
    exact Nat.mod_mod ..
  · rw [Panel.run_append, seek_screen]
    exact hShows

theorem columnOf_toNat (x : Byte) : (columnOf x (number (Panel.chipOf x.toNat))).toNat = x.toNat % 64 := by
  have hx := x.isLt
  rw [columnOf, BitVec.toNat_ofNat, Panel.chipOf]
  split
  next h =>
    change x.toNat % (0 * 64) % 256 = x.toNat % 64
    omega
  next h =>
    change x.toNat % (1 * 64) % 256 = x.toNat % 64
    omega

theorem controllerOf_eq (x : Byte) : controllerOf x = number (Panel.chipOf x.toNat) := by
  have hLeft : x < 64 ↔ x.toNat < 64 := BitVec.lt_def
  rw [controllerOf, Panel.chipOf]
  simp only [hLeft]
  split <;> rfl

theorem cross_stands {panel : Panel} {c : Fin 2} {page : Byte} {screen : Screen} {p : Pen} (hPage : page < 8)
    (h : p.Stands panel c (page.setWidth 3) screen) (hc : p.x.toNat ≠ 64 → c = Panel.chipOf p.x.toNat) :
    (p.cross page).Stands panel (Panel.chipOf p.x.toNat) (page.setWidth 3) screen := by
  rw [Pen.cross]
  split
  next hLine =>
    have hRight : Panel.chipOf p.x.toNat = 1 := by
      rw [hLine]
      rfl
    rw [hRight]
    exact seek_stands 1 h.shows hPage (by rw [hLine]; rfl)
  next hLine =>
    rw [← hc fun hNat => hLine (BitVec.eq_of_toNat_eq hNat)]
    exact h

/-- The column of the display that gets what a loop writes at its column `x`: the right controller goes on
from its last column to its first. -/
def landing (x : Nat) : Nat := if x < 128 then x else 64 + x % 64

theorem landing_inside {x : Nat} (hx : x < 128) : landing x = x := if_pos hx

theorem chipOf_landing (x : Nat) : 64 * (Panel.chipOf x).val + x % 64 = landing x := by
  rw [Panel.chipOf, landing]
  split_ifs <;> simp only [Fin.val_zero, Fin.val_one] <;> omega

theorem write_lands {panel : Panel} {page : BitVec 3} {screen : Screen} {p : Pen} (b : Byte)
    (h : p.Stands panel (Panel.chipOf p.x.toNat) page screen) :
    (p.write b).Stands panel (Panel.chipOf p.x.toNat) page (paintPage screen page (landing p.x.toNat) [some b]) := by
  have hCell := chipOf_landing p.x.toNat
  generalize hc : Panel.chipOf p.x.toNat = c at h hCell
  have hColumn : ((panel.run p.calls).chip c).column.toNat = p.x.toNat % 64 := by
    rw [h.column, BitVec.toNat_ofNat]
  have hRun : panel.run (p.write b).calls = (panel.run p.calls).take ⟨number c, b, 1⟩ := by
    rw [Pen.write, Pen.emit, Panel.run_append, Panel.run_cons, Panel.run_nil, writeColumn, h.controller]
  constructor
  · exact h.controller
  · rw [hRun, Panel.take_same, Chip.take_write]
    exact h.page
  · rw [hRun, Panel.take_same, Chip.take_write, Chip.write, h.column, Pen.write]
    bv_omega
  · intro q j hj
    rw [hRun, Panel.screen_write _ _ _ _ hj, h.page, hColumn, hCell, paintPage_write, h.shows q j hj]

theorem write_stands {panel : Panel} {page : BitVec 3} {screen : Screen} {p : Pen} (b : Byte)
    (h : p.Stands panel (Panel.chipOf p.x.toNat) page screen) (hx : p.x.toNat < 128) :
    (p.write b).Stands panel (Panel.chipOf p.x.toNat) page (paintPage screen page p.x.toNat [some b]) := by
  have hLands := write_lands b h
  rw [landing_inside hx] at hLands
  exact hLands

/-- The controller that a pen which set off at `start` is on when it is at `x`. -/
def chipFrom (start x : Nat) : Fin 2 := if start < 64 ∧ x ≤ 64 then leftChip else rightChip

theorem chipFrom_eq {start x : Nat} (h : start ≤ x) (hx : x ≠ 64) : chipFrom start x = Panel.chipOf x := by
  rw [chipFrom, Panel.chipOf]
  exact if_congr (by omega) rfl rfl

theorem chipFrom_succ {start x : Nat} (h : start ≤ x) : chipFrom start (x + 1) = Panel.chipOf x := by
  rw [chipFrom, Panel.chipOf]
  exact if_congr (by omega) rfl rfl

def drawColumns (page : Byte) (columns : List Byte) (p : Pen) : Pen :=
  columns.foldl (fun p column => (p.cross page).put column) p

theorem drawColumns_cons (page column : Byte) (rest : List Byte) (p : Pen) :
    drawColumns page (column :: rest) p = drawColumns page rest ((p.cross page).put column) := rfl

theorem drawColumns_extends (page : Byte) (columns : List Byte) (p : Pen) :
    p.calls.Sublist (drawColumns page columns p).calls := by
  induction columns generalizing p with
  | nil => exact List.Sublist.refl _
  | cons column rest ih =>
    have hCross : p.calls.Sublist (p.cross page).calls := by
      rw [Pen.cross]
      split
      · exact List.sublist_append_left ..
      · exact List.Sublist.refl _
    have hPut : (p.cross page).calls.Sublist ((p.cross page).put column).calls := by
      rw [Pen.put]
      split
      · exact List.sublist_append_left ..
      · exact List.Sublist.refl _
    exact hCross.trans (hPut.trans (ih _))

/-- The column a pen gets to: it stops at the right edge and does not move beyond it. -/
def reach (x n : Nat) : Nat := if x < 128 then min (x + n) 128 else x

theorem reach_zero (x : Nat) : reach x 0 = x := by
  rw [reach]
  split <;> omega

theorem cross_x (p : Pen) (page : Byte) : (p.cross page).x = p.x := by
  rw [Pen.cross]
  split <;> rfl

theorem reach_succ (x n : Nat) : reach (reach x 1) n = reach x (n + 1) := by
  rw [reach, reach, reach]
  split_ifs <;> omega

theorem put_x (p : Pen) (column : Byte) : (p.put column).x.toNat = reach p.x.toNat 1 := by
  have hEdge : p.x < 128 ↔ p.x.toNat < 128 := BitVec.lt_def
  rw [Pen.put, reach]
  simp only [hEdge]
  split
  · change (p.x + 1).toNat = _
    bv_omega
  · rfl

theorem drawColumns_x (page : Byte) (columns : List Byte) (p : Pen) :
    (drawColumns page columns p).x.toNat = reach p.x.toNat columns.length := by
  induction columns generalizing p with
  | nil => exact (reach_zero _).symm
  | cons column rest ih =>
    rw [drawColumns_cons, ih, put_x, cross_x, reach_succ, List.length_cons]

theorem put_beyond (p : Pen) (page column : Byte) (h : 128 ≤ p.x.toNat) : (p.cross page).put column = p := by
  have hLine : p.x ≠ 64 := by bv_omega
  have hEdge : ¬ p.x < 128 := by bv_omega
  rw [Pen.cross, if_neg hLine, Pen.put, if_neg hEdge]

theorem drawColumns_beyond (page : Byte) (columns : List Byte) {p : Pen} (h : 128 ≤ p.x.toNat) :
    drawColumns page columns p = p := by
  induction columns with
  | nil => rfl
  | cons column rest ih => rw [drawColumns_cons, put_beyond p page column h, ih]

theorem paintPage_beyond (screen : Screen) (page : BitVec 3) {start : Nat} (h : 128 ≤ start)
    (cells : List (Option Byte)) (q : BitVec 3) {j : Nat} (hj : j < 128) :
    paintPage screen page start cells q j = screen q j := by
  by_cases hPage : q = page
  · rw [hPage, paintPage, Function.update_self, paint_outside _ (Or.inl (Nat.lt_of_lt_of_le hj h))]
  · rw [paintPage_other screen hPage]

/-- One column inside the display: the pen crosses the line if it is there, writes and moves on. -/
theorem put_stands {panel : Panel} {start : Nat} {page : Byte} (hPage : page < 8) (column : Byte) {screen : Screen}
    {p : Pen} (hStart : start ≤ p.x.toNat) (hx : p.x.toNat < 128)
    (h : p.Stands panel (chipFrom start p.x.toNat) (page.setWidth 3) screen) :
    ((p.cross page).put column).x.toNat = p.x.toNat + 1 ∧
      ((p.cross page).put column).Stands panel (chipFrom start (p.x.toNat + 1)) (page.setWidth 3)
        (paintPage screen (page.setWidth 3) p.x.toNat [some column]) := by
  have hCross := cross_stands hPage h (chipFrom_eq hStart)
  rw [← cross_x p page] at hCross hx hStart ⊢
  have hEdge : (p.cross page).x < 128 := BitVec.lt_def.mpr hx
  have hPut : (p.cross page).put column = (p.cross page).write column := by
    rw [Pen.put, if_pos hEdge, Pen.write]
  rw [hPut, chipFrom_succ hStart]
  refine ⟨?_, write_stands column hCross hx⟩
  rw [Pen.write]
  bv_omega

theorem drawColumns_stands {panel : Panel} {start : Nat} {page : Byte} (hPage : page < 8) (columns : List Byte)
    {screen : Screen} {p : Pen} (hStart : start ≤ p.x.toNat)
    (h : p.Stands panel (chipFrom start p.x.toNat) (page.setWidth 3) screen) :
    (drawColumns page columns p).Stands panel (chipFrom start (reach p.x.toNat columns.length))
      (page.setWidth 3) (paintPage screen (page.setWidth 3) p.x.toNat (columns.map some)) := by
  induction columns generalizing screen p with
  | nil =>
    rw [List.length_nil, reach_zero, List.map_nil, paintPage_nil]
    exact h
  | cons column rest ih =>
    obtain hx | hBeyond := Nat.lt_or_ge p.x.toNat 128
    · obtain ⟨hNext, hPut⟩ := put_stands hPage column hStart hx h
      have hReached : start ≤ ((p.cross page).put column).x.toNat := hNext ▸ Nat.le_succ_of_le hStart
      have hReach : reach (p.x.toNat + 1) rest.length = reach p.x.toNat (column :: rest).length := by
        rw [reach, reach, List.length_cons, if_pos hx]
        split <;> omega
      rw [← hNext] at hPut
      have hStands := ih hReached hPut
      rw [hNext, hReach] at hStands
      rw [drawColumns_cons, List.map_cons, paintPage_cons]
      exact hStands
    · have hReach : reach p.x.toNat (column :: rest).length = p.x.toNat := if_neg (Nat.not_lt.mpr hBeyond)
      rw [hReach, drawColumns_beyond page _ hBeyond]
      refine ⟨h.controller, h.page, h.column, fun q j hj => ?_⟩
      rw [paintPage_beyond _ _ hBeyond _ _ hj]
      exact h.shows q j hj

end WheelDisplay.Lcd

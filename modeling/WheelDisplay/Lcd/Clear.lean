import WheelDisplay.Ks0108.Panel
import WheelDisplay.Lcd.Draw

/-! # What `ks0108_clear` leaves on the display

The page loop takes one step past page 7. Its command byte is then 0xC0, which sets
the start line and leaves the page register on 7.
-/

namespace WheelDisplay.Lcd

open Ks0108

/-- The calls of one page in the loop of `ks0108_clear`. -/
def clearPage (controller page : Byte) : List Call :=
  [setPage controller page, setAddress controller 0] ++ List.replicate 64 (writeColumn controller 0)

def clearController (controller : Byte) : List Call :=
  [⟨controller, 0x3F, 0⟩, ⟨controller, 0xC0, 0⟩] ++
    (List.range 9).flatMap fun page => clearPage controller (BitVec.ofNat 8 page)

theorem ks0108Clear_eq : ks0108Clear = clearController (number 0) ++ clearController (number 1) := by
  have hBlocks : ks0108Clear = [number 0, number 1].flatMap clearController := by
    unfold ks0108Clear clearController clearPage
    rfl
  rw [hBlocks, List.flatMap_cons, List.flatMap_cons, List.flatMap_nil, List.append_nil]

theorem blanks_foldl (controller : Byte) {n : Nat} (hn : n ≤ 64) (k : Chip) :
    (List.replicate n (writeColumn controller 0)).foldl Chip.take k =
      { k with
        ram := fun p c => if p = k.page ∧ (c - k.column).toNat < n then 0 else k.ram p c
        column := k.column + BitVec.ofNat 6 n } := by
  induction n generalizing k with
  | zero => simp
  | succ n ih =>
    rw [List.replicate_succ, List.foldl_cons, writeColumn, Chip.take_write, ← writeColumn, ih (by omega), Chip.write]
    congr 1
    · funext p c
      change (if _ then _ else if p = k.page ∧ c = k.column then 0 else k.ram p c) = _
      by_cases hPage : p = k.page
      · by_cases hColumn : c = k.column
        · simp [hPage, hColumn]
        · have hStep : (c - (k.column + 1)).toNat < n ↔ (c - k.column).toNat < n + 1 := by bv_omega
          simp only [hPage, hColumn, hStep, true_and, and_false, if_false]
      · simp [hPage]
    · change k.column + 1 + BitVec.ofNat 6 n = k.column + BitVec.ofNat 6 (n + 1)
      bv_omega

theorem clearPage_foldl (controller page : Byte) (k : Chip) :
    (clearPage controller page).foldl Chip.take k =
      { k.command (0xB8 + page) with
        ram := fun p c => if p = (k.command (0xB8 + page)).page then 0 else k.ram p c
        column := 0 } := by
  have hAddress : (k.take (setPage controller page)).take (setAddress controller 0) =
      { k.command (0xB8 + page) with column := 0 } := by
    rw [setPage, setAddress, Chip.take_command, Chip.take_command, Chip.command_column _ (by decide)]
    rfl
  have hAll : ∀ c : BitVec 6, (c - 0).toNat < 64 := by
    intro c
    exact (c - 0).isLt
  rw [clearPage, List.foldl_append, List.foldl_cons, List.foldl_cons, List.foldl_nil, hAddress,
    blanks_foldl controller le_rfl]
  congr 1
  · funext p c
    rw [Chip.command_ram]
    exact if_congr (and_iff_left (hAll c)) rfl rfl

/-- The pages below `n` are blank, the display is on and it starts at line 0. -/
structure Cleared (n : Nat) (k : Chip) : Prop where
  blank : ∀ p c, p.toNat < n → k.ram p c = 0
  on : k.on = true
  startLine : k.startLine = 0

theorem clearPage_cleared (controller : Byte) {n : Nat} (hn : n < 9) {k : Chip} (h : Cleared n k) :
    Cleared (n + 1) ((clearPage controller (BitVec.ofNat 8 n)).foldl Chip.take k) := by
  rw [clearPage_foldl]
  by_cases hLast : n = 8
  · subst hLast
    have hCommand : k.command (0xB8 + BitVec.ofNat 8 8) = { k with startLine := 0 } := k.command_startLine
    rw [hCommand]
    refine ⟨fun p c _ => ?_, h.on, rfl⟩
    exact (ite_eq_left_iff.mpr fun _ => h.blank p c p.isLt)
  · have hPage : BitVec.ofNat 8 n < 8 := by bv_omega
    rw [Chip.command_page k hPage]
    refine ⟨fun p c hp => ?_, h.on, h.startLine⟩
    refine ite_eq_left_iff.mpr fun hOther => h.blank p c ?_
    have hNotLast : p ≠ (BitVec.ofNat 8 n).setWidth 3 := hOther
    bv_omega

theorem clearPages_cleared (controller : Byte) {n : Nat} (hn : n ≤ 9) {k : Chip} (h : Cleared 0 k) :
    Cleared n (((List.range n).flatMap fun page => clearPage controller (BitVec.ofNat 8 page)).foldl
      Chip.take k) := by
  induction n with
  | zero => exact h
  | succ n ih =>
    rw [List.range_succ, List.flatMap_append, List.flatMap_singleton, List.foldl_append]
    exact clearPage_cleared controller hn (ih (Nat.le_of_lt hn))

theorem clearController_cleared (controller : Byte) (k : Chip) :
    Cleared 9 ((clearController controller).foldl Chip.take k) := by
  rw [clearController, List.foldl_append]
  apply clearPages_cleared controller (Nat.le_refl 9)
  rw [List.foldl_cons, List.foldl_cons, List.foldl_nil, Chip.take_command, Chip.take_command,
    Chip.command_on, Chip.command_startLine]
  exact ⟨fun _ _ hp => absurd hp (Nat.not_lt_zero _), rfl, rfl⟩

theorem clearController_controller (controller : Byte) :
    ∀ call ∈ clearController controller, call.controller = controller := by
  intro call h
  simp only [clearController, clearPage, List.mem_append, List.mem_cons, List.mem_flatMap,
    List.mem_replicate, List.not_mem_nil, or_false] at h
  obtain (rfl | rfl) | ⟨_, _, (rfl | rfl) | ⟨_, rfl⟩⟩ := h <;> rfl

/-- Whatever the controllers hold, `ks0108_clear` blanks them and leaves them on at line 0. -/
theorem ks0108Clear_panel (panel : Panel) (c : Fin 2) :
    (∀ page column, ((panel.run ks0108Clear).chip c).ram page column = 0) ∧
      ((panel.run ks0108Clear).chip c).on = true ∧ ((panel.run ks0108Clear).chip c).startLine = 0 := by
  have hCleared : Cleared 9 ((panel.run ks0108Clear).chip c) := by
    rw [ks0108Clear_eq, Panel.run_append]
    obtain rfl | rfl : c = 0 ∨ c = 1 := by fin_cases c <;> simp
    · rw [Panel.run_other _ (by decide) (clearController_controller _),
        Panel.run_same _ (clearController_controller _)]
      exact clearController_cleared _ _
    · rw [Panel.run_same _ (clearController_controller _)]
      exact clearController_cleared _ _
  exact ⟨fun page column => hCleared.blank page column (Nat.lt_succ_of_lt page.isLt), hCleared.on, hCleared.startLine⟩

end WheelDisplay.Lcd

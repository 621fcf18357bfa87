import WheelDisplay.Lcd.Redraw

/-! # The range of `ks0108_clear_range`

The loop counts columns and never looks for the right edge. Column 128 of the loop is
column 64 of the display, where the right controller is after its last column.
-/

namespace WheelDisplay.Lcd

open Ks0108

/-- A loop over the columns from `a` to `b` writes on column `j` of the display. -/
def Lands (a b j : Nat) : Prop := ∃ c < b, a ≤ c ∧ landing c = j

instance (a b j : Nat) : Decidable (Lands a b j) := inferInstanceAs (Decidable (∃ c < b, _))

theorem not_lands_self (a j : Nat) : ¬ Lands a a j := by
  rintro ⟨c, hEnd, hStart, -⟩
  omega

theorem lands_succ {a b j : Nat} (h : a ≤ b) : Lands a (b + 1) j ↔ Lands a b j ∨ j = landing b := by
  constructor
  · rintro ⟨c, hEnd, hStart, rfl⟩
    obtain hBefore | rfl := Nat.lt_succ_iff_lt_or_eq.mp hEnd
    · exact Or.inl ⟨c, hBefore, hStart, rfl⟩
    · exact Or.inr rfl
  · rintro (⟨c, hEnd, hStart, hAt⟩ | rfl)
    · exact ⟨c, Nat.lt_succ_of_lt hEnd, hStart, hAt⟩
    · exact ⟨b, Nat.lt_succ_self b, h, rfl⟩

/-- On the display the loop writes on its own columns and on those that it comes round to. -/
theorem lands_iff {a b j : Nat} (hj : j < 128) :
    Lands a b j ↔ (a ≤ j ∧ j < b) ∨ ∃ c < b, 128 ≤ c ∧ a ≤ c ∧ 64 + c % 64 = j := by
  constructor
  · rintro ⟨c, hEnd, hStart, hAt⟩
    rw [landing] at hAt
    split at hAt
    next hInside => exact Or.inl (by omega)
    next hBeyond => exact Or.inr ⟨c, hEnd, Nat.le_of_not_lt hBeyond, hStart, hAt⟩
  · rintro (⟨hStart, hEnd⟩ | ⟨c, hEnd, hBeyond, hStart, hAt⟩)
    · exact ⟨j, hEnd, hStart, landing_inside hj⟩
    · exact ⟨c, hEnd, hStart, (if_neg (Nat.not_lt.mpr hBeyond)).trans hAt⟩

/-- A screen with zeros on the columns from `a` to `b` of a page, as they land. -/
def wipedRow (screen : Screen) (page : BitVec 3) (a b : Nat) : Screen := fun q j =>
  if q = page ∧ Lands a b j then 0 else screen q j

theorem wipedRow_self (screen : Screen) (page : BitVec 3) (a : Nat) : wipedRow screen page a a = screen := by
  funext q j
  exact if_neg fun h => not_lands_self a j h.2

theorem wipedRow_succ (screen : Screen) (page : BitVec 3) {a b : Nat} (h : a ≤ b) :
    wipedRow screen page a (b + 1) = paintPage (wipedRow screen page a b) page (landing b) [some 0] := by
  funext q j
  rw [paintPage_write, wipedRow, wipedRow, ← ite_or]
  refine if_congr ?_ rfl rfl
  rw [lands_succ h, and_or_left, or_comm]

/-- The pen in the column loop of a page, after `n` columns. -/
def clearPen (page laddress : Byte) (n : Nat) : Pen :=
  (List.range n).foldl (fun p _ => (p.cross page).write 0) (startPen laddress page [])

theorem clearPen_succ (page laddress : Byte) (n : Nat) :
    clearPen page laddress (n + 1) = ((clearPen page laddress n).cross page).write 0 := by
  rw [clearPen, List.range_succ, List.foldl_append]
  rfl

theorem clearPen_x (page laddress : Byte) {n : Nat} (h : laddress.toNat + n < 256) :
    (clearPen page laddress n).x.toNat = laddress.toNat + n := by
  induction n with
  | zero => rfl
  | succ n ih =>
    have hBefore := ih (by omega)
    have hWrite : (((clearPen page laddress n).cross page).write 0).x = (clearPen page laddress n).x + 1 := by
      rw [Pen.write, cross_x]
    rw [clearPen_succ, hWrite]
    bv_omega

/-- Every column of the range is written, on the controller that the loop is on. -/
theorem clearPen_stands (panel : Panel) {page : Byte} (hPage : page < 8) (laddress : Byte) {n : Nat}
    (h : laddress.toNat + n < 256) :
    (clearPen page laddress n).Stands panel (chipFrom laddress.toNat (laddress.toNat + n)) (page.setWidth 3)
      (wipedRow panel.screen (page.setWidth 3) laddress.toNat (laddress.toNat + n)) := by
  induction n with
  | zero =>
    have hBefore : ∀ q, ∀ j < 128, (panel.run []).screen q j = panel.screen q j := fun _ _ _ => rfl
    rw [Nat.add_zero, wipedRow_self]
    exact startPen_stands laddress hPage hBefore
  | succ n ih =>
    have hBefore : laddress.toNat + n < 256 := by omega
    have hReached : laddress.toNat ≤ laddress.toNat + n := Nat.le_add_right _ n
    have hStands := ih hBefore
    have hx := clearPen_x page laddress hBefore
    rw [← hx] at hStands
    have hCross := cross_stands hPage hStands (chipFrom_eq (by omega))
    rw [← cross_x _ page] at hCross
    have hWrite := write_lands 0 hCross
    rw [cross_x, hx, ← wipedRow_succ _ _ hReached, ← chipFrom_succ hReached] at hWrite
    rw [clearPen_succ, ← Nat.add_assoc]
    exact hWrite

theorem ks0108ClearRange_pens (lpage hpage laddress haddress : Byte) :
    ks0108ClearRange lpage hpage laddress haddress =
      (List.range' lpage.toNat (hpage.toNat + 1 - lpage.toNat)).flatMap fun page =>
        (clearPen (BitVec.ofNat 8 page) laddress (haddress.toNat - laddress.toNat)).calls := by
  rw [ks0108ClearRange]
  congr 1
  funext page
  rw [clearPen, startPen, columnOf_controllerOf]
  rfl

/-- A screen with zeros on `n` pages from `lpage` on, where the columns from `a` to `b` land. -/
def wiped (screen : Screen) (lpage n a b : Nat) : Screen := fun q j =>
  if (lpage ≤ q.toNat ∧ q.toNat < lpage + n) ∧ Lands a b j then 0 else screen q j

theorem wiped_zero (screen : Screen) (lpage a b : Nat) : wiped screen lpage 0 a b = screen := by
  funext q j
  exact if_neg fun h => by omega

theorem wiped_succ (screen : Screen) {lpage n : Nat} (h : lpage + n < 8) (a b : Nat) :
    wiped screen lpage (n + 1) a b = wipedRow (wiped screen lpage n a b) (BitVec.ofNat 3 (lpage + n)) a b := by
  funext q j
  have hPages : (lpage ≤ q.toNat ∧ q.toNat < lpage + (n + 1)) ↔
      q = BitVec.ofNat 3 (lpage + n) ∨ (lpage ≤ q.toNat ∧ q.toNat < lpage + n) := by
    rw [← BitVec.toNat_inj, BitVec.toNat_ofNat]
    omega
  rw [wiped, wipedRow, wiped, ← ite_or]
  refine if_congr ?_ rfl rfl
  rw [hPages, or_and_right]

theorem clearPages_screen (panel : Panel) {lpage n : Nat} (hPages : lpage + n ≤ 8) (laddress : Byte) {m : Nat}
    (h : laddress.toNat + m < 256) (q : BitVec 3) {j : Nat} (hj : j < 128) :
    (panel.run ((List.range' lpage n).flatMap fun page =>
        (clearPen (BitVec.ofNat 8 page) laddress m).calls)).screen q j =
      wiped panel.screen lpage n laddress.toNat (laddress.toNat + m) q j := by
  induction n with
  | zero =>
    rw [wiped_zero]
    rfl
  | succ n ih =>
    have hPage : BitVec.ofNat 8 (lpage + n) < 8 := by bv_omega
    have hRegister : (BitVec.ofNat 8 (lpage + n)).setWidth 3 = BitVec.ofNat 3 (lpage + n) := by bv_omega
    have hRow := fun panel : Panel => (clearPen_stands panel hPage laddress h).shows q j hj
    rw [List.range'_1_concat, List.flatMap_append, List.flatMap_singleton, Panel.run_append, hRow, hRegister,
      wiped_succ _ (by omega), wipedRow, wipedRow, ih (by omega)]

theorem lands_end (a b j : Nat) : Lands a (a + (b - a)) j ↔ Lands a b j := by
  refine exists_congr fun c => and_congr_left ?_
  rintro ⟨hStart, -⟩
  omega

/-- What `ks0108_clear_range` leaves on the display. -/
theorem ks0108ClearRange_screen (panel : Panel) {lpage hpage : Byte} (hPages : lpage ≤ hpage) (hLast : hpage < 8)
    (laddress haddress : Byte) (q : BitVec 3) {j : Nat} (hj : j < 128) :
    (panel.run (ks0108ClearRange lpage hpage laddress haddress)).screen q j =
      if (lpage ≤ q.setWidth 8 ∧ q.setWidth 8 ≤ hpage) ∧ Lands laddress.toNat haddress.toNat j then 0
      else panel.screen q j := by
  have hCount : lpage.toNat + (hpage.toNat + 1 - lpage.toNat) ≤ 8 := by bv_omega
  have hEnd : laddress.toNat + (haddress.toNat - laddress.toNat) < 256 := by bv_omega
  have hBetween : (lpage.toNat ≤ q.toNat ∧ q.toNat < lpage.toNat + (hpage.toNat + 1 - lpage.toNat)) ↔
      lpage ≤ q.setWidth 8 ∧ q.setWidth 8 ≤ hpage := by
    bv_omega
  rw [ks0108ClearRange_pens, clearPages_screen panel hCount laddress hEnd q hj, wiped]
  exact if_congr (and_congr hBetween (lands_end ..)) rfl rfl

/-- The call clears the cells of its range on the display, and no others. -/
def ClearsRange (panel : Panel) (lpage hpage laddress haddress : Byte) : Prop :=
  ∀ q, ∀ j < 128, (panel.run (ks0108ClearRange lpage hpage laddress haddress)).screen q j =
    if (lpage ≤ q.setWidth 8 ∧ q.setWidth 8 ≤ hpage) ∧ laddress.toNat ≤ j ∧ j < haddress.toNat then 0
    else panel.screen q j

/-- The columns of the range that are beyond the right edge come round to columns of the range, or to columns
that are dark on its pages. -/
def RoundHarmless (panel : Panel) (lpage hpage laddress haddress : Byte) : Prop :=
  ∀ c < haddress.toNat, 128 ≤ c → laddress.toNat ≤ c →
    laddress.toNat ≤ 64 + c % 64 ∨
      ∀ q : BitVec 3, lpage ≤ q.setWidth 8 → q.setWidth 8 ≤ hpage → panel.screen q (64 + c % 64) = 0

theorem clearsRange_iff (panel : Panel) {lpage hpage : Byte} (hPages : lpage ≤ hpage) (hLast : hpage < 8)
    (laddress haddress : Byte) :
    ClearsRange panel lpage hpage laddress haddress ↔ RoundHarmless panel lpage hpage laddress haddress := by
  constructor
  · intro h c hEnd hBeyond hStart
    refine (Nat.lt_or_ge (64 + c % 64) laddress.toNat).symm.imp_right fun hBefore q hLow hHigh => ?_
    have hj : 64 + c % 64 < 128 := by omega
    have hCell := h q _ hj
    have hLands : Lands laddress.toNat haddress.toNat (64 + c % 64) :=
      (lands_iff hj).mpr (Or.inr ⟨c, hEnd, hBeyond, hStart, rfl⟩)
    rw [ks0108ClearRange_screen panel hPages hLast laddress haddress q hj, if_pos ⟨⟨hLow, hHigh⟩, hLands⟩,
      if_neg fun hRange => absurd hRange.2.1 (Nat.not_le.mpr hBefore)] at hCell
    exact hCell.symm
  · intro h q j hj
    rw [ks0108ClearRange_screen panel hPages hLast laddress haddress q hj]
    split_ifs with hWiped hRange hRange
    · rfl
    · obtain ⟨⟨hLow, hHigh⟩, hLands⟩ := hWiped
      obtain hInside | ⟨c, hEnd, hBeyond, hStart, rfl⟩ := (lands_iff hj).mp hLands
      · exact absurd ⟨⟨hLow, hHigh⟩, hInside⟩ hRange
      · obtain hOwn | hDark := h c hEnd hBeyond hStart
        · exact absurd ⟨⟨hLow, hHigh⟩, hOwn, by omega⟩ hRange
        · exact (hDark q hLow hHigh).symm
    · exact absurd ⟨hRange.1, (lands_iff hj).mpr (Or.inl hRange.2)⟩ hWiped
    · rfl

theorem RoundHarmless.of_address {lpage hpage laddress haddress : Byte}
    (h : haddress ≤ 128 ∨ haddress ≤ laddress ∨ laddress ≤ 64) (panel : Panel) :
    RoundHarmless panel lpage hpage laddress haddress := by
  intro c hEnd hBeyond hStart
  exact Or.inl (by bv_omega)

/-- On a lit display every column that comes round outside the range shows. -/
theorem roundHarmless_lit_iff {lpage hpage : Byte} (hPages : lpage ≤ hpage) (hLast : hpage < 8)
    (laddress haddress : Byte) :
    RoundHarmless litPanel lpage hpage laddress haddress ↔
      haddress ≤ 128 ∨ haddress ≤ laddress ∨ laddress ≤ 64 := by
  constructor
  · intro h
    by_contra hOutside
    rw [not_or, not_or] at hOutside
    obtain ⟨hEdge, hNonempty, hRight⟩ := hOutside
    have hLow : lpage ≤ (lpage.setWidth 3).setWidth 8 := by bv_omega
    have hHigh : (lpage.setWidth 3).setWidth 8 ≤ hpage := by bv_omega
    obtain hOwn | hDark := h (max 128 laddress.toNat) (by bv_omega) (Nat.le_max_left ..) (Nat.le_max_right ..)
    · bv_omega
    · exact absurd (hDark (lpage.setWidth 3) hLow hHigh) (by decide : (0xFF : Byte) ≠ 0)
  · exact fun h => RoundHarmless.of_address h litPanel

/-- A range is cleared exactly when nothing is lit where its columns beyond the right edge come round to. Only a
range that ends on the display, is empty or starts by column 64 is cleared whatever the display shows. -/
theorem ks0108ClearRange_clears_iff {lpage hpage : Byte} (hPages : lpage ≤ hpage) (hLast : hpage < 8)
    (laddress haddress : Byte) :
    (∀ panel : Panel, ClearsRange panel lpage hpage laddress haddress ↔
        RoundHarmless panel lpage hpage laddress haddress) ∧
      ((∀ panel : Panel, ClearsRange panel lpage hpage laddress haddress) ↔
        haddress ≤ 128 ∨ haddress ≤ laddress ∨ laddress ≤ 64) := by
  have hIff := fun panel => clearsRange_iff panel hPages hLast laddress haddress
  refine ⟨hIff, ?_⟩
  constructor
  · intro h
    exact (roundHarmless_lit_iff hPages hLast laddress haddress).mp ((hIff litPanel).mp (h litPanel))
  · intro h panel
    exact (hIff panel).mpr (RoundHarmless.of_address h panel)

theorem ks0108ClearRange_clears_iff_fuel :
    (∀ panel : Panel, ClearsRange panel 3 3 103 132 ↔ RoundHarmless panel 3 3 103 132) ∧
      ((∀ panel : Panel, ClearsRange panel 3 3 103 132) ↔
        (132 : Byte) ≤ 128 ∨ (132 : Byte) ≤ 103 ∨ (103 : Byte) ≤ 64) :=
  ks0108ClearRange_clears_iff (by decide) (by decide) 103 132

/-- The range that is cleared when `fuel` takes the place of `fuel need` on the right of the second row. It reaches
four columns beyond the edge, and columns 64 to 67 lose what they show. -/
theorem ks0108ClearRange_comes_round :
    ¬ ∀ (panel : Panel) (lpage hpage laddress haddress : Byte), lpage ≤ hpage → hpage < 8 →
      ClearsRange panel lpage hpage laddress haddress := by
  intro h
  have hLit := h litPanel 3 3 103 132 (by decide) (by decide) 3 64 (by decide)
  revert hLit
  decide +kernel

end WheelDisplay.Lcd

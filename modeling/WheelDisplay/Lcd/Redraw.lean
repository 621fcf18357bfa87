import WheelDisplay.Lcd.Writestring

/-! # Redrawing a label over what the display showed

A text is painted from the column of its label on, over one page in the small font
and two in the large one, and the clean-up goes on to the end of the text before.
-/

namespace WheelDisplay.Lcd

open CString Ks0108 Labels Raster

def rows (font : Byte) : Nat := if font = fontLarge then 2 else 1

def labelPage (y : Byte) (i : Nat) : BitVec 3 := (y + BitVec.ofNat 8 i).setWidth 3

def paintLabel (font : Byte) (screen : Screen) (y : Byte) (x : Nat) (f : Nat → List (Option Byte)) : Screen :=
  if font = fontLarge then paintLarge screen y x (f 0) (f 1) else paintPage screen (y.setWidth 3) x (f 0)

theorem labelPage_zero (y : Byte) : labelPage y 0 = y.setWidth 3 := by
  have hZero : y + BitVec.ofNat 8 0 = y := BitVec.add_zero y
  rw [labelPage, hZero]

theorem labelPage_one (y : Byte) : labelPage y 1 = (y + 1).setWidth 3 := rfl

theorem paintLabel_row (font : Byte) (screen : Screen) (y : Byte) (x : Nat) (f : Nat → List (Option Byte)) {i : Nat}
    (hi : i < rows font) :
    paintLabel font screen y x f (labelPage y i) = paint (screen (labelPage y i)) x (f i) := by
  rw [rows] at hi
  rw [paintLabel]
  split at hi
  next hLarge =>
    have hPages : y.setWidth 3 ≠ (y + 1).setWidth 3 := by bv_omega
    rw [if_pos hLarge, paintLarge]
    obtain rfl | rfl : i = 0 ∨ i = 1 := by omega
    · rw [labelPage_zero, paintPage_other _ hPages, paintPage, Function.update_self]
    · rw [labelPage_one, paintPage, Function.update_self, paintPage_other _ hPages.symm]
  next hSmall =>
    obtain rfl : i = 0 := by omega
    rw [if_neg hSmall, labelPage_zero, paintPage, Function.update_self]

theorem paintLabel_off (font : Byte) (screen : Screen) {y : Byte} (x : Nat) (f : Nat → List (Option Byte))
    {q : BitVec 3} (h : ∀ i < rows font, q ≠ labelPage y i) : paintLabel font screen y x f q = screen q := by
  rw [rows] at h
  rw [paintLabel]
  split at h
  next hLarge =>
    have hUpper := h 0 (by decide)
    have hLower := h 1 (by decide)
    rw [labelPage_zero] at hUpper
    rw [labelPage_one] at hLower
    rw [if_pos hLarge, paintLarge, paintPage_other _ hLower, paintPage_other _ hUpper]
  next hSmall =>
    have hOnly := h 0 (by decide)
    rw [labelPage_zero] at hOnly
    rw [if_neg hSmall, paintPage_other _ hOnly]

theorem paintLabel_congr {font : Byte} {screen screen' : Screen} {j : Nat} (h : ∀ q, screen q j = screen' q j)
    (y : Byte) (x : Nat) (f : Nat → List (Option Byte)) (q : BitVec 3) :
    paintLabel font screen y x f q j = paintLabel font screen' y x f q j := by
  by_cases hRow : ∃ i < rows font, q = labelPage y i
  · obtain ⟨i, hi, rfl⟩ := hRow
    rw [paintLabel_row _ _ _ _ _ hi, paintLabel_row _ _ _ _ _ hi]
    exact paint_congr _ (h _)
  · have hElse : ∀ i < rows font, q ≠ labelPage y i := fun i hi hq => hRow ⟨i, hi, hq⟩
    rw [paintLabel_off _ _ _ _ hElse, paintLabel_off _ _ _ _ hElse, h q]

theorem paintLabel_append (font : Byte) (screen : Screen) (y : Byte) (x : Nat) {n : Nat}
    {first second : Nat → List (Option Byte)} (hLength : ∀ i < rows font, (first i).length = n) :
    paintLabel font screen y x (fun i => first i ++ second i) =
      paintLabel font (paintLabel font screen y x first) y (x + n) second := by
  funext q j
  by_cases h : ∃ i < rows font, q = labelPage y i
  · obtain ⟨i, hi, rfl⟩ := h
    rw [paintLabel_row _ _ _ _ _ hi, paintLabel_row _ _ _ _ _ hi, paintLabel_row _ _ _ _ _ hi, paint_append,
      hLength i hi]
  · have hElse : ∀ i < rows font, q ≠ labelPage y i := fun i hi hq => h ⟨i, hi, hq⟩
    rw [paintLabel_off _ _ _ _ hElse, paintLabel_off _ _ _ _ hElse, paintLabel_off _ _ _ _ hElse]

/-- The cells that a character takes on a page of its label; a space is passed over. -/
def cells (font : Byte) (i : Nat) (c : Byte) : List (Option Byte) :=
  match glyphOf font c with
  | some glyph => characterCells (if font = fontLarge then columns16 glyph i else columns8 glyph)
  | none => if font = fontSmall ∧ c = 0x20 then [none] else []

def textCells (font : Byte) (bytes : List Byte) (i : Nat) : List (Option Byte) := bytes.flatMap (cells font i)

def textWidth (font : Byte) (bytes : List Byte) : Nat := (textCells font bytes 0).length

theorem cells_length (font : Byte) (i : Nat) (c : Byte) : (cells font i c).length = (cells font 0 c).length := by
  rw [cells, cells]
  cases glyphOf font c with
  | none => rfl
  | some glyph =>
    dsimp only
    split
    · rw [characterCells, characterCells, List.length_append, List.length_append, List.length_map, List.length_map,
        columns16_length_eq glyph i 0]
    · rfl

theorem textCells_length (font : Byte) (bytes : List Byte) (i : Nat) :
    (textCells font bytes i).length = textWidth font bytes := by
  simp only [textWidth, textCells, List.length_flatMap, cells_length font i]

theorem paintLabel_unchanged {font : Byte} (screen : Screen) (y : Byte) (x : Nat) {f : Nat → List (Option Byte)}
    (h : ∀ i < rows font, f i = [] ∨ f i = [none]) : paintLabel font screen y x f = screen := by
  funext q j
  by_cases hRow : ∃ i < rows font, q = labelPage y i
  · obtain ⟨i, hi, rfl⟩ := hRow
    rw [paintLabel_row _ _ _ _ _ hi]
    obtain hEmpty | hSkip := h i hi
    · rw [hEmpty, paint_nil]
    · rw [hSkip, paint_skip]
  · rw [paintLabel_off _ _ _ _ fun i hi hq => hRow ⟨i, hi, hq⟩]

/-- The place of a label on one of the two controllers, wide enough for `n` columns. -/
structure Holds (half : Nat) (font x y : Byte) (n : Nat) : Prop where
  side : half < 2
  left : 64 * half ≤ x.toNat
  right : x.toNat + n ≤ 64 * half + 64
  pages : y.toNat + rows font ≤ 8

theorem writeSmall_paints {half : Nat} {x y glyph c : Byte} (hGlyph : glyphOf fontSmall c = some glyph)
    (h : Holds half fontSmall x y (cells fontSmall 0 c).length) :
    (lcdWritechar8 x y glyph).1.toNat = x.toNat + (cells fontSmall 0 c).length ∧
      ∀ (panel : Panel) (q : BitVec 3), ∀ j < 128, (panel.run (lcdWritechar8 x y glyph).2).screen q j =
        paintLabel fontSmall panel.screen y x.toNat (fun i => cells fontSmall i c) q j := by
  obtain ⟨hHalf, hLeft, hRight, hPages⟩ := h
  have hSmall : ¬ fontSmall = fontLarge := by decide
  have hCells : ∀ i, cells fontSmall i c = characterCells (columns8 glyph) := by
    intro i
    rw [cells, hGlyph]
    exact congrArg characterCells (if_neg hSmall)
  have hPage : y < 8 := by
    rw [rows, if_neg hSmall] at hPages
    bv_omega
  rw [hCells, characterCells, List.length_append, List.length_map, List.length_singleton] at hRight ⊢
  have hFits : BlankFits x.toNat (columns8 glyph).length := ⟨by omega, by omega⟩
  refine ⟨lcdWritechar8_x hFits, fun panel q j hj => ?_⟩
  rw [lcdWritechar8_fits panel hPage hFits q hj, paintLabel, if_neg hSmall, hCells]

theorem writeLarge_paints {half : Nat} {x y glyph c : Byte} (hGlyph : glyphOf fontLarge c = some glyph)
    (h : Holds half fontLarge x y (cells fontLarge 0 c).length) :
    (lcdWritechar16 x y glyph).1.toNat = x.toNat + (cells fontLarge 0 c).length ∧
      ∀ (panel : Panel) (q : BitVec 3), ∀ j < 128, (panel.run (lcdWritechar16 x y glyph).2).screen q j =
        paintLabel fontLarge panel.screen y x.toNat (fun i => cells fontLarge i c) q j := by
  obtain ⟨hHalf, hLeft, hRight, hPages⟩ := h
  have hCells : ∀ i, cells fontLarge i c = characterCells (columns16 glyph i) := by
    intro i
    rw [cells, hGlyph]
    exact congrArg characterCells (if_pos rfl)
  have hPage : y < 7 := by
    rw [rows, if_pos rfl] at hPages
    bv_omega
  rw [hCells, characterCells, List.length_append, List.length_map, List.length_singleton, ← width16] at hRight ⊢
  refine ⟨lcdWritechar16_x (by omega), fun panel q j hj => ?_⟩
  rw [lcdWritechar16_fits panel hPage (by omega) q hj, paintLabel, if_pos rfl, hCells, hCells]

theorem writeGlyph_paints {half : Nat} {font x y glyph c : Byte} (hFont : font = fontSmall ∨ font = fontLarge)
    (hGlyph : glyphOf font c = some glyph) (h : Holds half font x y (cells font 0 c).length) :
    (writeGlyph font x y glyph).1.toNat = x.toNat + (cells font 0 c).length ∧
      ∀ (panel : Panel) (q : BitVec 3), ∀ j < 128, (panel.run (writeGlyph font x y glyph).2).screen q j =
        paintLabel font panel.screen y x.toNat (fun i => cells font i c) q j := by
  obtain rfl | rfl := hFont
  · exact writeSmall_paints hGlyph h
  · exact writeLarge_paints hGlyph h

theorem writeCharacter_paints {half : Nat} {font x y c : Byte} (hFont : font = fontSmall ∨ font = fontLarge)
    (number : Word) (h : Holds half font x y (cells font 0 c).length) :
    (writeCharacter font y number x c).1.toNat = x.toNat + (cells font 0 c).length ∧
      ∀ (panel : Panel) (q : BitVec 3), ∀ j < 128, (panel.run (writeCharacter font y number x c).2).screen q j =
        paintLabel font panel.screen y x.toNat (fun i => cells font i c) q j := by
  rw [writeCharacter_eq hFont]
  cases hGlyph : glyphOf font c with
  | some glyph => exact writeGlyph_paints hFont hGlyph h
  | none =>
    have hCells : ∀ i, cells font i c = if font = fontSmall ∧ c = 0x20 then [none] else [] := by
      intro i
      rw [cells, hGlyph]
    obtain ⟨hHalf, hLeft, hRight, _⟩ := h
    rw [hCells] at hRight ⊢
    dsimp only
    split at hRight
    next hSpace =>
      rw [List.length_singleton] at hRight
      rw [if_pos hSpace, if_pos hSpace, List.length_singleton]
      refine ⟨by bv_omega, fun panel q j _ => ?_⟩
      rw [paintLabel_unchanged _ _ _ fun i _ => Or.inr ((hCells i).trans (if_pos hSpace))]
      rfl
    next hOther =>
      rw [if_neg hOther, if_neg hOther, List.length_nil]
      refine ⟨rfl, fun panel q j _ => ?_⟩
      rw [paintLabel_unchanged _ _ _ fun i _ => Or.inl ((hCells i).trans (if_neg hOther))]
      rfl

theorem drawBytes_paints {half : Nat} {t : LCDtext} (hFont : t.font = fontSmall ∨ t.font = fontLarge)
    (bytes : List Byte) {x : Byte} (h : Holds half t.font x t.y (textWidth t.font bytes)) :
    (bytes.foldl (drawCharacter t) (x, [])).1.toNat = x.toNat + textWidth t.font bytes ∧
      ∀ (panel : Panel) (q : BitVec 3), ∀ j < 128,
        (panel.run (bytes.foldl (drawCharacter t) (x, [])).2).screen q j =
          paintLabel t.font panel.screen t.y x.toNat (textCells t.font bytes) q j := by
  induction bytes generalizing x with
  | nil =>
    refine ⟨rfl, fun panel q j _ => ?_⟩
    rw [paintLabel_unchanged (f := textCells t.font []) _ _ _ fun _ _ => Or.inl rfl]
    rfl
  | cons c rest ih =>
    have hWidth : textWidth t.font (c :: rest) = (cells t.font 0 c).length + textWidth t.font rest := by
      rw [textWidth, textCells, List.flatMap_cons, List.length_append, ← textCells, ← textWidth]
    have hCells : textCells t.font (c :: rest) = fun i => cells t.font i c ++ textCells t.font rest i := rfl
    obtain ⟨hHalf, hLeft, hRight, hPages⟩ := h
    rw [hWidth] at hRight ⊢
    obtain ⟨hNext, hCharacter⟩ := writeCharacter_paints (c := c) hFont t.number ⟨hHalf, hLeft, by omega, hPages⟩
    obtain ⟨hEnd, hRest⟩ := ih (x := (writeCharacter t.font t.y t.number x c).1)
      ⟨hHalf, by omega, by omega, hPages⟩
    have hDrawn : drawCharacter t (x, []) c = writeCharacter t.font t.y t.number x c := rfl
    rw [List.foldl_cons, drawCharacter_foldl, hDrawn]
    refine ⟨by rw [hEnd, hNext, Nat.add_assoc], fun panel q j hj => ?_⟩
    rw [Panel.run_append, hRest _ q j hj, hNext, hCells, paintLabel_append _ _ _ _ fun i _ => cells_length t.font i c]
    exact paintLabel_congr (fun q => hCharacter panel q j hj) ..

theorem clear_foldl (page : Byte) (steps : List Nat) {p : Pen} (h : p.x.toNat + steps.length ≤ 128) :
    steps.foldl (fun p _ => (p.cross page).write 0) p = drawColumns page (steps.map fun _ => 0) p := by
  induction steps generalizing p with
  | nil => rfl
  | cons step rest ih =>
    rw [List.length_cons] at h
    have hEdge : (p.cross page).x < 128 := by
      rw [cross_x]
      bv_omega
    have hPut : (p.cross page).put 0 = (p.cross page).write 0 := by
      rw [Pen.put, if_pos hEdge, Pen.write]
    have hNext : ((p.cross page).write 0).x.toNat = p.x.toNat + 1 := by
      have hWrite : ((p.cross page).write 0).x = (p.cross page).x + 1 := rfl
      rw [hWrite, cross_x]
      bv_omega
    rw [List.foldl_cons, ih (by omega), List.map_cons, drawColumns_cons, hPut]

def clearRow (page laddress haddress : Byte) : List Call :=
  (drawColumns page (List.replicate (haddress.toNat - laddress.toNat) 0) (startPen laddress page [])).calls

theorem columnOf_controllerOf (x : Byte) : columnOf x (controllerOf x) = x % 64 := by
  apply BitVec.eq_of_toNat_eq
  rw [controllerOf_eq, columnOf_toNat, BitVec.toNat_umod]
  rfl

theorem ks0108ClearRange_eq (lpage hpage : Byte) {laddress haddress : Byte} (h : haddress.toNat ≤ 128)
    (hAddress : laddress.toNat ≤ haddress.toNat) :
    ks0108ClearRange lpage hpage laddress haddress =
      (List.range' lpage.toNat (hpage.toNat + 1 - lpage.toNat)).flatMap fun page =>
        clearRow (BitVec.ofNat 8 page) laddress haddress := by
  rw [ks0108ClearRange]
  congr 1
  funext page
  have hSteps : List.replicate (haddress.toNat - laddress.toNat) (0 : Byte) =
      (List.range (haddress.toNat - laddress.toNat)).map fun _ => 0 := by
    rw [List.map_const', List.length_range]
  rw [clearRow, hSteps, ← clear_foldl]
  · rw [startPen, columnOf_controllerOf]
    rfl
  · rw [List.length_range]
    change laddress.toNat + _ ≤ 128
    omega

theorem clearRow_paints (panel : Panel) {page : Byte} (hPage : page < 8) (laddress haddress : Byte) (q : BitVec 3)
    {j : Nat} (hj : j < 128) :
    (panel.run (clearRow page laddress haddress)).screen q j =
      paintPage panel.screen (page.setWidth 3) laddress.toNat
        (List.replicate (haddress.toNat - laddress.toNat) (some 0)) q j := by
  have hBefore : ∀ q, ∀ j < 128, (panel.run []).screen q j = panel.screen q j := fun _ _ _ => rfl
  have hShows := (glyph_stands laddress hPage
    (List.replicate (haddress.toNat - laddress.toNat) 0) hBefore).shows q j hj
  rw [List.map_replicate] at hShows
  exact hShows

section Range

variable (panel : Panel) {page laddress haddress : Byte} (hEdge : haddress.toNat ≤ 128)
  (hAddress : laddress.toNat ≤ haddress.toNat) (q : BitVec 3) {j : Nat} (hj : j < 128)

include hEdge hAddress hj

theorem clearRange_page (hPage : page < 8) :
    (panel.run (ks0108ClearRange page page laddress haddress)).screen q j =
      paintPage panel.screen (page.setWidth 3) laddress.toNat
        (List.replicate (haddress.toNat - laddress.toNat) (some 0)) q j := by
  have hSame : BitVec.ofNat 8 page.toNat = page := BitVec.ofNat_toNat .. |>.trans (BitVec.setWidth_eq _)
  rw [ks0108ClearRange_eq _ _ hEdge hAddress, Nat.add_sub_cancel_left, List.range'_one, List.flatMap_singleton, hSame,
    clearRow_paints _ hPage _ _ _ hj]

theorem clearRange_pages (hPage : page < 7) :
    (panel.run (ks0108ClearRange page (page + 1) laddress haddress)).screen q j =
      paintLarge panel.screen page laddress.toNat (List.replicate (haddress.toNat - laddress.toNat) (some 0))
        (List.replicate (haddress.toNat - laddress.toNat) (some 0)) q j := by
  have hSame : BitVec.ofNat 8 page.toNat = page := BitVec.ofNat_toNat .. |>.trans (BitVec.setWidth_eq _)
  have hNext : (page + 1).toNat + 1 - page.toNat = 2 := by bv_omega
  have hSecond : BitVec.ofNat 8 (page.toNat + 1) = page + 1 := by bv_omega
  have hUpper : page < 8 := by bv_omega
  have hLower : page + 1 < 8 := by bv_omega
  have hRange : List.range' page.toNat 2 = [page.toNat, page.toNat + 1] := rfl
  rw [ks0108ClearRange_eq _ _ hEdge hAddress, hNext, hRange, List.flatMap_cons, List.flatMap_singleton, hSame, hSecond,
    Panel.run_append, clearRow_paints _ hLower _ _ _ hj, paintLarge]
  exact paintPage_congr (clearRow_paints panel hUpper laddress haddress q hj) ..

end Range

theorem cleanUp_paints {half : Nat} {t : LCDtext} (hFont : t.font = fontSmall ∨ t.font = fontLarge) {x : Byte}
    (h : Holds half t.font t.x t.y t.width.toNat) (panel : Panel) (q : BitVec 3) {j : Nat} (hj : j < 128) :
    (panel.run (cleanUp t x)).screen q j =
      paintLabel t.font panel.screen t.y x.toNat
        (fun _ => List.replicate (t.x.toNat + t.width.toNat - x.toNat) (some 0)) q j := by
  obtain ⟨hHalf, hLeft, hRight, hPages⟩ := h
  rw [cleanUp]
  split
  next hShort =>
    have hEnd : (t.x + t.width).toNat = t.x.toNat + t.width.toNat := by bv_omega
    have hEdge : (t.x + t.width).toNat ≤ 128 := by omega
    have hAddress : x.toNat ≤ (t.x + t.width).toNat := by omega
    rw [← hEnd, paintLabel]
    obtain hSmall | hLarge := hFont
    · have hNotLarge : ¬ t.font = fontLarge := by
        rw [hSmall]
        decide
      rw [rows, if_neg hNotLarge] at hPages
      rw [if_pos hSmall, if_neg hNotLarge, clearRange_page panel hEdge hAddress q hj (by bv_omega)]
    · have hNotSmall : ¬ t.font = fontSmall := by
        rw [hLarge]
        decide
      rw [rows, if_pos hLarge] at hPages
      rw [if_neg hNotSmall, if_pos hLarge, if_pos hLarge, clearRange_pages panel hEdge hAddress q hj (by bv_omega)]
  next hLong =>
    have hNone : t.x.toNat + t.width.toNat - x.toNat = 0 := Nat.sub_eq_zero_of_le (Nat.le_of_not_lt hLong)
    rw [paintLabel_unchanged _ _ _ fun _ _ => Or.inl (by rw [hNone, List.replicate_zero])]
    rfl

/-- What a redraw paints on a page of the label: the text, and zeros up to the end of the text before. -/
def redrawCells (t : LCDtext) (bytes : List Byte) (i : Nat) : List (Option Byte) :=
  textCells t.font bytes i ++ List.replicate (t.width.toNat - textWidth t.font bytes) (some 0)

theorem lcdWritestring_paints {half : Nat} {k : Nat} {l : Labels}
    (hFont : (l k).font = fontSmall ∨ (l k).font = fontLarge)
    (hOld : Holds half (l k).font (l k).x (l k).y (l k).width.toNat)
    (hNew : Holds half (l k).font (l k).x (l k).y (textWidth (l k).font (drawnBytes k l)))
    (panel : Panel) (q : BitVec 3) {j : Nat} (hj : j < 128) :
    (panel.run (lcdWritestring k l).1).screen q j =
      paintLabel (l k).font panel.screen (l k).y (l k).x.toNat (redrawCells (l k) (drawnBytes k l)) q j := by
  obtain ⟨hEnd, hDrawn⟩ := drawBytes_paints hFont (drawnBytes k l) hNew
  have hRest : (l k).x.toNat + (l k).width.toNat - ((l k).x.toNat + textWidth (l k).font (drawnBytes k l)) =
      (l k).width.toNat - textWidth (l k).font (drawnBytes k l) := Nat.add_sub_add_left ..
  have hCells : redrawCells (l k) (drawnBytes k l) = fun i => textCells (l k).font (drawnBytes k l) i ++
      List.replicate ((l k).width.toNat - textWidth (l k).font (drawnBytes k l)) (some 0) := rfl
  rw [lcdWritestring_calls, Panel.run_append, cleanUp_paints hFont hOld _ _ hj, hCells,
    paintLabel_append _ _ _ _ fun i _ => textCells_length (l k).font (drawnBytes k l) i, drawBytes, hEnd, hRest]
  exact paintLabel_congr (fun q => hDrawn panel q j hj) ..

/-- The cells of the text that the label showed before. -/
def Inside (t : LCDtext) (q : BitVec 3) (j : Nat) : Prop :=
  (∃ i < rows t.font, q = labelPage t.y i) ∧ t.x.toNat ≤ j ∧ j < t.x.toNat + t.width.toNat

theorem redrawCells_painted {t : LCDtext} {bytes : List Byte} {i j : Nat} (hLeft : t.x.toNat ≤ j)
    (hRight : j < t.x.toNat + t.width.toNat) :
    Painted t.x.toNat (redrawCells t bytes i) j ↔ ¬ Skipped t.x.toNat (textCells t.font bytes i) j := by
  rw [redrawCells, painted_append, textCells_length]
  constructor
  · rintro (hText | hRest) hSkipped
    · exact not_painted_of_skipped hSkipped hText
    · have hIndex := (List.getElem?_eq_some_iff.mp hSkipped.2).1
      rw [textCells_length] at hIndex
      have hBeyond := hRest.1
      omega
  · intro hNot
    by_cases hText : j < t.x.toNat + textWidth t.font bytes
    · rw [← textCells_length t.font bytes i] at hText
      exact Or.inl ((painted_or_skipped hLeft hText).resolve_right hNot)
    · exact Or.inr (painted_replicate (by omega) (by omega))

/-- Two displays that differ only inside the old text agree after a redraw exactly when they agreed in
every column of the old text that the new one passes over. -/
theorem redraw_identical_iff (k half : Nat) (l : Labels) (hFont : (l k).font = fontSmall ∨ (l k).font = fontLarge)
    (hOld : Holds half (l k).font (l k).x (l k).y (l k).width.toNat)
    (hNew : Holds half (l k).font (l k).x (l k).y (textWidth (l k).font (drawnBytes k l)))
    (p p' : Panel) (hOutside : ∀ q, ∀ j < 128, ¬ Inside (l k) q j → p.screen q j = p'.screen q j) :
    (∀ q, ∀ j < 128, (p.run (lcdWritestring k l).1).screen q j = (p'.run (lcdWritestring k l).1).screen q j) ↔
      ∀ i < rows (l k).font, ∀ j < (l k).x.toNat + (l k).width.toNat,
        Skipped (l k).x.toNat (textCells (l k).font (drawnBytes k l) i) j →
          p.screen (labelPage (l k).y i) j = p'.screen (labelPage (l k).y i) j := by
  generalize hText : drawnBytes k l = bytes at hNew
  have hScreen : ∀ (panel : Panel) (q : BitVec 3) (j : Nat), j < 128 →
      (panel.run (lcdWritestring k l).1).screen q j =
        paintLabel (l k).font panel.screen (l k).y (l k).x.toNat (redrawCells (l k) bytes) q j := by
    subst hText
    exact fun panel q j hj => lcdWritestring_paints hFont hOld hNew panel q hj
  have hEdge : (l k).x.toNat + (l k).width.toNat ≤ 128 := by
    have hSide := hOld.side
    have hRight := hOld.right
    omega
  constructor
  · intro h i hi j hj hSkipped
    have hj' : j < 128 := Nat.lt_of_lt_of_le hj hEdge
    have hAfter := h (labelPage (l k).y i) j hj'
    rw [hScreen p _ j hj', hScreen p' _ j hj', paintLabel_row _ _ _ _ _ hi, paintLabel_row _ _ _ _ _ hi,
      paint_eq_iff, redrawCells_painted hSkipped.1 hj] at hAfter
    exact hAfter.resolve_left (not_not_intro hSkipped)
  · intro h q j hj
    rw [hScreen p _ j hj, hScreen p' _ j hj]
    by_cases hRow : ∃ i < rows (l k).font, q = labelPage (l k).y i
    · obtain ⟨i, hi, rfl⟩ := hRow
      rw [paintLabel_row _ _ _ _ _ hi, paintLabel_row _ _ _ _ _ hi, paint_eq_iff]
      by_cases hInside : (l k).x.toNat ≤ j ∧ j < (l k).x.toNat + (l k).width.toNat
      · rw [redrawCells_painted hInside.1 hInside.2]
        exact (Classical.em _).symm.imp_right (h i hi j hInside.2)
      · exact Or.inr (hOutside _ j hj fun hIn => hInside hIn.2)
    · rw [paintLabel_off _ _ _ _ fun i hi hq => hRow ⟨i, hi, hq⟩,
        paintLabel_off _ _ _ _ fun i hi hq => hRow ⟨i, hi, hq⟩]
      exact hOutside q j hj fun hIn => hRow hIn.1

/-- Labels that showed `lap` and are to show `to go`. -/
def lapToGo : Labels :=
  ⟨fun _ => ⟨0, 0, 5, 17, fontSmall, 0, fun i => [0x74, 0x6F, 0x20, 0x67, 0x6F].getD i.val 0, 0⟩⟩

def darkPanel : Panel := ⟨fun _ => ⟨fun _ _ => 0, 0, 0, 0, true⟩⟩

/-- A display that is dark but for column 13 of page 0. -/
def spotPanel : Panel :=
  ⟨fun c => ⟨fun page column => if c = leftChip ∧ page = 0 ∧ column = 13 then 0xFF else 0, 0, 0, 0, true⟩⟩

theorem spot_outside (q : BitVec 3) {j : Nat} (hj : j < 128) (h : ¬ Inside (lapToGo 2) q j) :
    darkPanel.screen q j = spotPanel.screen q j := by
  have hDark : darkPanel.screen q j = 0 := rfl
  have hSpot : spotPanel.screen q j =
      if Panel.chipOf j = 0 ∧ q = 0 ∧ BitVec.ofNat 6 j = 13 then 0xFF else 0 := rfl
  rw [hDark, hSpot, if_neg]
  rintro ⟨hChip, rfl, hColumn⟩
  have hHalf : j < 64 := ((Panel.chipOf_eq_iff hj 0).mp hChip).2
  have hAt : j % 64 = 13 := congrArg BitVec.toNat hColumn
  obtain rfl : j = 13 := by omega
  exact h ⟨⟨0, by decide, rfl⟩, by decide, by decide⟩

theorem redraw_identical_iff_lap :
    (∀ q, ∀ j < 128, (darkPanel.run (lcdWritestring 2 lapToGo).1).screen q j =
        (spotPanel.run (lcdWritestring 2 lapToGo).1).screen q j) ↔
      ∀ i < rows (lapToGo 2).font, ∀ j < (lapToGo 2).x.toNat + (lapToGo 2).width.toNat,
        Skipped (lapToGo 2).x.toNat (textCells (lapToGo 2).font (drawnBytes 2 lapToGo) i) j →
          darkPanel.screen (labelPage (lapToGo 2).y i) j = spotPanel.screen (labelPage (lapToGo 2).y i) j :=
  redraw_identical_iff 2 0 lapToGo (Or.inl rfl) ⟨by decide, by decide, by decide, by decide⟩
    ⟨by decide, by decide, by decide +kernel, by decide⟩ darkPanel spotPanel fun q _ hj => spot_outside q hj

/-- The space of `to go` leaves a column of `lap` as it is. -/
theorem redraw_stale :
    ¬ ∀ (k half : Nat) (l : Labels), (l k).font = fontSmall ∨ (l k).font = fontLarge →
      Holds half (l k).font (l k).x (l k).y (l k).width.toNat →
      Holds half (l k).font (l k).x (l k).y (textWidth (l k).font (drawnBytes k l)) →
      ∀ p p' : Panel, (∀ q, ∀ j < 128, ¬ Inside (l k) q j → p.screen q j = p'.screen q j) →
        ∀ q, ∀ j < 128,
          (p.run (lcdWritestring k l).1).screen q j = (p'.run (lcdWritestring k l).1).screen q j := by
  intro h
  have hColumn := h 2 0 lapToGo (Or.inl rfl) ⟨by decide, by decide, by decide, by decide⟩
    ⟨by decide, by decide, by decide +kernel, by decide⟩ darkPanel spotPanel (fun q _ hj => spot_outside q hj)
    0 13 (by decide)
  revert hColumn
  decide +kernel

end WheelDisplay.Lcd

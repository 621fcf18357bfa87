import Mathlib.Logic.Function.Basic

/-! # Painting over a line of cells

A line is a function of the column. Painting writes a list of cells from a start
column on, and `none` advances over a cell without writing it.
-/

namespace Raster

universe u

variable {α : Type u}

def paint (line : Nat → α) (start : Nat) (cells : List (Option α)) : Nat → α := fun c =>
  if start ≤ c then (cells[c - start]?.join).getD (line c) else line c

/-- The columns that a painting writes. -/
def Painted (start : Nat) (cells : List (Option α)) (c : Nat) : Prop :=
  start ≤ c ∧ (cells[c - start]?.join).isSome

/-- The columns that a painting advances over without writing. -/
def Skipped (start : Nat) (cells : List (Option α)) (c : Nat) : Prop :=
  start ≤ c ∧ cells[c - start]? = some none

theorem not_painted_of_skipped {start : Nat} {cells : List (Option α)} {c : Nat} (h : Skipped start cells c) :
    ¬ Painted start cells c := by
  rintro ⟨_, hPainted⟩
  rw [h.2] at hPainted
  cases hPainted

theorem painted_replicate {start n : Nat} {a : α} {c : Nat} (hStart : start ≤ c) (hEnd : c < start + n) :
    Painted start (List.replicate n (some a)) c := by
  refine ⟨hStart, ?_⟩
  rw [List.getElem?_replicate, if_pos (by omega)]
  rfl

theorem painted_or_skipped {start : Nat} {cells : List (Option α)} {c : Nat} (hStart : start ≤ c)
    (hEnd : c < start + cells.length) : Painted start cells c ∨ Skipped start cells c := by
  have hIndex : c - start < cells.length := by omega
  rw [Painted, Skipped, List.getElem?_eq_getElem hIndex]
  cases cells[c - start] with
  | none => exact Or.inr ⟨hStart, rfl⟩
  | some a => exact Or.inl ⟨hStart, rfl⟩

theorem paint_outside (line : Nat → α) {start : Nat} {cells : List (Option α)} {c : Nat}
    (h : c < start ∨ start + cells.length ≤ c) : paint line start cells c = line c := by
  rw [paint]
  obtain hBefore | hAfter := h
  · exact if_neg (Nat.not_le.mpr hBefore)
  · rw [List.getElem?_eq_none (by omega)]
    exact ite_id ..

@[simp] theorem paint_nil (line : Nat → α) (start : Nat) : paint line start [] = line := by
  funext c
  exact paint_outside line (by rw [List.length_nil]; omega)

theorem paint_cons (line : Nat → α) (start : Nat) (cell : Option α) (rest : List (Option α)) :
    paint line start (cell :: rest) = paint (paint line start [cell]) (start + 1) rest := by
  funext c
  obtain hBefore | rfl | hAfter := Nat.lt_trichotomy c start
  · rw [paint_outside _ (Or.inl hBefore), paint_outside _ (Or.inl (by omega)),
      paint_outside _ (Or.inl hBefore)]
  · rw [paint_outside (paint _ _ _) (Or.inl (Nat.lt_succ_self c)), paint, paint, Nat.sub_self,
      List.getElem?_cons_zero, List.getElem?_cons_zero]
  · have hIndex : c - start = c - (start + 1) + 1 := by omega
    rw [paint, paint, if_pos (Nat.le_of_lt hAfter), if_pos (Nat.succ_le_of_lt hAfter), hIndex,
      List.getElem?_cons_succ, paint_outside line (Or.inr (by rw [List.length_singleton]; omega))]

theorem paint_append (line : Nat → α) (start : Nat) (first second : List (Option α)) :
    paint line start (first ++ second) = paint (paint line start first) (start + first.length) second := by
  induction first generalizing line start with
  | nil => simp
  | cons cell rest ih =>
    have hNext : start + (cell :: rest).length = start + 1 + rest.length := by
      rw [List.length_cons]
      omega
    rw [List.cons_append, paint_cons, ih, ← paint_cons, hNext]

theorem paint_write (line : Nat → α) (start : Nat) (a : α) :
    paint line start [some a] = Function.update line start a := by
  funext c
  by_cases h : c = start
  · rw [h, Function.update_self, paint, if_pos (Nat.le_refl start), Nat.sub_self]
    rfl
  · rw [Function.update_of_ne h, paint_outside line (by rw [List.length_singleton]; omega)]

theorem paint_skip (line : Nat → α) (start : Nat) : paint line start [none] = line := by
  funext c
  by_cases h : c = start
  · rw [h, paint, Nat.sub_self, List.getElem?_cons_zero]
    exact ite_id ..
  · exact paint_outside line (by rw [List.length_singleton]; omega)

/-- Two lines painted alike agree where the painting writes and where they agreed before. -/
theorem paint_eq_iff {line line' : Nat → α} {start : Nat} {cells : List (Option α)} {c : Nat} :
    paint line start cells c = paint line' start cells c ↔ Painted start cells c ∨ line c = line' c := by
  rw [paint, paint, Painted]
  by_cases hStart : start ≤ c
  · rw [if_pos hStart, if_pos hStart]
    cases cells[c - start]?.join with
    | none => simp
    | some a => simp [hStart]
  · simp [hStart]

theorem paint_congr {line line' : Nat → α} {start c : Nat} (cells : List (Option α)) (h : line c = line' c) :
    paint line start cells c = paint line' start cells c :=
  paint_eq_iff.mpr (Or.inr h)

theorem painted_append {start : Nat} {first second : List (Option α)} {c : Nat} :
    Painted start (first ++ second) c ↔ Painted start first c ∨ Painted (start + first.length) second c := by
  rw [Painted, Painted, Painted, List.getElem?_append]
  by_cases hFirst : c - start < first.length
  · have hBefore : start ≤ c → ¬ start + first.length ≤ c := by omega
    rw [if_pos hFirst]
    constructor
    · exact Or.inl
    · rintro (h | h)
      · exact h
      · omega
  · have hIndex : c - start - first.length = c - (start + first.length) := by omega
    rw [if_neg hFirst, hIndex, List.getElem?_eq_none (Nat.le_of_not_lt hFirst)]
    constructor
    · rintro ⟨hStart, hCell⟩
      exact Or.inr ⟨by omega, hCell⟩
    · rintro (⟨_, hCell⟩ | ⟨hStart, hCell⟩)
      · cases hCell
      · exact ⟨by omega, hCell⟩

theorem paint_replicate (line : Nat → α) (start n : Nat) (a : α) (c : Nat) :
    paint line start (List.replicate n (some a)) c = if start ≤ c ∧ c < start + n then a else line c := by
  split
  next hInside =>
    have hIndex : c - start < n := by omega
    rw [paint, if_pos hInside.1, List.getElem?_replicate, if_pos hIndex]
    rfl
  next hOutside => exact paint_outside line (by rw [List.length_replicate]; omega)

/-- Solid cells painted over a picture on an even ground, with the ground up to the end of the old ones, leave the
picture of the new cells. -/
theorem paint_replace {line : Nat → α} {ground : α} {start : Nat} {old new : List (Option α)} {c : Nat}
    (hOld : line c = paint (fun _ => ground) start old c) (hSolid : none ∉ new) :
    paint line start (new ++ List.replicate (old.length - new.length) (some ground)) c =
      paint (fun _ => ground) start new c := by
  rw [paint_append, paint_replicate]
  obtain hBefore | hFrom := Nat.lt_or_ge c start
  · rw [if_neg (by omega), paint_outside _ (Or.inl hBefore), paint_outside _ (Or.inl hBefore), hOld,
      paint_outside _ (Or.inl hBefore)]
  obtain hInside | hAfter := Nat.lt_or_ge c (start + new.length)
  · rw [if_neg (by omega), paint_eq_iff]
    refine Or.inl ((painted_or_skipped hFrom hInside).resolve_right ?_)
    rintro ⟨-, hSkipped⟩
    exact hSolid (List.mem_of_getElem? hSkipped)
  · rw [paint_outside line (Or.inr hAfter), paint_outside _ (Or.inr hAfter)]
    split
    next => rfl
    next hBeyond => rw [hOld, paint_outside _ (Or.inr (by omega))]

/-- What stands on an even ground after a painting from the first column on. -/
theorem paint_row {ground : α} {row : List α} {width : Nat} (hRow : row.length ≤ width) {c : Nat} (hc : c < width) :
    (row ++ List.replicate (width - row.length) ground)[c]? =
      some (paint (fun _ => ground) 0 (row.map some) c) := by
  rw [paint, if_pos (Nat.zero_le c), Nat.sub_zero, List.getElem?_map, List.getElem?_append]
  split
  next hInside =>
    rw [List.getElem?_eq_getElem hInside]
    rfl
  next hOutside =>
    rw [List.getElem?_eq_none (Nat.le_of_not_lt hOutside), List.getElem?_replicate, if_pos (by omega)]
    rfl

theorem paint_row_eq {ground : α} {first second : List α} {width : Nat} (hFirst : first.length ≤ width)
    (hSecond : second.length ≤ width)
    (h : ∀ c < width, paint (fun _ => ground) 0 (first.map some) c = paint (fun _ => ground) 0 (second.map some) c) :
    first ++ List.replicate (width - first.length) ground = second ++ List.replicate (width - second.length) ground := by
  apply List.ext_getElem?
  intro c
  obtain hInside | hOutside := Nat.lt_or_ge c width
  · rw [paint_row hFirst hInside, paint_row hSecond hInside, h c hInside]
  · rw [List.getElem?_eq_none, List.getElem?_eq_none]
    · rw [List.length_append, List.length_replicate]
      omega
    · rw [List.length_append, List.length_replicate]
      omega

end Raster

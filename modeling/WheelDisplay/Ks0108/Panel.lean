import Mathlib.Tactic.FinCases
import Mathlib.Tactic.SplitIfs
import WheelDisplay.Ks0108.Bus
import WheelDisplay.Lib.StepRun

/-! # The two KS0108 controllers behind the bus

Each controller keeps 8 pages of 64 bytes. A command sets one of its registers, and
a data write stores at the page and column registers and moves on to the next
column, from 63 back to 0. A command byte that the controller does not know,
such as 0x80, changes nothing.
-/

namespace WheelDisplay.Ks0108

structure Chip where
  ram : BitVec 3 → BitVec 6 → Byte
  page : BitVec 3
  column : BitVec 6
  startLine : BitVec 6
  on : Bool

namespace Chip

def command (k : Chip) (b : Byte) : Chip :=
  if b &&& 0xFE = 0x3E then { k with on := b[0] }
  else if b &&& 0xC0 = 0x40 then { k with column := b.setWidth 6 }
  else if b &&& 0xF8 = 0xB8 then { k with page := b.setWidth 3 }
  else if b &&& 0xC0 = 0xC0 then { k with startLine := b.setWidth 6 }
  else k

def store (ram : BitVec 3 → BitVec 6 → Byte) (page : BitVec 3) (column : BitVec 6) (b : Byte) :
    BitVec 3 → BitVec 6 → Byte := fun p c => if p = page ∧ c = column then b else ram p c

def write (k : Chip) (b : Byte) : Chip :=
  { k with ram := store k.ram k.page k.column b, column := k.column + 1 }

def take (k : Chip) (call : Call) : Chip :=
  if call.data ≠ 0 then k.write call.instruction else k.command call.instruction

end Chip

structure Panel where
  chip : Fin 2 → Chip

namespace Panel

def take (p : Panel) (call : Call) : Panel :=
  ⟨fun c => if call.controller = number c then (p.chip c).take call else p.chip c⟩

def run (p : Panel) (calls : List Call) : Panel := StepRun.run take p calls

def chipOf (c : Nat) : Fin 2 := if c < 64 then leftChip else rightChip

/-- The display as one line of 128 columns per page. -/
def screen (p : Panel) (page : BitVec 3) (c : Nat) : Byte :=
  (p.chip (chipOf c)).ram page (BitVec.ofNat 6 c)

end Panel

namespace Chip

@[simp] theorem take_command (k : Chip) (controller instruction : Byte) :
    k.take ⟨controller, instruction, 0⟩ = k.command instruction :=
  if_neg (not_not_intro rfl)

@[simp] theorem take_write (k : Chip) (controller instruction : Byte) :
    k.take ⟨controller, instruction, 1⟩ = k.write instruction :=
  if_pos (show (1 : Byte) ≠ 0 by decide)

theorem command_on (k : Chip) : k.command 0x3F = { k with on := true } := rfl

theorem command_startLine (k : Chip) : k.command 0xC0 = { k with startLine := 0 } := rfl

theorem command_column (k : Chip) {address : Byte} (h : address < 64) :
    k.command (0x40 + address) = { k with column := address.setWidth 6 } := by
  have hDecode : ∀ a : Byte, a < 64 → (0x40 + a) &&& 0xFE ≠ 0x3E ∧ (0x40 + a) &&& 0xC0 = 0x40 ∧
      (0x40 + a).setWidth 6 = a.setWidth 6 := by decide +kernel
  obtain ⟨hOn, hColumn, hValue⟩ := hDecode address h
  rw [command, if_neg hOn, if_pos hColumn, hValue]

theorem command_page (k : Chip) {page : Byte} (h : page < 8) :
    k.command (0xB8 + page) = { k with page := page.setWidth 3 } := by
  have hDecode : ∀ a : Byte, a < 8 → (0xB8 + a) &&& 0xFE ≠ 0x3E ∧ (0xB8 + a) &&& 0xC0 ≠ 0x40 ∧
      (0xB8 + a) &&& 0xF8 = 0xB8 ∧ (0xB8 + a).setWidth 3 = a.setWidth 3 := by decide +kernel
  obtain ⟨hOn, hColumn, hPage, hValue⟩ := hDecode page h
  rw [command, if_neg hOn, if_neg hColumn, if_pos hPage, hValue]

theorem command_ram (k : Chip) (b : Byte) : (k.command b).ram = k.ram := by
  rw [command]
  split_ifs <;> rfl

/-- The command of an address one past the last column is none of the controller's. -/
theorem command_none (k : Chip) : k.command 0x80 = k := rfl

end Chip

theorem number_inj {c c' : Fin 2} (h : number c = number c') : c = c' := by
  fin_cases c <;> fin_cases c' <;> first | rfl | cases h

namespace Panel

@[simp] theorem run_nil (p : Panel) : p.run [] = p := rfl

@[simp] theorem run_cons (p : Panel) (call : Call) (rest : List Call) :
    p.run (call :: rest) = (p.take call).run rest := rfl

theorem run_append (p : Panel) (first second : List Call) :
    p.run (first ++ second) = (p.run first).run second :=
  StepRun.run_append ..

theorem take_same (p : Panel) (c : Fin 2) (instruction data : Byte) :
    (p.take ⟨number c, instruction, data⟩).chip c = (p.chip c).take ⟨number c, instruction, data⟩ :=
  if_pos rfl

theorem take_other (p : Panel) {c c' : Fin 2} (h : c' ≠ c) (instruction data : Byte) :
    (p.take ⟨number c, instruction, data⟩).chip c' = p.chip c' :=
  if_neg fun hNumber => h (number_inj hNumber).symm

theorem run_same (p : Panel) {c : Fin 2} {calls : List Call} (h : ∀ call ∈ calls, call.controller = number c) :
    (p.run calls).chip c = calls.foldl Chip.take (p.chip c) := by
  induction calls generalizing p with
  | nil => rfl
  | cons call rest ih =>
    obtain ⟨hHead, hRest⟩ := List.forall_mem_cons.mp h
    rw [run_cons, ih _ hRest, List.foldl_cons]
    exact congrArg (rest.foldl Chip.take) (if_pos hHead)

theorem run_other (p : Panel) {c c' : Fin 2} (hOther : c' ≠ c) {calls : List Call}
    (h : ∀ call ∈ calls, call.controller = number c) : (p.run calls).chip c' = p.chip c' := by
  induction calls generalizing p with
  | nil => rfl
  | cons call rest ih =>
    obtain ⟨hHead, hRest⟩ := List.forall_mem_cons.mp h
    rw [run_cons, ih _ hRest]
    exact if_neg fun hNumber => hOther (number_inj (hNumber.symm.trans hHead))

theorem take_command_ram (p : Panel) (controller instruction : Byte) (c : Fin 2) :
    ((p.take ⟨controller, instruction, 0⟩).chip c).ram = (p.chip c).ram := by
  by_cases h : controller = number c
  · rw [h, take_same, Chip.take_command, Chip.command_ram]
  · exact congrArg Chip.ram (if_neg h)

theorem screen_command (p : Panel) (controller instruction : Byte) :
    (p.take ⟨controller, instruction, 0⟩).screen = p.screen := by
  funext page j
  rw [screen, screen, take_command_ram]

theorem chipOf_eq_iff {j : Nat} (hj : j < 128) (c : Fin 2) : chipOf j = c ↔ 64 * c.val ≤ j ∧ j < 64 * c.val + 64 := by
  rw [chipOf, Fin.ext_iff]
  split <;> simp only [Fin.val_zero, Fin.val_one] <;> omega

theorem screen_write (p : Panel) (c : Fin 2) (b : Byte) (page : BitVec 3) {j : Nat} (hj : j < 128) :
    (p.take ⟨number c, b, 1⟩).screen page j =
      if page = (p.chip c).page ∧ j = 64 * c.val + (p.chip c).column.toNat then b else p.screen page j := by
  have hColumn : (p.chip c).column.toNat < 64 := (p.chip c).column.isLt
  by_cases hChip : chipOf j = c
  · have hHalf := (chipOf_eq_iff hj c).mp hChip
    have hIndex : BitVec.ofNat 6 j = (p.chip c).column ↔ j = 64 * c.val + (p.chip c).column.toNat := by
      rw [← BitVec.toNat_inj, BitVec.toNat_ofNat]
      omega
    rw [screen, screen, hChip, take_same, Chip.take_write, Chip.write]
    exact if_congr (and_congr_right fun _ => hIndex) rfl rfl
  · have hElsewhere : j ≠ 64 * c.val + (p.chip c).column.toNat := by
      intro h
      exact hChip ((chipOf_eq_iff hj c).mpr (by omega))
    rw [screen, screen, take_other p hChip, if_neg fun h => hElsewhere h.2]

end Panel

end WheelDisplay.Ks0108

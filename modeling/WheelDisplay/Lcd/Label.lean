import Mathlib.Data.List.OfFn
import Mathlib.Logic.Function.Basic
import WheelDisplay.Lib.CString
import WheelDisplay.Target

/-! # The labels of the display and their memory

`-fpack-struct` puts the 17 bytes of a label next to those of the label after it.
`labels[14]` and beyond stand for whatever memory follows the array.
-/

namespace WheelDisplay.Lcd

open CString

def stringMaxLen : Nat := 9

structure LCDtext where
  x : Byte
  y : Byte
  len : Byte
  width : Byte
  font : Byte
  number : Word
  text : Fin 9 → Byte
  metaByte : Byte

structure Labels where
  label : Nat → LCDtext

instance : CoeFun Labels fun _ => Nat → LCDtext := ⟨Labels.label⟩

def sizeofLCDtext : Nat := 17

def textOffset : Nat := 7

namespace LCDtext

def getRedraw (t : LCDtext) : Bool := t.metaByte &&& 0x20 != 0

def setRedraw (t : LCDtext) : LCDtext := { t with metaByte := t.metaByte ||| 0x20 }

def resetRedraw (t : LCDtext) : LCDtext := { t with metaByte := t.metaByte &&& ~~~0x20 }

def getType (t : LCDtext) : Byte := t.metaByte &&& 0b11111

def setType (t : LCDtext) (type : Byte) : LCDtext :=
  { t with metaByte := t.metaByte ||| (type &&& 0b11111) }

def byte (t : LCDtext) : Nat → Byte
  | 0 => t.x
  | 1 => t.y
  | 2 => t.len
  | 3 => t.width
  | 4 => t.font
  | 5 => t.number.setWidth 8
  | 6 => (t.number >>> 8).setWidth 8
  | i + 7 => if h : i < 9 then t.text ⟨i, h⟩ else t.metaByte

def setByte (t : LCDtext) (offset : Nat) (b : Byte) : LCDtext :=
  match offset with
  | 0 => { t with x := b }
  | 1 => { t with y := b }
  | 2 => { t with len := b }
  | 3 => { t with width := b }
  | 4 => { t with font := b }
  | 5 => { t with number := t.number &&& 0xFF00 ||| b.setWidth 16 }
  | 6 => { t with number := t.number &&& 0x00FF ||| b.setWidth 16 <<< 8 }
  | i + 7 =>
    if i < 9 then { t with text := fun j => if j.val = i then b else t.text j }
    else { t with metaByte := b }

/-- The string that the label holds, if it is terminated inside `text`. -/
def string (t : LCDtext) : Option (List Byte) := content (List.ofFn t.text)

end LCDtext

namespace Labels

def set (l : Labels) (k : Nat) (t : LCDtext) : Labels := ⟨Function.update l.label k t⟩

def modify (l : Labels) (k : Nat) (f : LCDtext → LCDtext) : Labels := l.set k (f (l k))

def textAddress (k i : Nat) : Nat := sizeofLCDtext * k + textOffset + i

def byteAt (l : Labels) (address : Nat) : Byte :=
  (l (address / sizeofLCDtext)).byte (address % sizeofLCDtext)

def setByteAt (l : Labels) (address : Nat) (b : Byte) : Labels :=
  l.modify (address / sizeofLCDtext) fun t => t.setByte (address % sizeofLCDtext) b

def store (l : Labels) (address : Nat) : List Byte → Labels
  | [] => l
  | b :: rest => (l.setByteAt address b).store (address + 1) rest

/-- `strlen` in an address space of 64 KiB. -/
def strlen (l : Labels) (address : Nat) : Nat :=
  count l address 0x10000
where
  count (l : Labels) (address : Nat) : Nat → Nat
    | 0 => 0
    | fuel + 1 => if l.byteAt address = 0 then 0 else count l (address + 1) fuel + 1

end Labels

namespace LCDtext

theorem getType_setType (t : LCDtext) (type : Byte) :
    (t.setType type).getType = t.getType ||| (type &&& 0b11111) := by
  rw [getType, setType, getType, BitVec.and_or_distrib_right, BitVec.and_assoc, BitVec.and_self]

theorem getType_setRedraw (t : LCDtext) : t.setRedraw.getType = t.getType := by
  rw [getType, setRedraw, getType, BitVec.and_or_distrib_right]
  exact BitVec.or_zero

theorem getType_resetRedraw (t : LCDtext) : t.resetRedraw.getType = t.getType := by
  rw [getType, resetRedraw, getType, BitVec.and_assoc]
  rfl

theorem resetRedraw_resetRedraw (t : LCDtext) : t.resetRedraw.resetRedraw = t.resetRedraw := by
  rw [resetRedraw, resetRedraw, BitVec.and_assoc, BitVec.and_self]

theorem getRedraw_resetRedraw (t : LCDtext) : t.resetRedraw.getRedraw = false := by
  rw [getRedraw, resetRedraw, BitVec.and_assoc]
  exact bne_eq_false_iff_eq.mpr BitVec.and_zero

theorem getRedraw_setRedraw (t : LCDtext) : t.setRedraw.getRedraw = true := by
  rw [getRedraw, setRedraw, bne_iff_ne]
  intro hZero
  have hBit := congrArg (·.getLsbD 5) hZero
  simp at hBit

theorem getRedraw_setType (t : LCDtext) (type : Byte) : (t.setType type).getRedraw = t.getRedraw := by
  rw [getRedraw, setType, getRedraw, BitVec.and_or_distrib_right, BitVec.and_assoc]
  change (t.metaByte &&& 0x20 ||| (type &&& 0#8) != 0) = _
  rw [BitVec.and_zero, BitVec.or_zero]

theorem string_of_text {t t' : LCDtext} (h : t.text = t'.text) : t.string = t'.string := by
  rw [string, string, h]

end LCDtext

namespace Labels

theorem set_self (l : Labels) (k : Nat) : l.set k (l k) = l := by
  rw [set, Function.update_eq_self]

@[simp] theorem set_same (l : Labels) (k : Nat) (t : LCDtext) : l.set k t k = t :=
  Function.update_self ..

theorem set_other (l : Labels) {k j : Nat} (t : LCDtext) (h : j ≠ k) : l.set k t j = l j :=
  Function.update_of_ne h ..

theorem set_set (l : Labels) (k : Nat) (t t' : LCDtext) : (l.set k t).set k t' = l.set k t' := by
  rw [set, set, Function.update_idem, set]

theorem modify_eq (l : Labels) (k : Nat) (f : LCDtext → LCDtext) : l.modify k f = l.set k (f (l k)) := rfl

theorem modify_set (l : Labels) (k : Nat) (t : LCDtext) (f : LCDtext → LCDtext) :
    (l.set k t).modify k f = l.set k (f t) := by
  rw [modify_eq, set_same, set_set]

theorem set_comm (l : Labels) {k j : Nat} (t t' : LCDtext) (h : j ≠ k) :
    (l.set k t).set j t' = (l.set j t').set k t := by
  rw [set, set, set, set, Function.update_comm h.symm]

theorem setByteAt_offset (l : Labels) (k : Nat) {offset : Nat} (h : offset < sizeofLCDtext) (b : Byte) :
    l.setByteAt (sizeofLCDtext * k + offset) b = l.set k ((l k).setByte offset b) := by
  have hPos : 0 < sizeofLCDtext := by decide
  rw [setByteAt, Nat.mul_add_div hPos, Nat.div_eq_of_lt h, Nat.add_zero, Nat.mul_add_mod, Nat.mod_eq_of_lt h,
    modify]

/-- `bytes` written over the text from position `start` on. -/
def overlay (text : Fin 9 → Byte) (start : Nat) (bytes : List Byte) : Fin 9 → Byte := fun j =>
  if start ≤ j.val then bytes[j.val - start]?.getD (text j) else text j

theorem overlay_cons (text : Fin 9 → Byte) (start : Nat) (b : Byte) (rest : List Byte) :
    overlay (fun j => if j.val = start then b else text j) (start + 1) rest = overlay text start (b :: rest) := by
  funext j
  rw [overlay, overlay]
  obtain hBefore | hAt | hAfter := Nat.lt_trichotomy j.val start
  · rw [if_neg (by omega), if_neg (by omega), if_neg (by omega)]
  · rw [if_neg (by omega), if_pos hAt, if_pos (by omega), hAt, Nat.sub_self]
    rfl
  · have hIndex : j.val - start = j.val - (start + 1) + 1 := by omega
    rw [if_pos (by omega), if_neg (by omega), if_pos (by omega), hIndex]
    rfl

def overwrite (t : LCDtext) (start : Nat) (bytes : List Byte) : LCDtext :=
  { t with text := overlay t.text start bytes }

theorem setByteAt_text (l : Labels) (k : Nat) {i : Nat} (h : i < 9) (b : Byte) :
    l.setByteAt (textAddress k i) b =
      l.set k { l k with text := fun j => if j.val = i then b else (l k).text j } := by
  have hInside : i + 7 < sizeofLCDtext := by
    simp only [sizeofLCDtext]
    omega
  have hAddress : textAddress k i = sizeofLCDtext * k + (i + 7) := by
    simp only [textAddress, textOffset]
    omega
  rw [hAddress, setByteAt_offset l k hInside, LCDtext.setByte, if_pos h]

theorem store_text (l : Labels) (k : Nat) {i : Nat} {bytes : List Byte} (h : i + bytes.length ≤ 9) :
    l.store (textAddress k i) bytes = l.set k (overwrite (l k) i bytes) := by
  induction bytes generalizing l i with
  | nil =>
    have hSame : overwrite (l k) i [] = l k := by
      have hText : overlay (l k).text i [] = (l k).text := by
        funext j
        simp [overlay]
      rw [overwrite, hText]
    rw [store, hSame, set_self]
  | cons b rest ih =>
    rw [List.length_cons] at h
    have hNext : textAddress k i + 1 = textAddress k (i + 1) := rfl
    rw [store, hNext, ih _ (by omega), setByteAt_text l k (by omega), set_same, set_set, overwrite, overwrite,
      overlay_cons]

theorem store_append (l : Labels) (address : Nat) (first second : List Byte) :
    l.store address (first ++ second) = (l.store address first).store (address + first.length) second := by
  induction first generalizing l address with
  | nil => rfl
  | cons b rest ih =>
    have hNext : address + (b :: rest).length = address + 1 + rest.length := by
      rw [List.length_cons]
      omega
    rw [List.cons_append, store, ih, store, hNext]

theorem byteAt_text (l : Labels) (k : Nat) {i : Nat} (h : i < 9) :
    l.byteAt (textAddress k i) = (l k).text ⟨i, h⟩ := by
  have hAddress : textAddress k i = sizeofLCDtext * k + (i + 7) := by
    simp only [textAddress, textOffset]
    omega
  have hInside : i + 7 < sizeofLCDtext := by
    simp only [sizeofLCDtext]
    omega
  have hPos : 0 < sizeofLCDtext := by decide
  rw [byteAt, hAddress, Nat.mul_add_div hPos, Nat.div_eq_of_lt hInside, Nat.add_zero, Nat.mul_add_mod,
    Nat.mod_eq_of_lt hInside, LCDtext.byte, dif_pos h]

theorem strlen_count (l : Labels) {n : Nat} {address fuel : Nat}
    (hBefore : ∀ i < n, l.byteAt (address + i) ≠ 0) (hNul : l.byteAt (address + n) = 0) (hFuel : n < fuel) :
    strlen.count l address fuel = n := by
  induction n generalizing address fuel with
  | zero =>
    obtain ⟨fuel, rfl⟩ := Nat.exists_eq_succ_of_ne_zero hFuel.ne'
    rw [strlen.count]
    exact if_pos hNul
  | succ n ih =>
    obtain ⟨fuel, rfl⟩ := Nat.exists_eq_succ_of_ne_zero (Nat.ne_zero_of_lt hFuel)
    have hHead : l.byteAt address ≠ 0 := hBefore 0 n.succ_pos
    rw [strlen.count, if_neg hHead, ih ?_ ?_ (Nat.lt_of_succ_lt_succ hFuel)]
    · intro i hi
      have hShift : address + 1 + i = address + (i + 1) := by omega
      rw [hShift]
      exact hBefore (i + 1) (Nat.succ_lt_succ hi)
    · have hShift : address + 1 + n = address + (n + 1) := by omega
      rw [hShift]
      exact hNul

theorem ofFn_overlay (text : Fin 9 → Byte) {bytes : List Byte} (h : bytes.length ≤ 9) :
    List.ofFn (overlay text 0 bytes) = bytes ++ (List.ofFn text).drop bytes.length := by
  apply List.ext_getElem
  · rw [List.length_ofFn, List.length_append, List.length_drop, List.length_ofFn]
    omega
  · intro j hj hj'
    rw [List.getElem_ofFn, overlay, if_pos (Nat.zero_le _), Nat.sub_zero, List.getElem_append]
    split
    next hInside => rw [List.getElem?_eq_getElem hInside, Option.getD_some]
    next hOutside =>
      rw [List.getElem?_eq_none (Nat.le_of_not_lt hOutside), Option.getD_none, List.getElem_drop,
        List.getElem_ofFn]
      congr 2
      omega

theorem strlen_of_string {l : Labels} {k : Nat} {s : List Byte} (h : (l k).string = some s) :
    l.strlen (textAddress k 0) = s.length := by
  obtain ⟨hFree, rest, hBuffer⟩ := content_eq_some h
  have hLength := congrArg List.length hBuffer
  rw [List.length_ofFn, List.length_append, List.length_cons] at hLength
  have hByte : ∀ i (hi : i < 9), (s ++ 0 :: rest)[i]? = some (l.byteAt (textAddress k 0 + i)) := by
    intro i hi
    have hAddress : textAddress k 0 + i = textAddress k i := Nat.add_assoc _ 0 i ▸ by rw [Nat.zero_add]; rfl
    rw [← hBuffer, hAddress, byteAt_text l k hi, List.getElem?_ofFn, dif_pos hi]
  apply strlen_count
  · intro i hi hZero
    have hText := hByte i (by omega)
    rw [hZero, List.getElem?_append_left hi] at hText
    exact hFree (List.mem_of_getElem? hText)
  · have hText := hByte s.length (by omega)
    rw [List.getElem?_append_right le_rfl, Nat.sub_self, List.getElem?_cons_zero] at hText
    exact (Option.some.inj hText).symm
  · omega

theorem string_store (t : LCDtext) {s : List Byte} (h : 0 ∉ s) (hLength : s.length < 9) :
    (overwrite t 0 (s ++ [0])).string = some s := by
  have hFits : (s ++ [0]).length ≤ 9 := by
    rw [List.length_append, List.length_singleton]
    exact hLength
  rw [LCDtext.string, overwrite, ofFn_overlay t.text hFits, List.append_assoc]
  exact content_append h _

theorem string_strncpy (t : LCDtext) {s : List Byte} (h : 0 ∉ s) :
    (overwrite t 0 (strncpy 9 s)).string = if s.length < 9 then some s else none := by
  rw [LCDtext.string, overwrite, ofFn_overlay t.text (strncpy_length 9 s).le, strncpy_length,
    List.drop_eq_nil_of_le (List.length_ofFn).le, List.append_nil, content_strncpy h]

end Labels

end WheelDisplay.Lcd

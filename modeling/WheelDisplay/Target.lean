import Mathlib.Logic.Function.Basic

/-! # The integer types of the target

`int` has 16 bits on the AVR, so `Word` is both `uint16_t` and `unsigned int`.
Memory behind a pointer is a function of the byte offset.
-/

namespace WheelDisplay

/-- `uint8_t`, and `char` under `-funsigned-char`. -/
abbrev Byte := BitVec 8

/-- `uint16_t`. -/
abbrev Word := BitVec 16

/-- `uint32_t`. -/
abbrev Long := BitVec 32

/-- `F_CPU`, in Hz. -/
def fCpu : Long := 16000000

end WheelDisplay

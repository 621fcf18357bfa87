import Mathlib.Data.List.Basic

/-! # Transfers cut into packets

A transfer is sent in packets of a fixed size, and a shorter one, which may be empty, ends
it. So the receiver finds the end of each transfer in a stream of packets by itself.
-/

namespace Packets

universe u

variable {α : Type u} {size : Nat}

/-- The packets of `data`, the first of which holds `packet` already. -/
def fill (size : Nat) : List α → List α → List (List α)
  | packet, [] => [packet]
  | packet, a :: rest =>
    if packet.length + 1 = size then (packet ++ [a]) :: fill size [] rest else fill size (packet ++ [a]) rest

def split (size : Nat) (data : List α) : List (List α) := fill size [] data

/-- What a receiver takes for one transfer, and the packets after it. -/
def collect (size : Nat) : List (List α) → Option (List α × List (List α))
  | [] => none
  | packet :: rest =>
    if packet.length < size then some (packet, rest)
    else (collect size rest).map fun taken => (packet ++ taken.1, taken.2)

theorem collect_fill {packet : List α} (h : packet.length < size) (data : List α) (rest : List (List α)) :
    collect size (fill size packet data ++ rest) = some (packet ++ data, rest) := by
  induction data generalizing packet with
  | nil =>
    rw [fill, List.singleton_append, collect, if_pos h, List.append_nil]
  | cons a data ih =>
    rw [fill]
    split
    next hFull =>
      have hLength : ¬ (packet ++ [a]).length < size := by
        rw [List.length_append, List.length_singleton, hFull]
        exact Nat.lt_irrefl size
      have hEmpty : ([] : List α).length < size := Nat.zero_lt_of_lt h
      rw [List.cons_append, collect, if_neg hLength, ih hEmpty, Option.map_some, List.nil_append,
        List.append_assoc, List.singleton_append]
    next hRoom =>
      have hLength : (packet ++ [a]).length < size := by
        rw [List.length_append, List.length_singleton]
        omega
      rw [ih hLength, List.append_assoc, List.singleton_append]

/-- A transfer is read back whole, whatever follows it. -/
theorem collect_split (hSize : 0 < size) (data : List α) (rest : List (List α)) :
    collect size (split size data ++ rest) = some (data, rest) := collect_fill hSize data rest

/-- A bank takes what fits. -/
theorem fill_eq {packet : List α} (h : packet.length < size) (data : List α) :
    fill size packet data =
      (packet ++ data.take (size - packet.length)) ::
        if packet.length + data.length < size then [] else split size (data.drop (size - packet.length)) := by
  induction data generalizing packet with
  | nil => rw [fill, List.take_nil, List.append_nil, List.length_nil, Nat.add_zero, if_pos h]
  | cons a data ih =>
    obtain ⟨room, hRoom⟩ : ∃ room, size - packet.length = room + 1 := ⟨size - packet.length - 1, by omega⟩
    rw [fill, hRoom, List.take_succ_cons, List.drop_succ_cons, List.length_cons]
    split
    next hFull =>
      have hNone : room = 0 := by omega
      rw [hNone, List.take_zero, List.drop_zero, if_neg (by omega), split]
    next hMore =>
      have hLength : (packet ++ [a]).length = packet.length + 1 := by rw [List.length_append, List.length_singleton]
      have hLeft : size - (packet ++ [a]).length = room := by omega
      rw [ih (by omega), hLeft, hLength, List.append_assoc, List.singleton_append]
      exact congrArg _ (if_congr (by omega) rfl rfl)

theorem split_eq (hSize : 0 < size) (data : List α) :
    split size data = data.take size :: if data.length < size then [] else split size (data.drop size) := by
  have hEmpty : ([] : List α).length < size := hSize
  have hFill := fill_eq hEmpty data
  rw [List.length_nil, Nat.sub_zero, Nat.zero_add, List.nil_append] at hFill
  exact hFill

theorem fill_flatten (packet data : List α) : (fill size packet data).flatten = packet ++ data := by
  induction data generalizing packet with
  | nil => rw [fill, List.flatten_singleton, List.append_nil]
  | cons a data ih =>
    rw [fill]
    split
    · rw [List.flatten_cons, ih, List.nil_append, List.append_assoc, List.singleton_append]
    · rw [ih, List.append_assoc, List.singleton_append]

theorem split_flatten (size : Nat) (data : List α) : (split size data).flatten = data := fill_flatten [] data

end Packets

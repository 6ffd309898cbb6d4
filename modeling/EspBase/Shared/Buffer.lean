import Mathlib.Data.List.Basic

set_option autoImplicit false

structure Buffer (capacity : Nat) where
  bytes : List UInt8
  full : bytes.length = capacity
deriving DecidableEq

namespace Buffer

variable {capacity : Nat} {buffer : Buffer capacity} {data : List UInt8}

def wiped : Buffer capacity := { bytes := List.replicate capacity 0, full := List.length_replicate }

-- What would lie past the end is not written.
def write (buffer : Buffer capacity) (offset : Nat) (data : List UInt8) : Buffer capacity :=
  { bytes := (buffer.bytes.take offset ++ data ++ buffer.bytes.drop (offset + data.length)).take capacity
    full := by
      have full := buffer.full
      simp
      omega }

theorem write_bytes (offset : Nat) :
    (buffer.write offset data).bytes =
      (buffer.bytes.take offset ++ data ++ buffer.bytes.drop (offset + data.length)).take capacity :=
  rfl

/-- The buffer starts with the data and is zero after it. -/
def Holds (buffer : Buffer capacity) (data : List UInt8) : Prop :=
  buffer.bytes = data ++ List.replicate (capacity - data.length) 0

theorem holds_wiped : (wiped : Buffer capacity).Holds [] := by
  simp [Holds, wiped]

theorem Holds.length_le (holds : buffer.Holds data) : data.length ≤ capacity := by
  have lengths := congrArg List.length holds
  rw [buffer.full] at lengths
  simp at lengths
  omega

theorem Holds.take (holds : buffer.Holds data) : buffer.bytes.take data.length = data := by
  rw [holds]
  exact List.take_left

theorem Holds.write (holds : buffer.Holds data) (more : List UInt8)
    (room : data.length + more.length ≤ capacity) :
    (buffer.write data.length more).Holds (data ++ more) := by
  have left : capacity - (data.length + more.length) = capacity - data.length - more.length := by omega
  have past : (data ++ List.replicate (capacity - data.length) 0).drop (data.length + more.length) =
      List.replicate (capacity - data.length - more.length) 0 := by
    simp
  rw [Holds, write_bytes, holds, List.take_left, past, List.length_append, left]
  exact List.take_of_length_le (by simp; omega)

theorem write_take (offset : Nat) (room : offset + data.length ≤ capacity) :
    (buffer.write offset data).bytes.take (offset + data.length) = buffer.bytes.take offset ++ data := by
  have full := buffer.full
  rw [write_bytes, List.take_take, Nat.min_eq_left room, List.take_append_of_le_length]
  · apply List.take_of_length_le
    simp only [List.length_append, List.length_take]
    omega
  · simp only [List.length_append, List.length_take]
    omega

theorem write_front (length : Nat) (room : data.length ≤ capacity) (inside : length ≤ data.length) :
    (buffer.write 0 data).bytes.take length = data.take length := by
  have written := @write_take _ buffer data 0 (by omega)
  rw [Nat.zero_add, List.take_zero, List.nil_append] at written
  calc (buffer.write 0 data).bytes.take length
      = ((buffer.write 0 data).bytes.take data.length).take length := by
        rw [List.take_take, Nat.min_eq_left inside]
    _ = data.take length := by rw [written]

theorem write_before (offset length : Nat) (before : length ≤ offset) (inside : offset ≤ capacity) :
    (buffer.write offset data).bytes.take length = buffer.bytes.take length := by
  have full := buffer.full
  rw [write_bytes, List.take_take, Nat.min_eq_left (by omega), List.append_assoc,
    List.take_append_of_le_length (by simp; omega), List.take_take, Nat.min_eq_left before]

end Buffer

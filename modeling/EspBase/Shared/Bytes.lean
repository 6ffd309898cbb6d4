import Mathlib.Data.Nat.Bitwise
import Mathlib.Data.List.Basic

set_option autoImplicit false

namespace Bytes

def byteAt (bytes : List UInt8) (index : Nat) : UInt8 := bytes.getD index 0

def slice (bytes : List UInt8) (offset length : Nat) : List UInt8 :=
  (bytes.drop offset).take length

theorem slice_here (taken rest : List UInt8) (length : Nat) (exact : taken.length = length) :
    slice (taken ++ rest) 0 length = taken := by
  subst exact
  simp [slice]

theorem slice_past (skipped rest : List UInt8) (offset length : Nat)
    (past : skipped.length ≤ offset) :
    slice (skipped ++ rest) offset length = slice rest (offset - skipped.length) length := by
  simp [slice, List.drop_append, List.drop_eq_nil_of_le past]

theorem byteAt_append_left (front rest : List UInt8) (index : Nat) (inside : index < front.length) :
    byteAt (front ++ rest) index = byteAt front index := by
  simp [byteAt, List.getElem?_append_left inside]

theorem slice_append_left (front rest : List UInt8) (offset length : Nat)
    (inside : offset + length ≤ front.length) :
    slice (front ++ rest) offset length = slice front offset length := by
  have dropped : (front ++ rest).drop offset = front.drop offset ++ rest :=
    List.drop_append_of_le_length (by omega)
  rw [slice, slice, dropped, List.take_append_of_le_length (by simp; omega)]

theorem slice_append (bytes : List UInt8) (offset first second : Nat) :
    slice bytes offset first ++ slice bytes (offset + first) second =
      slice bytes offset (first + second) := by
  rw [slice, slice, slice, List.take_add, List.drop_drop]

theorem slice_eq_map (bytes : List UInt8) (offset length : Nat)
    (inside : offset + length ≤ bytes.length) :
    slice bytes offset length = (List.range length).map (fun i => byteAt bytes (offset + i)) := by
  apply List.ext_getElem
  · simp [slice]
    omega
  · intro i early _
    have reached : offset + i < bytes.length := by
      simp [slice] at early
      omega
    simp [slice, byteAt, reached]

theorem slice_flatten (fields : List (List UInt8)) (index : Nat) :
    slice fields.flatten ((fields.map List.length).take index).sum
      ((fields.map List.length).getD index 0) = fields.getD index [] := by
  induction fields generalizing index with
  | nil => simp [slice]
  | cons field rest ih =>
    cases index with
    | zero => simp [slice]
    | succ index =>
      have later := ih index
      simp only [List.map_cons, List.take_succ_cons, List.sum_cons, List.flatten_cons,
        List.getD_cons_succ] at later ⊢
      rw [slice_past _ _ _ _ (by omega), Nat.add_sub_cancel_left, later]

theorem slices_flatten (bytes : List UInt8) (offset : Nat) (lengths : List Nat) :
    ((List.range lengths.length).map
      (fun i => slice bytes (offset + (lengths.take i).sum) (lengths.getD i 0))).flatten =
      slice bytes offset lengths.sum := by
  induction lengths generalizing offset with
  | nil => simp [slice]
  | cons length rest ih =>
    have later := ih (offset + length)
    simp only [Nat.add_assoc] at later
    simp only [List.length_cons, List.range_succ_eq_map, List.map_cons, List.map_map,
      Function.comp_def, List.take_zero, List.take_succ_cons, List.sum_nil, List.sum_cons,
      List.getD_cons_zero, List.getD_cons_succ, List.flatten_cons, Nat.add_zero, later]
    exact slice_append bytes offset length rest.sum

def padded (capacity : Nat) (bytes : List UInt8) : Vector UInt8 capacity :=
  Vector.ofFn (fun i => byteAt bytes i)

theorem padded_toList (capacity : Nat) (bytes : List UInt8) (fits : bytes.length ≤ capacity) :
    (padded capacity bytes).toList = bytes ++ List.replicate (capacity - bytes.length) 0 := by
  apply List.ext_getElem
  · simp; omega
  · intro i inside _
    by_cases early : i < bytes.length
    · simp [padded, byteAt, early]
    · have late : bytes.length ≤ i := by omega
      simp [padded, byteAt, late]

def copied {capacity : Nat} (array : Vector UInt8 capacity) (source : List UInt8) :
    Vector UInt8 capacity :=
  Vector.ofFn (fun i => if i < source.length then byteAt source i else array[i])

theorem copied_cleared (capacity : Nat) (source : List UInt8) :
    copied (Vector.replicate capacity 0) source = padded capacity source := by
  apply Vector.ext
  intro i inside
  by_cases early : i < source.length
  · simp [copied, padded, early]
  · simp [copied, padded, byteAt, early]

def put16 (value : UInt16) : List UInt8 := [value.toUInt8, (value >>> 8).toUInt8]

def get16 (bytes : List UInt8) (offset : Nat) : UInt16 :=
  (byteAt bytes offset).toUInt16 ||| ((byteAt bytes (offset + 1)).toUInt16 <<< 8)

def put32 (value : UInt32) : List UInt8 :=
  [value.toUInt8, (value >>> 8).toUInt8, (value >>> 16).toUInt8, (value >>> 24).toUInt8]

def get32 (bytes : List UInt8) (offset : Nat) : UInt32 :=
  (byteAt bytes offset).toUInt32 ||| ((byteAt bytes (offset + 1)).toUInt32 <<< 8) |||
    ((byteAt bytes (offset + 2)).toUInt32 <<< 16) ||| ((byteAt bytes (offset + 3)).toUInt32 <<< 24)

theorem or_shift (low high bits : Nat) (small : low < 2 ^ bits) :
    low ||| high <<< bits = low + high * 2 ^ bits := by
  rw [Nat.or_comm, ← Nat.shiftLeft_add_eq_or_of_lt small, Nat.shiftLeft_eq, Nat.add_comm]

theorem assemble16 (value : UInt16) :
    value.toUInt8.toUInt16 ||| ((value >>> 8).toUInt8.toUInt16 <<< 8) = value := by
  apply UInt16.toNat.inj
  have bound := value.toNat_lt
  simp [Nat.shiftRight_eq_div_pow]
  have unwrapped : (value.toNat / 256 % 256) <<< 8 % 65536 = (value.toNat / 256 % 256) <<< 8 := by
    rw [Nat.shiftLeft_eq]
    exact Nat.mod_eq_of_lt (by omega)
  rw [unwrapped, or_shift _ _ 8 (by omega)]
  omega

theorem shifted_byte (byte bits : Nat) (small : byte < 256) (few : bits ≤ 24) :
    byte <<< bits % 4294967296 = byte <<< bits := by
  rw [Nat.shiftLeft_eq]
  refine Nat.mod_eq_of_lt ?_
  calc byte * 2 ^ bits ≤ 255 * 2 ^ 24 :=
        Nat.mul_le_mul (by omega) (Nat.pow_le_pow_right (by decide) few)
    _ < 4294967296 := by decide

theorem assemble32 (value : UInt32) :
    value.toUInt8.toUInt32 ||| ((value >>> 8).toUInt8.toUInt32 <<< 8) |||
      ((value >>> 16).toUInt8.toUInt32 <<< 16) ||| ((value >>> 24).toUInt8.toUInt32 <<< 24) =
      value := by
  apply UInt32.toNat.inj
  have bound := value.toNat_lt
  simp [Nat.shiftRight_eq_div_pow]
  generalize value.toNat = n at *
  rw [shifted_byte _ 8 (by omega) (by omega), shifted_byte _ 16 (by omega) (by omega),
    shifted_byte _ 24 (by omega) (by omega), or_shift _ _ 8 (by omega), or_shift _ _ 16 (by omega),
    or_shift _ _ 24 (by omega)]
  omega

theorem joined16 (a b : UInt8) :
    (a.toUInt16 ||| (b.toUInt16 <<< 8)).toNat = a.toNat + b.toNat * 2 ^ 8 := by
  have boundA := a.toNat_lt
  have boundB := b.toNat_lt
  have unwrapped : b.toNat <<< 8 % 65536 = b.toNat <<< 8 := by
    rw [Nat.shiftLeft_eq]
    exact Nat.mod_eq_of_lt (by omega)
  simp only [UInt16.toNat_or, UInt16.toNat_shiftLeft, UInt8.toNat_toUInt16, UInt16.toNat_ofNat]
  rw [unwrapped, or_shift _ _ 8 (by omega)]

theorem joined32 (a b c d : UInt8) :
    (a.toUInt32 ||| (b.toUInt32 <<< 8) ||| (c.toUInt32 <<< 16) ||| (d.toUInt32 <<< 24)).toNat =
      a.toNat + b.toNat * 2 ^ 8 + c.toNat * 2 ^ 16 + d.toNat * 2 ^ 24 := by
  have boundA := a.toNat_lt
  have boundB := b.toNat_lt
  have boundC := c.toNat_lt
  have boundD := d.toNat_lt
  simp only [UInt32.toNat_or, UInt32.toNat_shiftLeft, UInt8.toNat_toUInt32, UInt32.toNat_ofNat]
  rw [shifted_byte _ 8 boundB (by omega), shifted_byte _ 16 boundC (by omega),
    shifted_byte _ 24 boundD (by omega), or_shift _ _ 8 (by omega), or_shift _ _ 16 (by omega),
    or_shift _ _ 24 (by omega)]

theorem disassemble16 (a b : UInt8) : put16 (a.toUInt16 ||| (b.toUInt16 <<< 8)) = [a, b] := by
  have boundA := a.toNat_lt
  have boundB := b.toNat_lt
  have joined := joined16 a b
  generalize a.toUInt16 ||| (b.toUInt16 <<< 8) = value at joined ⊢
  simp only [put16, List.cons.injEq, and_true]
  constructor <;> apply UInt8.toNat.inj <;> simp [joined, Nat.shiftRight_eq_div_pow]
  omega

theorem disassemble32 (a b c d : UInt8) :
    put32 (a.toUInt32 ||| (b.toUInt32 <<< 8) ||| (c.toUInt32 <<< 16) ||| (d.toUInt32 <<< 24)) =
      [a, b, c, d] := by
  have boundA := a.toNat_lt
  have boundB := b.toNat_lt
  have boundC := c.toNat_lt
  have boundD := d.toNat_lt
  have joined := joined32 a b c d
  generalize a.toUInt32 ||| (b.toUInt32 <<< 8) ||| (c.toUInt32 <<< 16) ||| (d.toUInt32 <<< 24) =
    value at joined ⊢
  simp only [put32, List.cons.injEq, and_true]
  refine ⟨?_, ?_, ?_, ?_⟩ <;> apply UInt8.toNat.inj <;>
    simp [joined, Nat.shiftRight_eq_div_pow] <;> omega

def fromLittle : List UInt8 → Nat
  | [] => 0
  | byte :: rest => byte.toNat + 256 * fromLittle rest

theorem fromLittle_get16 (bytes : List UInt8) (offset : Nat) (inside : offset + 2 ≤ bytes.length) :
    fromLittle (slice bytes offset 2) = (get16 bytes offset).toNat := by
  rw [slice_eq_map bytes offset 2 inside, get16, joined16]
  simp [List.range_succ_eq_map, fromLittle]
  omega

theorem fromLittle_get32 (bytes : List UInt8) (offset : Nat) (inside : offset + 4 ≤ bytes.length) :
    fromLittle (slice bytes offset 4) = (get32 bytes offset).toNat := by
  rw [slice_eq_map bytes offset 4 inside, get32, joined32]
  simp [List.range_succ_eq_map, fromLittle]
  omega

theorem put16_get16 (bytes : List UInt8) (offset : Nat) (inside : offset + 2 ≤ bytes.length) :
    put16 (get16 bytes offset) = slice bytes offset 2 := by
  rw [get16, disassemble16, slice_eq_map bytes offset 2 inside]
  rfl

theorem put32_get32 (bytes : List UInt8) (offset : Nat) (inside : offset + 4 ≤ bytes.length) :
    put32 (get32 bytes offset) = slice bytes offset 4 := by
  rw [get32, disassemble32, slice_eq_map bytes offset 4 inside]
  rfl

end Bytes

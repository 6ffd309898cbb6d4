import Mathlib.Algebra.GroupWithZero.Nat
import Mathlib.Data.List.Basic

set_option autoImplicit false

/-!
# Texts of code points and their UTF-8 bytes

A text may hold surrogates; only a text without them has an encoding.
-/

namespace Unicode

abbrev Point := Fin 0x110000

instance points : NeZero 0x110000 := ⟨Nat.succ_ne_zero 0x10ffff⟩

abbrev Text := List Point

def Point.ofChar (c : Char) : Point :=
  ⟨c.toNat, by
    have valid := c.valid
    simp only [UInt32.isValidChar, Nat.isValidChar] at valid
    simp only [Char.toNat]
    omega⟩

def Point.char? (point : Point) : Option Char :=
  if valid : point.val.isValidChar then some (Char.ofNatAux point.val valid) else none

def text (literal : String) : Text := literal.toList.map Point.ofChar

def encode : Text → Option (List UInt8)
  | [] => some []
  | point :: rest =>
    match point.char?, encode rest with
    | some c, some bytes => some (String.utf8EncodeChar c ++ bytes)
    | _, _ => none

def decode (bytes : List UInt8) : Option Text :=
  bytes.toByteArray.utf8Decode?.map (fun chars => chars.toList.map Point.ofChar)

theorem byte_point (byte : UInt8) : byte.toNat < 0x110000 := by
  have := byte.toNat_lt
  omega

def decodeAscii (bytes : List UInt8) : Option Text :=
  if bytes.all (· < 0x80) then
    some (bytes.map (fun byte => ⟨byte.toNat, byte_point byte⟩))
  else none

theorem ofNatAux_toNat (n : Nat) (scalar : n.isValidChar) : (Char.ofNatAux n scalar).toNat = n := rfl

theorem Point.char?_ofChar (c : Char) : (Point.ofChar c).char? = some c := by
  have valid : c.toNat.isValidChar := c.valid
  have same : Char.ofNatAux c.toNat valid = c := by
    apply Char.ext
    apply UInt32.toNat.inj
    rfl
  exact (dif_pos valid).trans (congrArg some same)

theorem Point.ofChar_char? (point : Point) (c : Char) (scalar : point.char? = some c) :
    Point.ofChar c = point := by
  by_cases valid : point.val.isValidChar
  · have made : point.char? = some (Char.ofNatAux point.val valid) := dif_pos valid
    obtain rfl := Option.some.inj (scalar.symm.trans made)
    exact Fin.ext (ofNatAux_toNat point.val valid)
  · have none : point.char? = none := dif_neg valid
    rw [none] at scalar
    cases scalar

theorem encode_eq_some_iff (s : Text) (bytes : List UInt8) :
    encode s = some bytes ↔
      ∃ chars : List Char, s = chars.map Point.ofChar ∧ bytes = chars.flatMap String.utf8EncodeChar := by
  induction s generalizing bytes with
  | nil => simp [encode, eq_comm]
  | cons point rest ih =>
    constructor
    · intro encoded
      simp only [encode] at encoded
      split at encoded
      next c tail scalar later =>
        obtain ⟨chars, rfl, rfl⟩ := (ih tail).mp later
        cases encoded
        exact ⟨c :: chars, by rw [List.map_cons, point.ofChar_char? c scalar], by simp⟩
      next => cases encoded
    · rintro ⟨chars, split, rfl⟩
      cases chars with
      | nil => cases split
      | cons c chars =>
        obtain ⟨rfl, rfl⟩ := List.cons.inj split
        have later := (ih _).mpr ⟨chars, rfl, rfl⟩
        simp [encode, Point.char?_ofChar, later]

theorem decode_encode (chars : List Char) :
    decode (chars.flatMap String.utf8EncodeChar) = some (chars.map Point.ofChar) := by
  have read := @List.utf8Decode?_utf8Encode chars
  rw [List.utf8Encode] at read
  simp [decode, read]

theorem encode_decode (bytes : List UInt8) (s : Text) (decoded : decode bytes = some s) :
    encode s = some bytes := by
  unfold decode at decoded
  obtain ⟨chars, read, rfl⟩ := Option.map_eq_some_iff.mp decoded
  have valid : bytes.toByteArray.utf8Decode?.isSome := by simp [read]
  have whole := @ByteArray.utf8Encode_get_utf8Decode? bytes.toByteArray valid
  simp only [read, Option.get_some, List.utf8Encode] at whole
  refine (encode_eq_some_iff _ _).mpr ⟨chars.toList, rfl, ?_⟩
  have same := congrArg (fun array : ByteArray => array.data.toList) whole
  simpa using same.symm

theorem encode_injective (s t : Text) (bytes : List UInt8) (first : encode s = some bytes)
    (second : encode t = some bytes) : s = t := by
  obtain ⟨chars, rfl, rfl⟩ := (encode_eq_some_iff s bytes).mp first
  obtain ⟨others, rfl, same⟩ := (encode_eq_some_iff t _).mp second
  have read := decode_encode chars
  rw [same, decode_encode] at read
  exact (Option.some.inj read).symm

theorem utf8EncodeChar_ascii (c : Char) (small : c.toNat < 0x80) :
    String.utf8EncodeChar c = [UInt8.ofNat c.toNat] := by
  have low : c.val.toNat ≤ 0x7f := Nat.le_of_lt_succ small
  simp only [String.utf8EncodeChar, low, if_true]
  rfl

theorem utf8EncodeChar_high (c : Char) (large : 0x80 ≤ c.toNat) :
    ∀ byte ∈ String.utf8EncodeChar c, 0x80 ≤ byte := by
  have high : ¬c.val.toNat ≤ 0x7f := by
    simp only [Char.toNat] at large
    omega
  intro byte member
  rw [UInt8.le_iff_toNat_le]
  simp only [String.utf8EncodeChar, high, if_false] at member
  split at member
  · simp only [List.mem_cons, List.not_mem_nil, or_false] at member
    rcases member with rfl | rfl <;> simp <;> omega
  · split at member
    · simp only [List.mem_cons, List.not_mem_nil, or_false] at member
      rcases member with rfl | rfl | rfl <;> simp <;> omega
    · simp only [List.mem_cons, List.not_mem_nil, or_false] at member
      rcases member with rfl | rfl | rfl | rfl <;> simp <;> omega

def Point.byte (point : Point) : UInt8 := UInt8.ofNat point.val

def isAscii (s : Text) : Bool := s.all (fun point => decide (point.val < 0x80))

theorem encode_all (accepts : UInt8 → Bool) (refuses : ∀ byte, 0x80 ≤ byte → accepts byte = false)
    (s : Text) (bytes : List UInt8) (encoded : encode s = some bytes) :
    bytes.all accepts = s.all (fun point => decide (point.val < 0x80) && accepts point.byte) := by
  obtain ⟨chars, rfl, rfl⟩ := (encode_eq_some_iff s bytes).mp encoded
  clear encoded
  induction chars with
  | nil => rfl
  | cons c chars ih =>
    simp only [List.flatMap_cons, List.all_append, List.map_cons, List.all_cons, ih]
    congr 1
    by_cases small : c.toNat < 0x80
    · simp [utf8EncodeChar_ascii c small, Point.byte, Point.ofChar, small]
    · obtain ⟨byte, rest, written⟩ := List.exists_cons_of_ne_nil (@String.utf8EncodeChar_ne_nil c)
      have high := utf8EncodeChar_high c (Nat.le_of_not_lt small) byte (by simp [written])
      simp [written, refuses byte high, Point.ofChar, small]

theorem encode_ascii (s : Text) (bytes : List UInt8) (encoded : encode s = some bytes)
    (ascii : isAscii s = true) : bytes = s.map Point.byte := by
  obtain ⟨chars, rfl, rfl⟩ := (encode_eq_some_iff s bytes).mp encoded
  clear encoded
  induction chars with
  | nil => rfl
  | cons c chars ih =>
    simp only [isAscii, List.map_cons, List.all_cons, Bool.and_eq_true, decide_eq_true_eq] at ascii ih
    rw [List.flatMap_cons, utf8EncodeChar_ascii c ascii.1, ih ascii.2]
    rfl

theorem decodeAscii_some (bytes : List UInt8) (s : Text) (decoded : decodeAscii bytes = some s) :
    isAscii s = true ∧ s.map Point.byte = bytes := by
  unfold decodeAscii at decoded
  split at decoded
  next ascii =>
    cases decoded
    constructor
    · simpa [isAscii, UInt8.lt_iff_toNat_lt] using ascii
    · simp [Point.byte, Function.comp_def]
  next => cases decoded

theorem Point.byte_inj (first second : Point) (small : first.val < 0x80) (less : second.val < 0x80)
    (same : first.byte = second.byte) : first = second := by
  have values := congrArg UInt8.toNat same
  simp only [Point.byte, UInt8.toNat_ofNat'] at values
  apply Fin.ext
  omega

theorem encode_of_ascii (s : Text) (ascii : isAscii s = true) :
    encode s = some (s.map Point.byte) := by
  induction s with
  | nil => rfl
  | cons point rest ih =>
    simp only [isAscii, List.all_cons, Bool.and_eq_true, decide_eq_true_eq] at ascii ih
    have valid : point.val.isValidChar := .inl (by omega)
    obtain ⟨c, scalar, value⟩ : ∃ c, point.char? = some c ∧ c.toNat = point.val :=
      ⟨_, dif_pos valid, ofNatAux_toNat point.val valid⟩
    have written := utf8EncodeChar_ascii c (by rw [value]; exact ascii.1)
    simp only [encode, scalar, ih ascii.2, written, value]
    rfl

theorem decodeAscii_encode (bytes : List UInt8) (s : Text) (decoded : decodeAscii bytes = some s) :
    encode s = some bytes := by
  have ascii := decodeAscii_some bytes s decoded
  rw [encode_of_ascii s ascii.1, ascii.2]

end Unicode

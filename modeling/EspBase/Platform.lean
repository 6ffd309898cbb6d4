import Mathlib.Data.List.TakeWhile

set_option autoImplicit false

namespace EspBase

/-- `esp_err_t`. An error that the code never compares with a name of its own is a `platform` code. -/
inductive EspErr where
  | ok
  | noMem
  | invalidArg
  | invalidState
  | timeout
  | notFinished
  | nvsNotFound
  | wifiNotStarted
  | configConflict
  | configExhausted
  | configUncertain
  | platform (code : Int)
deriving DecidableEq, Repr

/-- A C string: the bytes before its terminating NUL. -/
@[ext] structure CString where
  bytes : List UInt8
  unbroken : 0 ∉ bytes
deriving DecidableEq

-- What a `char` array that starts with `array` reads as.
def CString.ofBytes (array : List UInt8) : CString :=
  { bytes := array.takeWhile (· != 0)
    unbroken := fun zero => by simpa using List.mem_takeWhile_imp zero }

def CString.empty : CString := { bytes := [], unbroken := List.not_mem_nil }

-- Reading past the end yields the NUL.
def CString.at (value : CString) (index : Nat) : UInt8 := value.bytes.getD index 0

@[simp] theorem CString.ofBytes_bytes (value : CString) : CString.ofBytes value.bytes = value := by
  apply CString.ext
  refine List.takeWhile_eq_self_iff.mpr (fun b member => ?_)
  have nonzero : b ≠ 0 := fun zero => value.unbroken (zero ▸ member)
  simp [nonzero]

theorem CString.bytes_ofBytes (array : List UInt8)
    (full : (CString.ofBytes array).bytes.length = array.length) :
    (CString.ofBytes array).bytes = array :=
  (List.takeWhile_prefix _).eq_of_length full

def hyphenAt (index : Nat) : Bool := index == 8 || index == 13 || index == 18 || index == 23

def lowerHex (c : UInt8) : Bool := (0x30 ≤ c && c ≤ 0x39) || (0x61 ≤ c && c ≤ 0x66)

def uuidByte (value : CString) (index : Nat) : Bool :=
  if hyphenAt index then value.at index == 0x2d else lowerHex (value.at index)

-- `strchr` also finds the terminating NUL.
def uuidVariant (c : UInt8) : Bool := [0x38, 0x39, 0x61, 0x62, 0].contains c

def bytesOf (text : String) : List UInt8 := text.toUTF8.data.toList

theorem bytesOf_chars (text : String) : bytesOf text = text.toList.flatMap String.utf8EncodeChar := by
  rw [bytesOf, String.toUTF8_eq_toByteArray, ← String.utf8Encode_toList, List.utf8Encode,
    List.toList_data_toByteArray]

theorem encoded_ascii (chars : List Char) (plain : chars.all (fun c => decide (c.toNat < 0x80)) = true) :
    chars.flatMap String.utf8EncodeChar = chars.map (fun c => c.toNat.toUInt8) := by
  induction chars with
  | nil => rfl
  | cons c rest ih =>
    rw [List.all_cons, Bool.and_eq_true, decide_eq_true_eq] at plain
    have one : c.toNat ≤ 0x7f := by omega
    rw [List.flatMap_cons, ih plain.2]
    simp [String.utf8EncodeChar, one]

theorem bytesOf_ascii (text : String) (plain : text.toList.all (fun c => decide (c.toNat < 0x80)) = true) :
    bytesOf text = text.toList.map (fun c => c.toNat.toUInt8) :=
  (bytesOf_chars text).trans (encoded_ascii _ plain)

abbrev Digest := Vector UInt8 32

def zeroDigest : Digest := Vector.replicate 32 0

end EspBase

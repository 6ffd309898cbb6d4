import EspBase.Network.Hex
import EspBase.Ota.Receipt
import EspBase.Shared.CodePoints
import Mathlib.Tactic.IntervalCases

set_option autoImplicit false

namespace EspBase

open Unicode

def deviceIdLength : Nat := 37

def isUuidV4 (value : CString) : Bool :=
  if value.bytes.length ≠ deviceIdLength - 1 then false
  else if !(List.range (deviceIdLength - 1)).all (uuidByte value) then false
  else value.at 14 == 0x34 &&
    (value.at 19 == 0x38 || value.at 19 == 0x39 || value.at 19 == 0x61 || value.at 19 == 0x62)

def classMember (members : String) (c : Point) : Bool := (text members).contains c

def hexClass : Point → Bool := classMember "0123456789abcdef"

-- `UUID_V4`: the classes of the pattern, each with how often it is repeated.
def uuidV4Classes : List ((Point → Bool) × Nat) :=
  [(hexClass, 8), (classMember "-", 1), (hexClass, 4), (classMember "-", 1), (classMember "4", 1),
    (hexClass, 3), (classMember "-", 1), (classMember "89ab", 1), (hexClass, 3), (classMember "-", 1),
    (hexClass, 12)]

def fullMatch : List (Point → Bool) → Text → Bool
  | [], [] => true
  | accepts :: pattern, c :: rest => accepts c && fullMatch pattern rest
  | _, _ => false

def uuidV4Pattern : List (Point → Bool) := uuidV4Classes.flatMap (fun part => List.replicate part.2 part.1)

def uuidV4 (value : Text) : Bool := fullMatch uuidV4Pattern value

structure Canonical (value : CString) : Prop where
  length : value.bytes.length = 36
  bytes : ∀ i < 36, uuidByte value i = true
  version : value.at 14 = 0x34
  variant : value.at 19 = 0x38 ∨ value.at 19 = 0x39 ∨ value.at 19 = 0x61 ∨ value.at 19 = 0x62

theorem CString.at_past (value : CString) (i : Nat) (past : value.bytes.length ≤ i) : value.at i = 0 := by
  simp [CString.at, past]

theorem CString.at_inside (value : CString) (i : Nat) (inside : i < value.bytes.length) : value.at i ≠ 0 := by
  intro zero
  simp only [CString.at, List.getD_eq_getElem _ _ inside] at zero
  exact value.unbroken (zero ▸ List.getElem_mem inside)

theorem uuidByte_nonzero (value : CString) (i : Nat) (passes : uuidByte value i = true) : value.at i ≠ 0 := by
  intro zero
  rw [uuidByte, zero] at passes
  split at passes <;> cases passes

theorem uuidVariant_nonzero (c : UInt8) (nonzero : c ≠ 0) :
    uuidVariant c = true ↔ c = 0x38 ∨ c = 0x39 ∨ c = 0x61 ∨ c = 0x62 := by
  simp [uuidVariant, nonzero]

theorem isUuid_canonical (value : CString) : isUuid value = true ↔ Canonical value := by
  simp only [isUuid, Bool.and_eq_true, beq_iff_eq, List.all_eq_true, List.mem_range]
  constructor
  · rintro ⟨⟨⟨bytes, ended⟩, version⟩, variant⟩
    refine ⟨?_, bytes, version, (uuidVariant_nonzero _ (uuidByte_nonzero value 19 (bytes 19 (by decide)))).mp variant⟩
    have short : ¬36 < value.bytes.length := fun inside => value.at_inside 36 inside ended
    have long : ¬value.bytes.length ≤ 35 := fun past =>
      uuidByte_nonzero value 35 (bytes 35 (by decide)) (value.at_past 35 past)
    omega
  · rintro ⟨length, bytes, version, variant⟩
    have nonzero := uuidByte_nonzero value 19 (bytes 19 (by decide))
    exact ⟨⟨⟨bytes, value.at_past 36 length.le⟩, version⟩, (uuidVariant_nonzero _ nonzero).mpr variant⟩

theorem validUuid_canonical (value : CString) : validUuid value = true ↔ Canonical value := by
  simp only [validUuid, Bool.and_eq_true, beq_iff_eq, List.all_eq_true, List.mem_range, strnlen,
    otaOperationIdBytes]
  constructor
  · rintro ⟨⟨⟨length, version⟩, variant⟩, bytes⟩
    have nonzero := uuidByte_nonzero value 19 (bytes 19 (by decide))
    exact ⟨by omega, bytes, version, (uuidVariant_nonzero _ nonzero).mp variant⟩
  · rintro ⟨length, bytes, version, variant⟩
    have nonzero := uuidByte_nonzero value 19 (bytes 19 (by decide))
    exact ⟨⟨⟨by omega, version⟩, (uuidVariant_nonzero _ nonzero).mpr variant⟩, bytes⟩

theorem isUuidV4_canonical (value : CString) : isUuidV4 value = true ↔ Canonical value := by
  unfold isUuidV4 deviceIdLength
  constructor
  · intro passed
    split at passed
    · cases passed
    next length =>
      split at passed
      · cases passed
      next bytes =>
        simp only [Bool.not_eq_true, Bool.not_eq_false', List.all_eq_true, List.mem_range] at bytes
        simp only [Bool.and_eq_true, Bool.or_eq_true, beq_iff_eq, or_assoc] at passed
        exact ⟨not_not.mp length, bytes, passed.1, passed.2⟩
  · rintro ⟨length, bytes, version, variant⟩
    have all : (List.range 36).all (uuidByte value) = true := by simpa using bytes
    simp [length, all, version, variant, or_assoc]

def classAt (i : Nat) : Point → Bool :=
  if hyphenAt i then classMember "-"
  else if i = 14 then classMember "4"
  else if i = 19 then classMember "89ab"
  else hexClass

theorem uuidV4Pattern_places : uuidV4Pattern = (List.range' 0 36).map classAt := rfl

theorem fullMatch_places (classes : Nat → Point → Bool) (start count : Nat) (value : Text) :
    fullMatch ((List.range' start count).map classes) value = true ↔
      value.length = count ∧ ∀ i < count, classes (start + i) (value.getD i 0) = true := by
  induction count generalizing start value with
  | zero => cases value <;> simp [fullMatch]
  | succ count ih =>
    cases value with
    | nil => simp [fullMatch, List.range'_succ]
    | cons c rest =>
      have later := ih (start + 1) rest
      simp only [List.range'_succ, List.map_cons, fullMatch, Bool.and_eq_true, later, List.length_cons,
        Nat.add_right_cancel_iff]
      constructor
      · rintro ⟨here, length, others⟩
        refine ⟨length, fun i inside => ?_⟩
        cases i with
        | zero => exact here
        | succ i =>
          have other := others i (by omega)
          rwa [Nat.add_right_comm] at other
      · rintro ⟨length, all⟩
        refine ⟨all 0 (by omega), length, fun i inside => ?_⟩
        have other := all (i + 1) (by omega)
        rwa [← Nat.add_assoc, Nat.add_right_comm] at other

def bytePoint (byte : UInt8) : Point := ⟨byte.toNat, Unicode.byte_point byte⟩

theorem classAt_byte (i : Nat) (byte : UInt8) :
    classAt i (bytePoint byte) =
      if hyphenAt i then byte == 0x2d
      else if i = 14 then byte == 0x34
      else if i = 19 then byte == 0x38 || byte == 0x39 || byte == 0x61 || byte == 0x62
      else lowerHex byte := by
  have all : ∀ n : Fin 256,
      classMember "-" (n.castLE (by decide)) = (UInt8.ofNat n == 0x2d) ∧
      classMember "4" (n.castLE (by decide)) = (UInt8.ofNat n == 0x34) ∧
      classMember "89ab" (n.castLE (by decide)) = (UInt8.ofNat n == 0x38 || UInt8.ofNat n == 0x39 ||
        UInt8.ofNat n == 0x61 || UInt8.ofNat n == 0x62) ∧
      hexClass (n.castLE (by decide)) = lowerHex (UInt8.ofNat n) := by decide +kernel
  have here := all ⟨byte.toNat, byte.toNat_lt⟩
  rw [UInt8.ofNat_toNat] at here
  obtain ⟨hyphen, four, variant, hex⟩ := here
  unfold classAt
  split
  · exact hyphen
  split
  · exact four
  split
  · exact variant
  · exact hex

theorem uuidV4_places (bytes : List UInt8) :
    uuidV4 (bytes.map bytePoint) = true ↔
      bytes.length = 36 ∧ ∀ i < 36, classAt i (bytePoint (bytes.getD i 0)) = true := by
  have places := fullMatch_places classAt 0 36 (bytes.map bytePoint)
  rw [← uuidV4Pattern_places, List.length_map] at places
  rw [uuidV4, places]
  have zero : (0 : Point) = bytePoint 0 := rfl
  simp only [Nat.zero_add, zero, List.getD_map]

theorem canonical_places (value : CString) :
    Canonical value ↔ value.bytes.length = 36 ∧ ∀ i < 36, classAt i (bytePoint (value.at i)) = true := by
  have special : lowerHex 0x34 = true ∧ lowerHex 0x38 = true ∧ lowerHex 0x39 = true ∧ lowerHex 0x61 = true ∧
      lowerHex 0x62 = true ∧ hyphenAt 14 = false ∧ hyphenAt 19 = false := by decide
  simp only [classAt_byte]
  constructor
  · rintro ⟨length, bytes, version, variant⟩
    refine ⟨length, fun i inside => ?_⟩
    have here := bytes i inside
    unfold uuidByte at here
    split
    next hyphen => rwa [if_pos hyphen] at here
    next plain =>
      rw [if_neg plain] at here
      split
      next fourteen => simpa [fourteen] using version
      split
      next nineteen => simpa [nineteen, or_assoc] using variant
      · exact here
  · rintro ⟨length, all⟩
    have version := all 14 (by decide)
    have variant := all 19 (by decide)
    simp only [special, Bool.false_eq_true, if_false, if_true, beq_iff_eq] at version
    simp [special, or_assoc] at variant
    refine ⟨length, fun i inside => ?_, version, variant⟩
    have here := all i inside
    unfold uuidByte
    split at here
    next hyphen => rwa [if_pos hyphen]
    next plain =>
      rw [if_neg plain]
      split at here
      next fourteen => rw [fourteen, version]; exact special.1
      split at here
      next nineteen =>
        rw [nineteen]
        rcases variant with same | same | same | same <;> rw [same] <;> decide
      · exact here

theorem Canonical.plain {value : CString} (canonical : Canonical value) :
    ∀ c ∈ value.bytes, c = 0x2d ∨ lowerHex c = true := by
  intro c member
  obtain ⟨i, inside, rfl⟩ := List.getElem_of_mem member
  have here := canonical.bytes i (canonical.length ▸ inside)
  rw [uuidByte, CString.at, List.getD_eq_getElem _ _ inside] at here
  split at here
  · exact .inl (by simpa using here)
  · exact .inr here

theorem Canonical.ascii {value : CString} (canonical : Canonical value) :
    value.bytes.all (· < 0x80) = true := by
  have small : ∀ n < 256, lowerHex (UInt8.ofNat n) = true → UInt8.ofNat n < 0x80 := by decide +kernel
  rw [List.all_eq_true]
  intro c member
  rcases canonical.plain c member with rfl | digit
  · decide
  · have here := small c.toNat c.toNat_lt
    rw [UInt8.ofNat_toNat] at here
    exact decide_eq_true (here digit)

theorem uuidV4_ascii (value : CString) : (decodeAscii value.bytes).any uuidV4 = true ↔ Canonical value := by
  have places := uuidV4_places value.bytes
  unfold decodeAscii
  by_cases ascii : value.bytes.all (· < 0x80) = true
  · rw [if_pos ascii, canonical_places]
    exact places
  · rw [if_neg ascii]
    exact ⟨fun passed => absurd passed (by decide), fun canonical => absurd canonical.ascii ascii⟩

def espErrInvalidSize : EspErr := .platform 0x104

-- The version and the variant are set in the random bytes.
def stamped (random : List UInt8) : List UInt8 :=
  (random.set 6 ((random.getD 6 0 &&& 0x0f) ||| 0x40)).set 8 ((random.getD 8 0 &&& 0x3f) ||| 0x80)

def uuidText (bytes : List UInt8) : List UInt8 :=
  hexText (bytes.take 4) ++ [0x2d] ++ hexText ((bytes.drop 4).take 2) ++ [0x2d] ++
    hexText ((bytes.drop 6).take 2) ++ [0x2d] ++ hexText ((bytes.drop 8).take 2) ++ [0x2d] ++
    hexText (bytes.drop 10)

/-- `random` is what `esp_fill_random` fills in; the text is what the buffer reads as afterwards. -/
def espBaseIdentityGenerateUuid (outputSize : Nat) (random : Vector UInt8 16) : Except EspErr CString :=
  if outputSize < deviceIdLength then .error .invalidArg
  else
    let written := uuidText (stamped random.toList)
    if written.length = deviceIdLength - 1 then .ok (.ofBytes written) else .error espErrInvalidSize

def randomBits (i : Nat) : UInt8 := if i = 6 then 0x0f else if i = 8 then 0x3f else 0xff

theorem sixteen (v : Vector UInt8 16) :
    v.toList = [v[0], v[1], v[2], v[3], v[4], v[5], v[6], v[7], v[8], v[9], v[10], v[11], v[12], v[13],
      v[14], v[15]] := by
  apply List.ext_getElem
  · simp
  · intro i inside _
    rw [Vector.length_toList] at inside
    interval_cases i <;> simp

theorem stamped_version (random : Vector UInt8 16) :
    ((stamped random.toList).drop 6).take 2 = [(random[6] &&& 0x0f) ||| 0x40, random[7]] := by
  rw [sixteen]
  rfl

theorem stamped_variant (random : Vector UInt8 16) :
    ((stamped random.toList).drop 8).take 2 = [(random[8] &&& 0x3f) ||| 0x80, random[9]] := by
  rw [sixteen]
  rfl

theorem stamp_digits (byte : UInt8) :
    ((byte &&& 0x0f) ||| 0x40) >>> 4 = 4 ∧ (((byte &&& 0x3f) ||| 0x80) >>> 4 = 8 ∨
      ((byte &&& 0x3f) ||| 0x80) >>> 4 = 9 ∨ ((byte &&& 0x3f) ||| 0x80) >>> 4 = 10 ∨
      ((byte &&& 0x3f) ||| 0x80) >>> 4 = 11) := by
  have all : ∀ n < 256, ((UInt8.ofNat n &&& 0x0f) ||| 0x40) >>> 4 = 4 ∧
      (((UInt8.ofNat n &&& 0x3f) ||| 0x80) >>> 4 = 8 ∨ ((UInt8.ofNat n &&& 0x3f) ||| 0x80) >>> 4 = 9 ∨
        ((UInt8.ofNat n &&& 0x3f) ||| 0x80) >>> 4 = 10 ∨
        ((UInt8.ofNat n &&& 0x3f) ||| 0x80) >>> 4 = 11) := by decide +kernel
  simpa using all byte.toNat byte.toNat_lt

theorem fullMatch_append (pattern others : List (Point → Bool)) (value rest : Text)
    (first : fullMatch pattern value = true) (second : fullMatch others rest = true) :
    fullMatch (pattern ++ others) (value ++ rest) = true := by
  induction pattern generalizing value with
  | nil =>
    cases value with
    | nil => exact second
    | cons c value => cases first
  | cons accepts pattern ih =>
    cases value with
    | nil => cases first
    | cons c value =>
      simp only [fullMatch, Bool.and_eq_true, List.cons_append] at first ⊢
      exact ⟨first.1, ih value first.2⟩

theorem hexClass_byte (byte : UInt8) : hexClass (bytePoint byte) = lowerHex byte := classAt_byte 0 byte

theorem fullMatch_hexText (bytes : List UInt8) :
    fullMatch (List.replicate (2 * bytes.length) hexClass) ((hexText bytes).map bytePoint) = true := by
  induction bytes with
  | nil => rfl
  | cons byte bytes ih =>
    obtain ⟨high, low⟩ := halves_small byte
    have size : 2 * (byte :: bytes).length = 2 * bytes.length + 1 + 1 := by
      rw [List.length_cons]
      omega
    simp only [size, List.replicate_succ, hexText_cons, List.map_cons, fullMatch, hexClass_byte,
      hexDigit_lowerHex _ high, hexDigit_lowerHex _ low, Bool.true_and, ih]

theorem uuidV4_stamped (random : Vector UInt8 16) :
    uuidV4 ((uuidText (stamped random.toList)).map bytePoint) = true := by
  have size : (stamped random.toList).length = 16 := by simp [stamped]
  have hex (part : List UInt8) (count : Nat) (length : part.length = count) :
      fullMatch (List.replicate (2 * count) hexClass) ((hexText part).map bytePoint) = true :=
    length ▸ fullMatch_hexText part
  have hyphen : fullMatch [classMember "-"] ([0x2d].map bytePoint) = true := by decide +kernel
  have version : fullMatch (classMember "4" :: List.replicate 3 hexClass)
      ((hexText (((stamped random.toList).drop 6).take 2)).map bytePoint) = true := by
    have first := (stamp_digits random[6]).1
    have four : classMember "4" (bytePoint (hexDigit 4)) = true := by decide +kernel
    obtain ⟨third, fourth⟩ := halves_small random[7]
    obtain ⟨-, low⟩ := halves_small ((random[6] &&& 0x0f) ||| 0x40)
    simp only [stamped_version, hexText_cons, List.map_cons, fullMatch, first, four, List.replicate_succ,
      hexClass_byte, hexDigit_lowerHex _ low, hexDigit_lowerHex _ third, hexDigit_lowerHex _ fourth,
      Bool.true_and]
    rfl
  have variant : fullMatch (classMember "89ab" :: List.replicate 3 hexClass)
      ((hexText (((stamped random.toList).drop 8).take 2)).map bytePoint) = true := by
    have first := (stamp_digits random[8]).2
    have digits : classMember "89ab" (bytePoint (hexDigit (((random[8] &&& 0x3f) ||| 0x80) >>> 4))) = true := by
      rcases first with same | same | same | same <;> rw [same] <;> decide +kernel
    obtain ⟨third, fourth⟩ := halves_small random[9]
    obtain ⟨-, low⟩ := halves_small ((random[8] &&& 0x3f) ||| 0x80)
    simp only [stamped_variant, hexText_cons, List.map_cons, fullMatch, digits, List.replicate_succ,
      hexClass_byte, hexDigit_lowerHex _ low, hexDigit_lowerHex _ third, hexDigit_lowerHex _ fourth,
      Bool.true_and]
    rfl
  have pattern : uuidV4Pattern =
      List.replicate (2 * 4) hexClass ++ [classMember "-"] ++ List.replicate (2 * 2) hexClass ++
        [classMember "-"] ++ (classMember "4" :: List.replicate 3 hexClass) ++ [classMember "-"] ++
        (classMember "89ab" :: List.replicate 3 hexClass) ++ [classMember "-"] ++
        List.replicate (2 * 6) hexClass := rfl
  rw [uuidV4, pattern, uuidText]
  simp only [List.map_append]
  have one := fullMatch_append _ _ _ _ (hex ((stamped random.toList).take 4) 4 (by simp [size])) hyphen
  have two := fullMatch_append _ _ _ _ (fullMatch_append _ _ _ _ one
    (hex (((stamped random.toList).drop 4).take 2) 2 (by simp [size]))) hyphen
  have three := fullMatch_append _ _ _ _ (fullMatch_append _ _ _ _ two version) hyphen
  have four := fullMatch_append _ _ _ _ (fullMatch_append _ _ _ _ three variant) hyphen
  exact fullMatch_append _ _ _ _ four (hex ((stamped random.toList).drop 10) 6 (by simp [size]))

theorem Canonical.ofBytes_bytes (bytes : List UInt8) (matching : uuidV4 (bytes.map bytePoint) = true) :
    (CString.ofBytes bytes).bytes = bytes := by
  obtain ⟨length, places⟩ := (uuidV4_places bytes).mp matching
  have zeros : ∀ i < 36, classAt i (bytePoint 0) = false := by decide +kernel
  refine List.takeWhile_eq_self_iff.mpr (fun c member => ?_)
  obtain ⟨i, inside, rfl⟩ := List.getElem_of_mem member
  have here := places i (length ▸ inside)
  rw [List.getD_eq_getElem _ _ inside] at here
  rw [bne_iff_ne]
  intro zero
  rw [zero, zeros i (length ▸ inside)] at here
  cases here

theorem generated_canonical (random : Vector UInt8 16) (outputSize : Nat) (room : deviceIdLength ≤ outputSize) :
    ∃ value, espBaseIdentityGenerateUuid outputSize random = .ok value ∧
      value.bytes = uuidText (stamped random.toList) ∧ Canonical value := by
  have matching := uuidV4_stamped random
  have bytes := Canonical.ofBytes_bytes _ matching
  obtain ⟨length, places⟩ := (uuidV4_places _).mp matching
  refine ⟨.ofBytes (uuidText (stamped random.toList)), ?_, bytes, ?_⟩
  · rw [espBaseIdentityGenerateUuid, if_neg (Nat.not_lt.mpr room)]
    exact if_pos length
  · rw [canonical_places]
    simp only [CString.at, bytes]
    exact ⟨length, places⟩

theorem hexText_append (first second : List UInt8) :
    hexText (first ++ second) = hexText first ++ hexText second := List.flatMap_append

theorem uuidText_digits (bytes : List UInt8) :
    (uuidText bytes).filter (· != 0x2d) = hexText bytes := by
  have digits (part : List UInt8) : (hexText part).filter (· != 0x2d) = hexText part := by
    rw [List.filter_eq_self]
    intro c member
    obtain ⟨byte, -, digit⟩ := List.mem_flatMap.mp member
    have all : ∀ n < 16, hexDigit (UInt8.ofNat n) ≠ 0x2d := by decide +kernel
    obtain ⟨high, low⟩ := halves_small byte
    have first := all (byte >>> 4).toNat (UInt8.lt_iff_toNat_lt.mp high)
    have second := all (byte &&& 15).toNat (UInt8.lt_iff_toNat_lt.mp low)
    rw [UInt8.ofNat_toNat] at first second
    simp only [List.mem_cons, List.not_mem_nil, or_false] at digit
    rcases digit with rfl | rfl
    · simpa using first
    · simpa using second
  have hyphen : ([0x2d] : List UInt8).filter (· != 0x2d) = [] := rfl
  have parts : bytes = bytes.take 4 ++ ((bytes.drop 4).take 2 ++ ((bytes.drop 6).take 2 ++
      ((bytes.drop 8).take 2 ++ bytes.drop 10))) := by
    have rest (n m : Nat) : (bytes.drop n).take m ++ bytes.drop (n + m) = bytes.drop n := by
      rw [← List.drop_drop, List.take_append_drop]
    rw [rest 8 2, rest 6 2, rest 4 2, List.take_append_drop]
  conv_rhs => rw [parts]
  simp only [uuidText, List.filter_append, digits, hyphen, hexText_append, List.nil_append, List.append_assoc]

theorem stamped_random (random : Vector UInt8 16) (i : Nat) (inside : i < 16) :
    (stamped random.toList).getD i 0 &&& randomBits i = random[i] &&& randomBits i := by
  have all : ∀ n < 256, ((UInt8.ofNat n &&& 0x0f) ||| 0x40) &&& 0x0f = UInt8.ofNat n &&& 0x0f ∧
      ((UInt8.ofNat n &&& 0x3f) ||| 0x80) &&& 0x3f = UInt8.ofNat n &&& 0x3f := by decide +kernel
  have six := (all random[6].toNat random[6].toNat_lt).1
  have eight := (all random[8].toNat random[8].toNat_lt).2
  rw [UInt8.ofNat_toNat] at six eight
  rw [sixteen]
  interval_cases i
  case «6» => exact six
  case «8» => exact eight
  all_goals rfl

theorem generated_distinct (first second : Vector UInt8 16)
    (same : uuidText (stamped first.toList) = uuidText (stamped second.toList)) (i : Nat) (inside : i < 16) :
    first[i] &&& randomBits i = second[i] &&& randomBits i := by
  have digits := congrArg (List.filter (· != 0x2d)) same
  rw [uuidText_digits, uuidText_digits] at digits
  have bytes := hexText_injective _ _ digits
  rw [← stamped_random first i inside, ← stamped_random second i inside, bytes]

theorem one_identity :
    (∀ value : CString, isUuid value = validUuid value ∧ isUuid value = isUuidV4 value ∧
      isUuid value = (decodeAscii value.bytes).any uuidV4) ∧
    (∀ (random : Vector UInt8 16) (outputSize : Nat), deviceIdLength ≤ outputSize →
      ∃ value, espBaseIdentityGenerateUuid outputSize random = .ok value ∧ isUuid value = true ∧
        validUuid value = true ∧ isUuidV4 value = true ∧ (decodeAscii value.bytes).any uuidV4 = true) ∧
    ∀ (first second : Vector UInt8 16) (outputSize : Nat) (value : CString),
      espBaseIdentityGenerateUuid outputSize first = .ok value →
      espBaseIdentityGenerateUuid outputSize second = .ok value →
      ∀ i (inside : i < 16), first[i] &&& randomBits i = second[i] &&& randomBits i := by
  refine ⟨?_, ?_, ?_⟩
  · intro value
    have canonical := isUuid_canonical value
    refine ⟨?_, ?_, ?_⟩ <;> rw [Bool.eq_iff_iff, canonical]
    · exact (validUuid_canonical value).symm
    · exact (isUuidV4_canonical value).symm
    · exact (uuidV4_ascii value).symm
  · intro random outputSize room
    obtain ⟨value, generated, -, canonical⟩ := generated_canonical random outputSize room
    exact ⟨value, generated, (isUuid_canonical value).mpr canonical, (validUuid_canonical value).mpr canonical,
      (isUuidV4_canonical value).mpr canonical, (uuidV4_ascii value).mpr canonical⟩
  · intro first second outputSize value one two
    have room : deviceIdLength ≤ outputSize := by
      by_contra short
      rw [espBaseIdentityGenerateUuid, if_pos (Nat.lt_of_not_le short)] at one
      cases one
    obtain ⟨text, written, bytes, -⟩ := generated_canonical first outputSize room
    obtain ⟨other, again, others, -⟩ := generated_canonical second outputSize room
    rw [one] at written
    rw [two] at again
    obtain rfl := Except.ok.inj written
    obtain rfl := Except.ok.inj again
    exact generated_distinct first second (bytes.symm.trans others)

end EspBase

import EspBase.Ota.Library
import EspBase.Shared.Bytes

set_option autoImplicit false

namespace EspBase

open Bytes

def otaBytes : Nat := 118
def otaStatusPrepared : UInt8 := 1
def otaStatusFailed : UInt8 := 2
def otaOperationIdBytes : Nat := 37

structure Receipt where
  status : UInt8
  sourceSubtype : UInt8
  targetSubtype : UInt8
  failure : UInt8
  imageSizeBytes : UInt32
  deviceId : CString
  operationId : CString
  sha256 : Digest
deriving DecidableEq

def strnlen (value : CString) (limit : Nat) : Nat := min value.bytes.length limit

def validUuid (value : CString) : Bool :=
  strnlen value otaOperationIdBytes == 36 && value.at 14 == 0x34 && uuidVariant (value.at 19) &&
    (List.range 36).all (uuidByte value)

def otaMagic : List UInt8 := [0x45, 0x4f, 0x54, 0x41]

def receiptEncode (receipt : Receipt) : List UInt8 :=
  otaMagic ++
    [1, receipt.status, receipt.sourceSubtype, receipt.targetSubtype, receipt.failure, 0] ++
    put32 receipt.imageSizeBytes ++ (padded 36 receipt.deviceId.bytes).toList ++
    (padded 36 receipt.operationId.bytes).toList ++ receipt.sha256.toList

def recordable (failure : EotaResult) : Bool :=
  !(failure == eotaUpdateOk || failure == eotaUpdateBootStateUnknown ||
    failure > eotaUpdateResourceFailure)

def oppositeSlots (source target : UInt8) : Bool :=
  (source == appOta0 && target == appOta1) || (source == appOta1 && target == appOta0)

def receiptFields (bytes : List UInt8) : Receipt :=
  { status := byteAt bytes 5
    sourceSubtype := byteAt bytes 6
    targetSubtype := byteAt bytes 7
    failure := byteAt bytes 8
    imageSizeBytes := get32 bytes 10
    deviceId := .ofBytes (slice bytes 14 36)
    operationId := .ofBytes (slice bytes 50 36)
    sha256 := padded 32 (slice bytes 86 32) }

def receiptDecode (bytes : List UInt8) : Option Receipt :=
  if bytes.take 4 ≠ otaMagic ∨ byteAt bytes 4 ≠ 1 ∨ byteAt bytes 9 ≠ 0 ∨
      (byteAt bytes 5 ≠ otaStatusPrepared ∧ byteAt bytes 5 ≠ otaStatusFailed) ∨
      !oppositeSlots (byteAt bytes 6) (byteAt bytes 7) then none
  else
    let candidate := receiptFields bytes
    if candidate.imageSizeBytes = 0 ∨ candidate.imageSizeBytes > 0x1e0000 ∨
        (candidate.status = otaStatusPrepared ∧ candidate.failure ≠ 0) ∨
        (candidate.status = otaStatusFailed ∧ !recordable candidate.failure.toNat) then none
    else if !validUuid candidate.deviceId || !validUuid candidate.operationId then none
    else some candidate

structure Receipt.Storable (r : Receipt) : Prop where
  status : (r.status = otaStatusPrepared ∧ r.failure = 0) ∨
    (r.status = otaStatusFailed ∧ recordable r.failure.toNat)
  slots : oppositeSlots r.sourceSubtype r.targetSubtype
  size : r.imageSizeBytes ≠ 0 ∧ r.imageSizeBytes ≤ 0x1e0000
  device : validUuid r.deviceId
  operation : validUuid r.operationId

theorem receiptDecode_eq_some_iff (b : List UInt8) (r : Receipt) :
    receiptDecode b = some r ↔
      b.take 4 = otaMagic ∧ byteAt b 4 = 1 ∧ byteAt b 9 = 0 ∧ receiptFields b = r ∧ r.Storable := by
  constructor
  · intro decoded
    simp only [receiptDecode] at decoded
    split at decoded
    · cases decoded
    next header =>
      split at decoded
      · cases decoded
      next fields =>
        split at decoded
        · cases decoded
        next ids =>
          obtain rfl := Option.some.inj decoded
          simp only [not_or, not_and, not_not, Bool.or_eq_true, Bool.not_eq_true,
            Bool.not_eq_false'] at header fields ids
          obtain ⟨magic, version, reserved, status, slots⟩ := header
          obtain ⟨nonzero, small, prepared, failed⟩ := fields
          refine ⟨magic, version, reserved, rfl, ⟨?_, slots, ⟨nonzero, UInt32.not_lt.mp small⟩, ids.1, ids.2⟩⟩
          by_cases is_prepared : byteAt b 5 = otaStatusPrepared
          · exact .inl ⟨is_prepared, prepared is_prepared⟩
          · exact .inr ⟨status is_prepared, failed (status is_prepared)⟩
  · rintro ⟨magic, version, reserved, rfl, storable⟩
    have distinct : otaStatusPrepared ≠ otaStatusFailed := by decide
    have known : byteAt b 5 = otaStatusPrepared ∨ byteAt b 5 = otaStatusFailed :=
      storable.status.imp And.left And.left
    have slots : oppositeSlots (byteAt b 6) (byteAt b 7) := storable.slots
    simp only [receiptDecode]
    rw [if_neg, if_neg, if_neg]
    · simp [storable.device, storable.operation]
    · rintro (zero | large | ⟨prepared, dirty⟩ | ⟨failed, odd⟩)
      · exact storable.size.1 zero
      · exact UInt32.not_lt.mpr storable.size.2 large
      · rcases storable.status with ⟨-, clean⟩ | ⟨failed, -⟩
        · exact dirty clean
        · exact distinct (prepared.symm.trans failed)
      · rcases storable.status with ⟨prepared, -⟩ | ⟨-, fine⟩
        · exact distinct (prepared.symm.trans failed)
        · simp [fine] at odd
    · rintro (other | other | other | ⟨first, second⟩ | other)
      · exact other magic
      · exact other version
      · exact other reserved
      · exact known.elim first second
      · simp [slots] at other

theorem validUuid_length (value : CString) (valid : validUuid value) : value.bytes.length = 36 := by
  simp only [validUuid, Bool.and_eq_true, beq_iff_eq, strnlen, otaOperationIdBytes] at valid
  omega

theorem receiptEncode_length (receipt : Receipt) : (receiptEncode receipt).length = otaBytes := by
  simp [receiptEncode, otaMagic, put32, otaBytes]

theorem padded_exact (capacity : Nat) (bytes : List UInt8) (exact : bytes.length = capacity) :
    (padded capacity bytes).toList = bytes := by
  rw [padded_toList _ _ exact.le, exact, Nat.sub_self, List.replicate_zero, List.append_nil]

theorem idField_exact (b : List UInt8) (offset : Nat)
    (valid : validUuid (.ofBytes (slice b offset 36))) :
    (padded 36 (CString.ofBytes (slice b offset 36)).bytes).toList = slice b offset 36 := by
  have full := validUuid_length _ valid
  have shorter : (slice b offset 36).length ≤ 36 := List.length_take_le _ _
  have prefixed : (List.takeWhile (· != 0) (slice b offset 36)).length ≤ _ :=
    (List.takeWhile_prefix _).length_le
  rw [padded_exact _ _ full]
  refine CString.bytes_ofBytes _ ?_
  change (CString.ofBytes (slice b offset 36)).bytes.length ≤ _ at prefixed
  omega

theorem receiptEncode_decode (b : List UInt8) (r : Receipt) (size : b.length = otaBytes)
    (decoded : receiptDecode b = some r) : receiptEncode r = b := by
  obtain ⟨magic, version, reserved, rfl, storable⟩ := (receiptDecode_eq_some_iff b r).mp decoded
  have size : b.length = 118 := size
  have header : slice b 4 6 = [1, byteAt b 5, byteAt b 6, byteAt b 7, byteAt b 8, 0] := by
    rw [slice_eq_map b 4 6 (by omega), ← version, ← reserved]
    rfl
  have word : put32 (get32 b 10) = slice b 10 4 := by
    rw [slice_eq_map b 10 4 (by omega)]
    exact disassemble32 _ _ _ _
  have digest : (padded 32 (slice b 86 32)).toList = slice b 86 32 :=
    padded_exact _ _ (by simp [slice, size])
  have whole : slice b 0 118 = b := by simp [slice, ← size]
  have first : otaMagic = slice b 0 4 := magic.symm
  unfold receiptEncode
  simp only [receiptFields] at storable ⊢
  rw [idField_exact _ _ storable.device, idField_exact _ _ storable.operation, digest, word,
    ← header, first, slice_append b 0 4 6, slice_append b 0 10 4, slice_append b 0 14 36,
    slice_append b 0 50 36, slice_append b 0 86 32, whole]

theorem receiptEncode_fields (r : Receipt) (device : r.deviceId.bytes.length = 36)
    (operation : r.operationId.bytes.length = 36) :
    receiptEncode r =
      (otaMagic ++ [1, r.status, r.sourceSubtype, r.targetSubtype, r.failure, 0] ++
        put32 r.imageSizeBytes) ++ (r.deviceId.bytes ++ (r.operationId.bytes ++ r.sha256.toList)) := by
  unfold receiptEncode
  rw [padded_exact _ _ device, padded_exact _ _ operation]
  simp only [List.append_assoc]

theorem receiptFields_encode (r : Receipt) (device : r.deviceId.bytes.length = 36)
    (operation : r.operationId.bytes.length = 36) : receiptFields (receiptEncode r) = r := by
  rw [receiptEncode_fields r device operation]
  have word : get32 ((otaMagic ++ [1, r.status, r.sourceSubtype, r.targetSubtype, r.failure, 0] ++
      put32 r.imageSizeBytes) ++ (r.deviceId.bytes ++ (r.operationId.bytes ++ r.sha256.toList))) 10 =
        r.imageSizeBytes := assemble32 r.imageSizeBytes
  have front : (otaMagic ++ [1, r.status, r.sourceSubtype, r.targetSubtype, r.failure, 0] ++
      put32 r.imageSizeBytes).length = 14 := rfl
  have digest : padded 32 r.sha256.toList = r.sha256 := by
    apply Vector.toList_inj.mp
    exact padded_exact _ _ (by simp)
  have whole : slice r.sha256.toList 0 32 = r.sha256.toList :=
    List.take_of_length_le (by simp)
  simp only [receiptFields, word]
  rw [slice_past _ _ 14 36 front.le, slice_past _ _ 50 36 (by omega),
    slice_past _ _ 86 32 (by omega), front, Nat.sub_self, slice_here _ _ 36 device,
    slice_past _ _ 36 36 device.le, slice_past _ _ 72 32 (by omega), device, Nat.sub_self,
    slice_here _ _ 36 operation, slice_past _ _ 36 32 operation.le, operation, Nat.sub_self,
    whole, digest, CString.ofBytes_bytes, CString.ofBytes_bytes]
  rfl

theorem receiptDecode_encode (r : Receipt) (storable : r.Storable) :
    receiptDecode (receiptEncode r) = some r := by
  have device := validUuid_length _ storable.device
  have operation := validUuid_length _ storable.operation
  rw [receiptDecode_eq_some_iff]
  exact ⟨rfl, rfl, rfl, receiptFields_encode r device operation, storable⟩

end EspBase

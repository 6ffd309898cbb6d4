import EspBase.Host.Migration
import EspBase.Identity.Uuid
import EspBase.Ota.ReceiptRuns

set_option autoImplicit false

namespace EspBase

open Bytes Unicode

def validateOtaReceipt (blob : List UInt8) (deviceId : Text) : Except String String := do
  require (blob.length == 118 && blob.take 5 == otaMagic ++ [1] && byteAt blob 9 == 0)
    "base_ota/operation 不是规范 EOTA v1 118B blob"
  let status := byteAt blob 5
  let source := byteAt blob 6
  let target := byteAt blob 7
  let failure := byteAt blob 8
  require ([1, 2].contains status && [(0x10, 0x11), (0x11, 0x10)].contains (source, target) &&
      (status != 1 || failure == 0) &&
      (status != 2 || [1, 2, 3, 4, 5, 6, 7, 8, 10].contains failure) &&
      0 < fromLittle (cut blob 10 14) && fromLittle (cut blob 10 14) ≤ 0x1E0000)
    "EOTA v1 状态、槽或长度无效"
  match decodeAscii (cut blob 14 50), decodeAscii (cut blob 50 86) with
  | some receiptDevice, some operationId =>
    require (receiptDevice == deviceId && uuidV4 operationId) "EOTA v1 设备身份或 operation ID 无效"
    return if status == 1 then "prepared" else "failed"
  | _, _ => .error "EOTA v1 UUID 编码无效"

structure Receipt.Regular (r : Receipt) : Prop where
  device : Canonical r.deviceId
  operation : Canonical r.operationId
  slots : (r.sourceSubtype = 0x10 ∧ r.targetSubtype = 0x11) ∨
    (r.sourceSubtype = 0x11 ∧ r.targetSubtype = 0x10)
  size : 1 ≤ r.imageSizeBytes.toNat ∧ r.imageSizeBytes.toNat ≤ 0x1e0000
  status : (r.status = 1 ∧ r.failure = 0) ∨
    (r.status = 2 ∧ [1, 2, 3, 4, 5, 6, 7, 8, 10].contains r.failure)

theorem oppositeSlots_iff (source target : UInt8) :
    oppositeSlots source target = true ↔
      (source = 0x10 ∧ target = 0x11) ∨ (source = 0x11 ∧ target = 0x10) := by
  simp [oppositeSlots, appOta0, appOta1]

theorem recordable_failures (failure : UInt8) :
    recordable failure.toNat = [1, 2, 3, 4, 5, 6, 7, 8, 10].contains failure := by
  have all := uint8_all
    (fun c => recordable c.toNat == [1, 2, 3, 4, 5, 6, 7, 8, 10].contains c) (by decide +kernel) failure
  simpa using all

theorem imageSize_iff (size : UInt32) :
    size ≠ 0 ∧ size ≤ 0x1e0000 ↔ 1 ≤ size.toNat ∧ size.toNat ≤ 0x1e0000 := by
  rw [ne_eq, ← UInt32.toNat_inj, UInt32.le_iff_toNat_le]
  simp only [UInt32.reduceToNat]
  omega

theorem storable_regular (r : Receipt) : r.Storable ↔ r.Regular := by
  constructor
  · rintro ⟨status, slots, size, device, operation⟩
    exact
      { device := (validUuid_canonical _).mp device
        operation := (validUuid_canonical _).mp operation
        slots := (oppositeSlots_iff _ _).mp slots
        size := (imageSize_iff _).mp size
        status := by rwa [recordable_failures] at status }
  · rintro ⟨device, operation, slots, size, status⟩
    exact
      { status := by rwa [← recordable_failures] at status
        slots := (oppositeSlots_iff _ _).mpr slots
        size := (imageSize_iff _).mpr size
        device := (validUuid_canonical _).mpr device
        operation := (validUuid_canonical _).mpr operation }

theorem receiptStore_value (faults : ReceiptStoreFaults) (r : Receipt) (cell : BlobCell) :
    (receiptStore faults r cell).2.value = cell.value ∨
      (receiptStore faults r cell).2.value = some (receiptEncode r) := by
  rcases receiptStore_cases faults r cell with same | ⟨written, _, same, held, -⟩ | ⟨written, same, held⟩
  · rw [same]
    exact .inl rfl
  · rw [same]
    exact .inr held
  · rw [same]
    exact held

theorem register_value (build : EotaBuild) (a : RegisterAnswers) (device : CString) (request : OtaRequest)
    (cell : BlobCell) (slots : oppositeSlots a.preflight.2.runningSubtype a.preflight.2.targetSubtype = true)
    (partition_size : a.observed.2.targetSizeBytes ≤ 0x1e0000) :
    (otaReceiptRegister build a device request cell).2.value = cell.value ∨
      ∃ r : Receipt, r.Regular ∧ r.status = otaStatusPrepared ∧
        (otaReceiptRegister build a device request cell).2.value = some (receiptEncode r) := by
  rcases otaReceiptRegister_cases build a device request cell with ⟨_, -, same⟩ | ⟨passed, -, same⟩
  · rw [same]
    exact .inl rfl
  rw [same]
  refine (receiptStore_value a.store _ cell).imp_right (fun held => ?_)
  have checks := registerRefusal_none build a device request passed
  have size : request.imageSizeBytes ≠ 0 ∧ request.imageSizeBytes ≤ 0x1e0000 := by
    simp only [registerRefusal] at passed
    split_ifs at passed with signed ids observed sized selector
    rw [not_or, UInt32.not_lt] at sized
    exact ⟨sized.1, UInt32.le_trans sized.2 partition_size⟩
  refine ⟨_, (storable_regular _).mp ?_, rfl, held⟩
  exact
    { status := .inl ⟨rfl, rfl⟩
      slots
      size
      device := checks.device
      operation := checks.operation }

theorem recordFailure_value (build : EotaBuild) (a : FailureAnswers) (device operation : CString)
    (error : EotaResult) (cell : BlobCell) :
    (otaReceiptRecordFailure build a device operation error cell).2.value = cell.value ∨
      ∃ r : Receipt, r.Regular ∧ r.status = otaStatusFailed ∧
        (otaReceiptRecordFailure build a device operation error cell).2.value = some (receiptEncode r) := by
  rcases otaReceiptRecordFailure_cases build a device operation error cell with
    ⟨_, -, same⟩ | ⟨allowed, receipt, stored, -, -, same⟩
  · rw [same]
    exact .inl rfl
  rw [same]
  refine (receiptStore_value a.store _ cell).imp_right (fun held => ?_)
  have storable := ((storedReceipt_eq_some_iff cell receipt).mp stored).2
  have small : error < 256 := by
    simp [recordable, eotaUpdateResourceFailure] at allowed
    exact Nat.lt_of_le_of_lt allowed.2 (by decide)
  have code : error.toUInt8.toNat = error := Nat.mod_eq_of_lt small
  refine ⟨_, (storable_regular _).mp ?_, rfl, held⟩
  exact
    { status := .inr ⟨rfl, by rw [failedReceipt, code]; exact allowed⟩
      slots := storable.slots
      size := storable.size
      device := storable.device
      operation := storable.operation }

theorem bytePoint_injective : Function.Injective bytePoint := by
  intro c d same
  have values := congrArg Fin.val same
  exact UInt8.toNat_inj.mp values

theorem decodeAscii_some (bytes : List UInt8) (decoded : Text) :
    decodeAscii bytes = some decoded ↔ bytes.all (· < 0x80) = true ∧ decoded = bytes.map bytePoint := by
  unfold decodeAscii
  split
  next ascii =>
    rw [Option.some.injEq, eq_comm]
    exact ⟨fun same => ⟨ascii, same⟩, And.right⟩
  next other =>
    constructor
    · intro decoded
      cases decoded
    · rintro ⟨ascii, -⟩
      exact absurd ascii other

theorem classAt_nonzero (i : Nat) : classAt i (bytePoint 0) = false := by
  rw [classAt_byte]
  split
  · rfl
  split
  · rfl
  split <;> rfl

theorem uuidV4_field (field : List UInt8) (length : field.length = 36) :
    uuidV4 (field.map bytePoint) = true ↔ Canonical (.ofBytes field) := by
  constructor
  · intro matched
    obtain ⟨-, places⟩ := (uuidV4_places field).mp matched
    have unbroken : 0 ∉ field := by
      intro zero
      obtain ⟨i, inside, here⟩ := List.getElem_of_mem zero
      have place := places i (length ▸ inside)
      rw [List.getD_eq_getElem _ _ inside, here, classAt_nonzero] at place
      cases place
    have same := CString.ofBytes_bytes { bytes := field, unbroken }
    rw [canonical_places, same]
    exact ⟨length, places⟩
  · intro canonical
    have same := CString.bytes_ofBytes field (canonical.length.trans length.symm)
    obtain ⟨-, places⟩ := (canonical_places _).mp canonical
    rw [uuidV4_places]
    simp only [CString.at, same] at places
    exact ⟨length, places⟩

theorem cut_length (blob : List UInt8) (size : blob.length = 118) (start stop : Nat) (inside : stop ≤ 118) :
    (cut blob start stop).length = stop - start := by
  rw [cut, slice, List.length_take, List.length_drop, size]
  omega

theorem header_iff (blob : List UInt8) (size : blob.length = 118) :
    blob.take 5 = otaMagic ++ [1] ↔ blob.take 4 = otaMagic ∧ byteAt blob 4 = 1 := by
  have inside : 4 < blob.length := by omega
  have split : blob.take 5 = blob.take 4 ++ [byteAt blob 4] := by
    rw [byteAt, List.getD_eq_getElem _ _ inside, List.take_append_getElem]
  rw [split]
  constructor
  · intro same
    obtain ⟨magic, version⟩ := List.append_inj' same rfl
    exact ⟨magic, by simpa using version⟩
  · rintro ⟨magic, version⟩
    rw [magic, version]

structure Layout (blob : List UInt8) : Prop where
  size : blob.length = 118
  magic : blob.take 4 = otaMagic
  version : byteAt blob 4 = 1
  reserved : byteAt blob 9 = 0
  slots : oppositeSlots (byteAt blob 6) (byteAt blob 7) = true
  image : get32 blob 10 ≠ 0 ∧ get32 blob 10 ≤ 0x1e0000
  status : (byteAt blob 5 = otaStatusPrepared ∧ byteAt blob 8 = 0) ∨
    (byteAt blob 5 = otaStatusFailed ∧ recordable (byteAt blob 8).toNat = true)

theorem decoded_layout (blob : List UInt8) (r : Receipt) :
    blob.length = 118 ∧ receiptDecode blob = some r ↔
      Layout blob ∧ Canonical (.ofBytes (slice blob 14 36)) ∧ Canonical (.ofBytes (slice blob 50 36)) ∧
        r = receiptFields blob := by
  rw [receiptDecode_eq_some_iff]
  constructor
  · rintro ⟨size, magic, version, reserved, rfl, storable⟩
    exact ⟨⟨size, magic, version, reserved, storable.slots, storable.size, storable.status⟩,
      (validUuid_canonical _).mp storable.device, (validUuid_canonical _).mp storable.operation, rfl⟩
  · rintro ⟨⟨size, magic, version, reserved, slots, image, status⟩, device, operation, rfl⟩
    exact ⟨size, magic, version, reserved, rfl, status, slots, image, (validUuid_canonical _).mpr device,
      (validUuid_canonical _).mpr operation⟩

theorem statusChecks_iff (status failure : UInt8) :
    ([1, 2].contains status && (status != 1 || failure == 0) &&
        (status != 2 || [1, 2, 3, 4, 5, 6, 7, 8, 10].contains failure)) = true ↔
      (status = otaStatusPrepared ∧ failure = 0) ∨
        (status = otaStatusFailed ∧ recordable failure.toNat = true) := by
  rw [recordable_failures, otaStatusPrepared, otaStatusFailed]
  generalize [1, 2, 3, 4, 5, 6, 7, 8, 10].contains failure = allowed
  by_cases one : status = 1
  · subst one
    simp
  by_cases two : status = 2
  · subst two
    simp
  · simp [one, two]

theorem imageChecks_iff (blob : List UInt8) (size : blob.length = 118) :
    (decide (0 < fromLittle (cut blob 10 14)) && decide (fromLittle (cut blob 10 14) ≤ 0x1E0000)) = true ↔
      get32 blob 10 ≠ 0 ∧ get32 blob 10 ≤ 0x1e0000 := by
  have value : fromLittle (cut blob 10 14) = (get32 blob 10).toNat := fromLittle_get32 blob 10 (by omega)
  rw [value, imageSize_iff, Bool.and_eq_true, decide_eq_true_iff, decide_eq_true_iff]
  rfl

theorem fieldChecks_iff (blob : List UInt8) (size : blob.length = 118) :
    ([1, 2].contains (byteAt blob 5) && [(0x10, 0x11), (0x11, 0x10)].contains (byteAt blob 6, byteAt blob 7) &&
        (byteAt blob 5 != 1 || byteAt blob 8 == 0) &&
        (byteAt blob 5 != 2 || [1, 2, 3, 4, 5, 6, 7, 8, 10].contains (byteAt blob 8)) &&
        decide (0 < fromLittle (cut blob 10 14)) && decide (fromLittle (cut blob 10 14) ≤ 0x1E0000)) = true ↔
      ((byteAt blob 5 = otaStatusPrepared ∧ byteAt blob 8 = 0) ∨
        (byteAt blob 5 = otaStatusFailed ∧ recordable (byteAt blob 8).toNat = true)) ∧
      oppositeSlots (byteAt blob 6) (byteAt blob 7) = true ∧
      (get32 blob 10 ≠ 0 ∧ get32 blob 10 ≤ 0x1e0000) := by
  have pairs : [((0x10 : UInt8), (0x11 : UInt8)), (0x11, 0x10)].contains (byteAt blob 6, byteAt blob 7) =
      oppositeSlots (byteAt blob 6) (byteAt blob 7) := by
    rw [Bool.eq_iff_iff, oppositeSlots_iff]
    simp
  rw [← statusChecks_iff, ← imageChecks_iff blob size, pairs]
  simp only [Bool.and_eq_true]
  tauto

theorem validated_layout (blob : List UInt8) (deviceId : Text) (status : String) :
    validateOtaReceipt blob deviceId = .ok status ↔
      Layout blob ∧
        (∃ operation, decodeAscii (slice blob 14 36) = some deviceId ∧
          decodeAscii (slice blob 50 36) = some operation ∧ uuidV4 operation = true) ∧
        status = if byteAt blob 5 = 1 then "prepared" else "failed" := by
  simp only [validateOtaReceipt, bind_ok, require_ok]
  constructor
  · rintro ⟨_, header, _, fields, ids⟩
    simp only [Bool.and_eq_true, beq_iff_eq] at header
    obtain ⟨⟨size, magic⟩, reserved⟩ := header
    obtain ⟨known, slots, image⟩ := (fieldChecks_iff blob size).mp fields
    obtain ⟨magic, version⟩ := (header_iff blob size).mp magic
    refine ⟨⟨size, magic, version, reserved, slots, image, known⟩, ?_⟩
    split at ids
    next receiptDevice operation device operated =>
      simp only [bind_ok, require_ok, Bool.and_eq_true, beq_iff_eq] at ids
      obtain ⟨_, ⟨rfl, matched⟩, done⟩ := ids
      have result := Except.ok.inj done
      exact ⟨⟨operation, device, operated, matched⟩, result.symm⟩
    next => cases ids
  · rintro ⟨layout, ⟨operation, device, operated, matched⟩, rfl⟩
    have magic := (header_iff blob layout.size).mpr ⟨layout.magic, layout.version⟩
    refine ⟨(), by simp [layout.size, magic, layout.reserved], (), ?_, ?_⟩
    · exact (fieldChecks_iff blob layout.size).mpr ⟨layout.status, layout.slots, layout.image⟩
    · rw [cut, cut, device, operated]
      simp [matched, require, bind, Except.bind, pure, Except.pure]

theorem slice_points (blob : List UInt8) (offset : Nat) (device : CString)
    (same : decodeAscii (slice blob offset 36) = some (device.bytes.map bytePoint)) :
    CString.ofBytes (slice blob offset 36) = device := by
  obtain ⟨-, points⟩ := (decodeAscii_some _ _).mp same
  have bytes := List.map_injective_iff.mpr bytePoint_injective points
  rw [← bytes, CString.ofBytes_bytes]

theorem canonical_points (field : List UInt8) (length : field.length = 36)
    (canonical : Canonical (.ofBytes field)) :
    decodeAscii field = some ((CString.ofBytes field).bytes.map bytePoint) := by
  have same := CString.bytes_ofBytes field (canonical.length.trans length.symm)
  have ascii := canonical.ascii
  rw [same] at ascii ⊢
  exact (decodeAscii_some _ _).mpr ⟨ascii, rfl⟩

theorem validateOtaReceipt_iff (blob : List UInt8) (device : CString) (canonical : Canonical device)
    (status : String) :
    validateOtaReceipt blob (device.bytes.map bytePoint) = .ok status ↔
      blob.length = 118 ∧ ∃ r, receiptDecode blob = some r ∧ r.deviceId = device ∧
        status = if r.status = otaStatusPrepared then "prepared" else "failed" := by
  rw [validated_layout]
  constructor
  · rintro ⟨layout, ⟨operation, identity, operated, matched⟩, same⟩
    have held := slice_points blob 14 device identity
    have size := cut_length blob layout.size 50 86 (by decide)
    obtain ⟨-, rfl⟩ := (decodeAscii_some _ _).mp operated
    have decoded := (decoded_layout blob (receiptFields blob)).mpr
      ⟨layout, held ▸ canonical, (uuidV4_field _ size).mp matched, rfl⟩
    exact ⟨layout.size, receiptFields blob, decoded.2, held, same⟩
  · rintro ⟨size, r, decoded, rfl, same⟩
    obtain ⟨layout, -, operation, rfl⟩ := (decoded_layout blob r).mp ⟨size, decoded⟩
    have device_size := cut_length blob size 14 50 (by decide)
    have operation_size := cut_length blob size 50 86 (by decide)
    have spelled := canonical_points _ operation_size operation
    obtain ⟨-, points⟩ := (decodeAscii_some _ _).mp spelled
    have matched := (uuidV4_field _ operation_size).mpr operation
    rw [← points] at matched
    exact ⟨layout, ⟨_, canonical_points _ device_size canonical, spelled, matched⟩, same⟩

theorem receipt_format :
    (∀ r : Receipt, r.Regular → receiptDecode (receiptEncode r) = some r) ∧
    (∀ blob r, blob.length = 118 → receiptDecode blob = some r → receiptEncode r = blob) ∧
    (∀ build a device request (cell : BlobCell),
      oppositeSlots a.preflight.2.runningSubtype a.preflight.2.targetSubtype = true →
      a.observed.2.targetSizeBytes ≤ 0x1e0000 →
      (otaReceiptRegister build a device request cell).2.value = cell.value ∨
        ∃ r : Receipt, r.Regular ∧ r.status = otaStatusPrepared ∧
          (otaReceiptRegister build a device request cell).2.value = some (receiptEncode r)) ∧
    (∀ build a device operation error (cell : BlobCell),
      (otaReceiptRecordFailure build a device operation error cell).2.value = cell.value ∨
        ∃ r : Receipt, r.Regular ∧ r.status = otaStatusFailed ∧
          (otaReceiptRecordFailure build a device operation error cell).2.value = some (receiptEncode r)) ∧
    (∀ blob device, Canonical device → ∀ status,
      validateOtaReceipt blob (device.bytes.map bytePoint) = .ok status ↔
        blob.length = 118 ∧ ∃ r, receiptDecode blob = some r ∧ r.deviceId = device ∧
          status = if r.status = otaStatusPrepared then "prepared" else "failed") := by
  refine ⟨fun r regular => receiptDecode_encode r ((storable_regular r).mpr regular), ?_, ?_, ?_, ?_⟩
  · intro blob r size decoded
    exact receiptEncode_decode blob r size decoded
  · exact register_value
  · exact recordFailure_value
  · exact validateOtaReceipt_iff

def sampleReceipt : Receipt := preparedReceipt (sampleRegister .invalid) sampleDevice firstRequest

theorem receipt_format_sample :
    receiptDecode (receiptEncode sampleReceipt) = some sampleReceipt ∧
      validateOtaReceipt (receiptEncode sampleReceipt) (sampleDevice.bytes.map bytePoint) = .ok "prepared" ∧
      (otaReceiptRegister sampleBuild (sampleRegister .invalid) sampleDevice firstRequest .absent).2.value ≠
        some [] := by
  have format := receipt_format
  have device := (isUuid_canonical sampleDevice).mp (by decide +kernel)
  have operation := (isUuid_canonical firstRequest.operationId).mp (by decide +kernel)
  have regular : sampleReceipt.Regular := ⟨device, operation, .inl ⟨rfl, rfl⟩, by decide, .inl ⟨rfl, rfl⟩⟩
  have decoded := format.1 sampleReceipt regular
  refine ⟨decoded, ?_, ?_⟩
  · exact (format.2.2.2.2 _ _ device _).mpr
      ⟨receiptEncode_length sampleReceipt, sampleReceipt, decoded, rfl, rfl⟩
  · rcases format.2.2.1 sampleBuild (sampleRegister .invalid) sampleDevice firstRequest .absent (by decide)
      (by decide) with same | ⟨r, -, -, held⟩
    · rw [same]
      decide
    · rw [held]
      intro empty
      have size := receiptEncode_length r
      rw [Option.some.inj empty] at size
      cases size

end EspBase

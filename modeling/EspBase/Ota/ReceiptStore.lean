import EspBase.Ota.Receipt
import EspBase.Config.Store

set_option autoImplicit false

namespace EspBase

open DurableCell

inductive OtaReceiptResult where
  | ok
  | unsupported
  | notFound
  | existing
  | conflict
  | busy
  | slotUnavailable
  | selectorMismatch
  | sourceNotValid
  | targetNotSafe
  | targetStateUnknown
  | storageFailure
  | storageUncertain
deriving DecidableEq, Repr

inductive OtaOperationState where
  | unknown
  | running
  | succeeded
  | failed
deriving DecidableEq, Repr

structure OtaReceiptView where
  state : OtaOperationState
  errorCode : Option String
  operationId : CString
  sha256 : Digest
  imageSizeBytes : UInt32
  targetSubtype : UInt8
deriving DecidableEq

def OtaReceiptView.zero : OtaReceiptView :=
  { state := .unknown, errorCode := none, operationId := .empty, sha256 := zeroDigest
    imageSizeBytes := 0, targetSubtype := 0 }

structure ReceiptLoadFaults where
  initPartition : NvsFault := none
  openRead : NvsFault := none
  read : NvsFault := none
deriving DecidableEq

-- A longer blob does not fit the buffer, which the read reports as an error.
def receiptLoad (faults : ReceiptLoadFaults) (cell : BlobCell) : Except OtaReceiptResult Receipt :=
  if faults.initPartition ≠ none then .error .storageUncertain
  else
    match cell.openRead faults.openRead with
    | .missing => .error .notFound
    | .failed _ => .error .storageUncertain
    | .found () =>
      match cell.get faults.read with
      | .missing => .error .notFound
      | .failed _ => .error .storageUncertain
      | .found bytes =>
        if bytes.length ≠ otaBytes then .error .storageUncertain
        else
          match receiptDecode bytes with
          | some receipt => .ok receipt
          | none => .error .storageUncertain

structure ReceiptStoreFaults where
  openWrite : NvsFault := none
  write : WriteFaults Int := { set := none, commit := none, effective := true }
  readback : ReceiptLoadFaults := {}
deriving DecidableEq

def receiptStore (faults : ReceiptStoreFaults) (receipt : Receipt) (cell : BlobCell) :
    OtaReceiptResult × BlobCell :=
  if faults.openWrite ≠ none then (.storageFailure, cell)
  else
    match cell.created.write faults.write (receiptEncode receipt) with
    | (some _, written) => (.storageUncertain, written)
    | (none, written) =>
      match receiptLoad faults.readback written with
      | .error _ => (.storageUncertain, written)
      | .ok observed =>
        if receiptEncode observed = receiptEncode receipt then (.ok, written)
        else (.storageUncertain, written)

structure SlotAnswers where
  observed : EotaResult × EotaSlots
  digest : EotaResult × Digest
deriving DecidableEq

def evaluate (build : EotaBuild) (receipt : Receipt) (workerActive : Bool) (a : SlotAnswers) :
    OtaOperationState × Option String :=
  let uncertain := (OtaOperationState.unknown, some "ota_result_uncertain")
  let slots := a.observed.2
  if workerActive then (.running, none)
  else if a.observed.1 ≠ eotaUpdateOk then uncertain
  else if slots.runningSubtype = receipt.targetSubtype ∧
      slots.bootSubtype = receipt.targetSubtype then
    if slots.runningState = .pendingVerify then (.running, none)
    else if slots.runningState = .valid ∧ a.digest.1 = eotaUpdateOk ∧
        a.digest.2 = receipt.sha256 then (.succeeded, none)
    else uncertain
  else if slots.runningSubtype ≠ receipt.sourceSubtype ∨
      slots.bootSubtype ≠ receipt.sourceSubtype ∨ slots.runningState ≠ .valid then uncertain
  else if receipt.status = otaStatusFailed then (.failed, some (build.error receipt.failure.toNat))
  else if slots.targetSubtype = receipt.targetSubtype ∧
      (slots.targetState = .aborted ∨ slots.targetState = .invalid) then
    (.failed, some "ota_rolled_back")
  else uncertain

structure QueryAnswers where
  load : ReceiptLoadFaults := {}
  slots : SlotAnswers
deriving DecidableEq

def otaReceiptQuery (build : EotaBuild) (a : QueryAnswers) (deviceId operationId : CString)
    (workerActive : Bool) (cell : BlobCell) : OtaReceiptResult × OtaReceiptView :=
  if !build.available then (.unsupported, .zero)
  else if !validUuid deviceId || !validUuid operationId then (.storageFailure, .zero)
  else
    match receiptLoad a.load cell with
    | .error result => (result, .zero)
    | .ok receipt =>
      if receipt.deviceId ≠ deviceId then (.storageUncertain, .zero)
      else if receipt.operationId ≠ operationId then (.notFound, .zero)
      else
        let verdict := evaluate build receipt workerActive a.slots
        (.ok, { state := verdict.1
                errorCode := verdict.2
                operationId := receipt.operationId
                sha256 := receipt.sha256
                imageSizeBytes := receipt.imageSizeBytes
                targetSubtype := receipt.targetSubtype })

structure RegisterAnswers where
  observed : EotaResult × EotaSlots
  preflight : EotaResult × EotaSlots
  load : ReceiptLoadFaults := {}
  previous : SlotAnswers
  store : ReceiptStoreFaults := {}
deriving DecidableEq

def EotaState.settled : EotaState → Bool
  | .untracked | .undefined | .valid | .invalid | .aborted => true
  | _ => false

def registerRefusal (build : EotaBuild) (a : RegisterAnswers) (deviceId : CString)
    (request : OtaRequest) : Option OtaReceiptResult :=
  let slots := a.observed.2
  if !build.available then some .unsupported
  else if !validUuid deviceId || !validUuid request.operationId then some .storageFailure
  else if a.observed.1 ≠ eotaUpdateOk then some .targetStateUnknown
  else if request.imageSizeBytes = 0 ∨ request.imageSizeBytes > slots.targetSizeBytes then
    some .slotUnavailable
  else if slots.runningSubtype ≠ slots.bootSubtype ∨
      slots.runningAddressBytes ≠ slots.bootAddressBytes then some .selectorMismatch
  else if slots.runningState ≠ .valid then some .sourceNotValid
  else if slots.targetState = .new ∨ slots.targetState = .pendingVerify then some .targetNotSafe
  else if !slots.targetState.settled then some .targetStateUnknown
  else if a.preflight.1 ≠ eotaUpdateOk then some .slotUnavailable
  else none

-- `eota_preflight` filled the slots that the receipt records.
def preparedReceipt (a : RegisterAnswers) (deviceId : CString) (request : OtaRequest) : Receipt :=
  { status := otaStatusPrepared
    sourceSubtype := a.preflight.2.runningSubtype
    targetSubtype := a.preflight.2.targetSubtype
    failure := 0
    imageSizeBytes := request.imageSizeBytes
    deviceId := deviceId
    operationId := request.operationId
    sha256 := request.sha256 }

def OtaOperationState.terminal : OtaOperationState → Bool
  | .succeeded | .failed => true
  | _ => false

def otaReceiptRegister (build : EotaBuild) (a : RegisterAnswers) (deviceId : CString)
    (request : OtaRequest) (cell : BlobCell) : OtaReceiptResult × BlobCell :=
  match registerRefusal build a deviceId request with
  | some refusal => (refusal, cell)
  | none =>
    match receiptLoad a.load cell with
    | .error .notFound => receiptStore a.store (preparedReceipt a deviceId request) cell
    | .error result => (result, cell)
    | .ok previous =>
      if previous.deviceId ≠ deviceId then (.storageUncertain, cell)
      else if previous.operationId = request.operationId then
        if previous.imageSizeBytes = request.imageSizeBytes ∧ previous.sha256 = request.sha256 then
          (.existing, cell)
        else (.conflict, cell)
      else if !(evaluate build previous false a.previous).1.terminal then (.busy, cell)
      else receiptStore a.store (preparedReceipt a deviceId request) cell

structure FailureAnswers where
  load : ReceiptLoadFaults := {}
  store : ReceiptStoreFaults := {}
deriving DecidableEq

def failedReceipt (receipt : Receipt) (error : EotaResult) : Receipt :=
  { receipt with status := otaStatusFailed, failure := error.toUInt8 }

def otaReceiptRecordFailure (build : EotaBuild) (a : FailureAnswers)
    (deviceId operationId : CString) (error : EotaResult) (cell : BlobCell) :
    OtaReceiptResult × BlobCell :=
  if !build.available then (.unsupported, cell)
  else if !validUuid deviceId || !validUuid operationId || !recordable error then
    (.storageFailure, cell)
  else
    match receiptLoad a.load cell with
    | .error result => (result, cell)
    | .ok receipt =>
      if receipt.deviceId ≠ deviceId ∨ receipt.operationId ≠ operationId then
        (.storageUncertain, cell)
      else receiptStore a.store (failedReceipt receipt error) cell

def storedReceipt (cell : BlobCell) : Option Receipt :=
  match cell.value with
  | none => none
  | some bytes => if bytes.length = otaBytes then receiptDecode bytes else none

theorem storedReceipt_eq_some_iff (cell : BlobCell) (r : Receipt) :
    storedReceipt cell = some r ↔ cell.value = some (receiptEncode r) ∧ r.Storable := by
  constructor
  · intro stored
    unfold storedReceipt at stored
    split at stored
    · cases stored
    next bytes held =>
      split at stored
      next exact_size =>
        have encoded := receiptEncode_decode bytes r exact_size stored
        have storable := ((receiptDecode_eq_some_iff bytes r).mp stored).2.2.2.2
        exact ⟨encoded ▸ held, storable⟩
      next => cases stored
  · rintro ⟨held, storable⟩
    simp [storedReceipt, held, receiptEncode_length, receiptDecode_encode r storable]

theorem receiptLoad_ok (faults : ReceiptLoadFaults) (cell : BlobCell) (r : Receipt)
    (loaded : receiptLoad faults cell = .ok r) : storedReceipt cell = some r := by
  unfold receiptLoad at loaded
  split at loaded
  · cases loaded
  split at loaded
  · cases loaded
  · cases loaded
  split at loaded
  · cases loaded
  · cases loaded
  next bytes found =>
    split at loaded
    · cases loaded
    next exact_size =>
      split at loaded
      next decoded =>
        cases loaded
        simp only [storedReceipt, get_found _ _ _ found, if_pos (not_not.mp exact_size), decoded]
      next => cases loaded

theorem receiptLoad_error (faults : ReceiptLoadFaults) (cell : BlobCell) (error : OtaReceiptResult)
    (failed : receiptLoad faults cell = .error error) :
    (error = .notFound ∧ cell.value = none) ∨ error = .storageUncertain := by
  unfold receiptLoad at failed
  split at failed
  · cases failed
    exact .inr rfl
  split at failed
  next missing =>
    cases failed
    exact .inl ⟨rfl, openRead_missing _ _ missing⟩
  next =>
    cases failed
    exact .inr rfl
  split at failed
  next missing =>
    cases failed
    exact .inl ⟨rfl, get_missing _ _ missing⟩
  next =>
    cases failed
    exact .inr rfl
  split at failed
  · cases failed
    exact .inr rfl
  split at failed
  · cases failed
  · cases failed
    exact .inr rfl

-- Nothing but a fault keeps a stored receipt from being read.
theorem receiptLoad_stored (cell : BlobCell) (r : Receipt) (stored : storedReceipt cell = some r) :
    receiptLoad {} cell = .ok r := by
  obtain ⟨held, storable⟩ := (storedReceipt_eq_some_iff cell r).mp stored
  cases cell with
  | holds bytes =>
    obtain rfl : bytes = receiptEncode r := Option.some.inj held
    simp [receiptLoad, Cell.openRead, Cell.get, receiptEncode_length,
      receiptDecode_encode r storable]
  | absent => cases held
  | vacant => cases held

theorem receiptStore_cases (faults : ReceiptStoreFaults) (r : Receipt) (cell : BlobCell) :
    receiptStore faults r cell = (.storageFailure, cell) ∨
      (∃ written observed, receiptStore faults r cell = (.ok, written) ∧
        written.value = some (receiptEncode r) ∧ observed.Storable ∧
        receiptEncode observed = receiptEncode r) ∨
      (∃ written, receiptStore faults r cell = (.storageUncertain, written) ∧
        (written.value = cell.value ∨ written.value = some (receiptEncode r))) := by
  unfold receiptStore
  split
  · exact .inl rfl
  refine .inr ?_
  have either := write_value cell.created faults.write (receiptEncode r)
  have meaning (written : BlobCell) (error : Option Int)
      (wrote : cell.created.write faults.write (receiptEncode r) = (error, written)) :
      written.value = cell.value ∨ written.value = some (receiptEncode r) := by
    rw [wrote, created_value] at either
    exact either.symm
  split
  next error written wrote => exact .inr ⟨written, rfl, meaning written _ wrote⟩
  next written wrote =>
    split
    · exact .inr ⟨written, rfl, meaning written _ wrote⟩
    next observed loaded =>
      obtain ⟨held, storable⟩ := (storedReceipt_eq_some_iff _ _).mp (receiptLoad_ok _ _ _ loaded)
      split
      next same => exact .inl ⟨written, observed, rfl, same ▸ held, storable, same⟩
      next => exact .inr ⟨written, rfl, meaning written _ wrote⟩

theorem receiptEncode_injective (r s : Receipt) (deviceR : r.deviceId.bytes.length = 36)
    (operationR : r.operationId.bytes.length = 36) (deviceS : s.deviceId.bytes.length = 36)
    (operationS : s.operationId.bytes.length = 36) (same : receiptEncode r = receiptEncode s) :
    r = s := by
  rw [← receiptFields_encode r deviceR operationR, same, receiptFields_encode s deviceS operationS]

theorem receiptStore_ok (faults : ReceiptStoreFaults) (r : Receipt) (cell written : BlobCell)
    (device : r.deviceId.bytes.length = 36) (operation : r.operationId.bytes.length = 36)
    (stored : receiptStore faults r cell = (.ok, written)) : storedReceipt written = some r := by
  rcases receiptStore_cases faults r cell with same | ⟨_, observed, same, held, storable, encoded⟩ |
    ⟨_, same, -⟩ <;> rw [stored] at same <;> cases same
  have same := receiptEncode_injective observed r (validUuid_length _ storable.device)
    (validUuid_length _ storable.operation) device operation encoded
  exact (storedReceipt_eq_some_iff _ _).mpr ⟨held, same ▸ storable⟩

theorem registerRefusal_ne_ok (build : EotaBuild) (a : RegisterAnswers) (deviceId : CString)
    (request : OtaRequest) : registerRefusal build a deviceId request ≠ some .ok := by
  intro refused
  simp only [registerRefusal] at refused
  split_ifs at refused <;> cases refused

structure RegisterPassed (build : EotaBuild) (a : RegisterAnswers) (deviceId : CString)
    (request : OtaRequest) : Prop where
  available : build.available
  device : validUuid deviceId
  operation : validUuid request.operationId
  observed : a.observed.1 = eotaUpdateOk
  selector : a.observed.2.runningSubtype = a.observed.2.bootSubtype
  source : a.observed.2.runningState = .valid
  preflight : a.preflight.1 = eotaUpdateOk

theorem registerRefusal_none (build : EotaBuild) (a : RegisterAnswers) (deviceId : CString)
    (request : OtaRequest) (passed : registerRefusal build a deviceId request = none) :
    RegisterPassed build a deviceId request := by
  simp only [registerRefusal] at passed
  split_ifs at passed with signed ids observed size selector source target settled preflight
  simp only [Bool.not_eq_true', Bool.not_eq_false, Bool.or_eq_true, not_or, not_not] at *
  exact ⟨signed, ids.1, ids.2, observed, selector.1, source, preflight⟩

theorem otaReceiptRegister_cases (build : EotaBuild) (a : RegisterAnswers) (deviceId : CString)
    (request : OtaRequest) (cell : BlobCell) :
    (∃ result, result ≠ .ok ∧ otaReceiptRegister build a deviceId request cell = (result, cell)) ∨
      (registerRefusal build a deviceId request = none ∧
        (cell.value = none ∨ ∃ previous, storedReceipt cell = some previous ∧
          previous.deviceId = deviceId ∧ previous.operationId ≠ request.operationId ∧
          (evaluate build previous false a.previous).1.terminal) ∧
        otaReceiptRegister build a deviceId request cell =
          receiptStore a.store (preparedReceipt a deviceId request) cell) := by
  unfold otaReceiptRegister
  split
  next refusal refused =>
    refine .inl ⟨refusal, ?_, rfl⟩
    rintro rfl
    exact registerRefusal_ne_ok _ _ _ _ refused
  next passed =>
    split
    next missing =>
      rcases receiptLoad_error _ _ _ missing with ⟨-, empty⟩ | wrong
      · exact .inr ⟨passed, .inl empty, rfl⟩
      · cases wrong
    next result _ failed =>
      refine .inl ⟨result, ?_, rfl⟩
      rintro rfl
      rcases receiptLoad_error _ _ _ failed with ⟨wrong, -⟩ | wrong <;> cases wrong
    next previous loaded =>
      have stored := receiptLoad_ok _ _ _ loaded
      split
      · exact .inl ⟨_, by decide, rfl⟩
      next sameDevice =>
        split
        · split
          · exact .inl ⟨_, by decide, rfl⟩
          · exact .inl ⟨_, by decide, rfl⟩
        next otherOperation =>
          split
          · exact .inl ⟨_, by decide, rfl⟩
          next terminal =>
            refine .inr ⟨passed, .inr ⟨previous, stored, not_not.mp sameDevice, otherOperation, ?_⟩, rfl⟩
            simpa using terminal

theorem otaReceiptRegister_ok (build : EotaBuild) (a : RegisterAnswers) (deviceId : CString)
    (request : OtaRequest) (cell after : BlobCell)
    (registered : otaReceiptRegister build a deviceId request cell = (.ok, after)) :
    RegisterPassed build a deviceId request ∧
      storedReceipt after = some (preparedReceipt a deviceId request) ∧
      (cell.value = none ∨ ∃ previous, storedReceipt cell = some previous ∧
        previous.operationId ≠ request.operationId ∧
        (evaluate build previous false a.previous).1.terminal) := by
  rcases otaReceiptRegister_cases build a deviceId request cell with
    ⟨result, refused, same⟩ | ⟨passed, free, same⟩
  · rw [registered] at same
    cases same
    exact absurd rfl refused
  · rw [registered] at same
    have passed := registerRefusal_none _ _ _ _ passed
    refine ⟨passed, ?_, ?_⟩
    · exact receiptStore_ok _ _ _ _ (validUuid_length _ passed.device)
        (validUuid_length _ passed.operation) same.symm
    · rcases free with empty | ⟨previous, stored, -, other, terminal⟩
      · exact .inl empty
      · exact .inr ⟨previous, stored, other, terminal⟩

theorem otaReceiptRecordFailure_cases (build : EotaBuild) (a : FailureAnswers)
    (deviceId operationId : CString) (error : EotaResult) (cell : BlobCell) :
    (∃ result, result ≠ .ok ∧
        otaReceiptRecordFailure build a deviceId operationId error cell = (result, cell)) ∨
      (recordable error ∧ ∃ receipt, storedReceipt cell = some receipt ∧
        receipt.deviceId = deviceId ∧ receipt.operationId = operationId ∧
        otaReceiptRecordFailure build a deviceId operationId error cell =
          receiptStore a.store (failedReceipt receipt error) cell) := by
  unfold otaReceiptRecordFailure
  split
  · exact .inl ⟨_, by decide, rfl⟩
  split
  · exact .inl ⟨_, by decide, rfl⟩
  next valid =>
    split
    next result failed =>
      refine .inl ⟨result, ?_, rfl⟩
      rintro rfl
      rcases receiptLoad_error _ _ _ failed with ⟨wrong, -⟩ | wrong <;> cases wrong
    next receipt loaded =>
      split
      · exact .inl ⟨_, by decide, rfl⟩
      next same =>
        simp only [not_or, not_not, Bool.or_eq_true, Bool.not_eq_true'] at same valid
        refine .inr ⟨by simpa using valid.2, receipt, receiptLoad_ok _ _ _ loaded, same.1, same.2, rfl⟩

theorem otaReceiptRecordFailure_ok (build : EotaBuild) (a : FailureAnswers)
    (deviceId operationId : CString) (error : EotaResult) (cell after : BlobCell)
    (recorded : otaReceiptRecordFailure build a deviceId operationId error cell = (.ok, after)) :
    recordable error ∧ ∃ receipt, storedReceipt cell = some receipt ∧
      receipt.deviceId = deviceId ∧ receipt.operationId = operationId ∧
      storedReceipt after = some (failedReceipt receipt error) := by
  rcases otaReceiptRecordFailure_cases build a deviceId operationId error cell with
    ⟨result, refused, same⟩ | ⟨valid, receipt, stored, device, operation, same⟩
  · rw [recorded] at same
    cases same
    exact absurd rfl refused
  · rw [recorded] at same
    have storable := ((storedReceipt_eq_some_iff _ _).mp stored).2
    exact ⟨valid, receipt, stored, device, operation,
      receiptStore_ok _ (failedReceipt receipt error) _ _ (validUuid_length _ storable.device)
        (validUuid_length _ storable.operation) same.symm⟩

end EspBase

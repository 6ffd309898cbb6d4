import EspBase.Ota.ReceiptStore
import EspBase.Shared.Run

set_option autoImplicit false

/-!
# Runs of receipt operations on one device

A reboot changes nothing here: only the stored blob is carried from call to call.
-/

namespace EspBase

open DurableCell Bytes Transition

inductive ReceiptOp where
  | register (a : RegisterAnswers) (request : OtaRequest)
  | recordFailure (a : FailureAnswers) (operationId : CString) (error : EotaResult)
  | query (a : QueryAnswers) (operationId : CString) (workerActive : Bool)
deriving DecidableEq

variable (build : EotaBuild) (deviceId : CString)

def receiptOutcome : ReceiptOp → BlobCell → OtaReceiptResult × BlobCell
  | .register a request, cell => otaReceiptRegister build a deviceId request cell
  | .recordFailure a operationId error, cell =>
    otaReceiptRecordFailure build a deviceId operationId error cell
  | .query a operationId workerActive, cell =>
    ((otaReceiptQuery build a deviceId operationId workerActive cell).1, cell)

def receiptStep (op : ReceiptOp) (cell : BlobCell) : BlobCell :=
  (receiptOutcome build deviceId op cell).2

theorem failedReceipt_encode (receipt : Receipt) (error : EotaResult) :
    receiptEncode (failedReceipt receipt error) =
      ((receiptEncode receipt).set 5 otaStatusFailed).set 8 error.toUInt8 := by
  simp only [receiptEncode, failedReceipt, otaMagic, List.append_assoc, List.cons_append,
    List.nil_append, List.set_cons_succ, List.set_cons_zero]

def operationField (bytes : List UInt8) : List UInt8 := slice bytes 50 36

theorem failedReceipt_operation (receipt : Receipt) (error : EotaResult) :
    operationField (receiptEncode (failedReceipt receipt error)) =
      operationField (receiptEncode receipt) := by
  rw [failedReceipt_encode]
  simp [operationField, slice, List.drop_set_of_lt]

theorem receiptStore_either (faults : ReceiptStoreFaults) (r : Receipt) (cell : BlobCell) :
    (receiptStore faults r cell).2.value = cell.value ∨
      (receiptStore faults r cell).2.value = some (receiptEncode r) := by
  rcases receiptStore_cases faults r cell with same | ⟨written, _, same, held, -⟩ |
    ⟨written, same, either⟩ <;> rw [same]
  · exact .inl rfl
  · exact .inr held
  · exact either

theorem receiptStore_ok_value (faults : ReceiptStoreFaults) (r : Receipt) (cell : BlobCell)
    (ok : (receiptStore faults r cell).1 = .ok) :
    (receiptStore faults r cell).2.value = some (receiptEncode r) := by
  rcases receiptStore_cases faults r cell with same | ⟨written, _, same, held, -⟩ |
    ⟨written, same, -⟩ <;> rw [same] at ok ⊢
  · cases ok
  · exact held
  · cases ok

theorem receiptStore_certain (faults : ReceiptStoreFaults) (r : Receipt) (cell : BlobCell)
    (notOk : (receiptStore faults r cell).1 ≠ .ok)
    (certain : (receiptStore faults r cell).1 ≠ .storageUncertain) :
    (receiptStore faults r cell).2.value = cell.value := by
  rcases receiptStore_cases faults r cell with same | ⟨written, _, same, -⟩ |
    ⟨written, same, -⟩ <;> rw [same] at notOk certain ⊢
  · exact absurd rfl notOk
  · exact absurd rfl certain

theorem terminal_iff (state : OtaOperationState) :
    state.terminal ↔ state = .succeeded ∨ state = .failed := by
  cases state <;> simp [OtaOperationState.terminal]

theorem receipt_evidence_kept (earlier : List ReceiptOp) (start : BlobCell) (op : ReceiptOp) :
    let before := run (receiptStep build deviceId) earlier start
    let result := (receiptOutcome build deviceId op before).1
    let after := receiptStep build deviceId op before
    (∀ bytes next, before.value = some bytes → after.value = some next →
        operationField next ≠ operationField bytes →
        ∃ a request previous, op = .register a request ∧ storedReceipt before = some previous ∧
          ((evaluate build previous false a.previous).1 = .succeeded ∨
            (evaluate build previous false a.previous).1 = .failed)) ∧
      (∀ a operationId error, op = .recordFailure a operationId error →
        after.value = before.value ∨ ∃ bytes status failure, before.value = some bytes ∧
          after.value = some ((bytes.set 5 status).set 8 failure)) ∧
      (∀ a request, op = .register a request → result = .ok →
        after.value = some (receiptEncode (preparedReceipt a deviceId request))) ∧
      (result ≠ .ok → result ≠ .storageUncertain → after.value = before.value) ∧
      (∀ a operationId workerActive, op = .query a operationId workerActive → after = before) := by
  intro before result after
  cases op with
  | register a request =>
    rcases otaReceiptRegister_cases build a deviceId request before with
      ⟨refusal, refused, same⟩ | ⟨passed, free, same⟩
    · have kept : after = before := congrArg Prod.snd same
      have refusal_result : result = refusal := congrArg Prod.fst same
      refine ⟨?_, by simp, ?_, fun _ _ => by rw [kept], by simp⟩
      · intro bytes next held now other
        rw [kept, held] at now
        exact absurd (congrArg operationField (Option.some.inj now).symm) other
      · intro _ _ _ ok
        exact absurd (refusal_result.symm.trans ok) refused
    · have stored_after : after = (receiptStore a.store (preparedReceipt a deviceId request) before).2 :=
        congrArg Prod.snd same
      have store_result : result = (receiptStore a.store (preparedReceipt a deviceId request) before).1 :=
        congrArg Prod.fst same
      refine ⟨?_, by simp, ?_, ?_, by simp⟩
      · intro bytes next held now other
        rcases free with empty | ⟨previous, stored, -, -, terminal⟩
        · rw [held] at empty
          cases empty
        · exact ⟨a, request, previous, rfl, stored, (terminal_iff _).mp terminal⟩
      · intro a' request' op ok
        cases op
        rw [stored_after]
        exact receiptStore_ok_value _ _ _ (store_result ▸ ok)
      · intro notOk certain
        rw [stored_after]
        exact receiptStore_certain _ _ _ (store_result ▸ notOk) (store_result ▸ certain)
  | recordFailure a operationId error =>
    rcases otaReceiptRecordFailure_cases build a deviceId operationId error before with
      ⟨refusal, refused, same⟩ | ⟨-, receipt, stored, -, -, same⟩
    · have kept : after = before := congrArg Prod.snd same
      refine ⟨?_, fun _ _ _ _ => .inl (by rw [kept]), by simp, fun _ _ => by rw [kept], by simp⟩
      intro bytes next held now other
      rw [kept, held] at now
      exact absurd (congrArg operationField (Option.some.inj now).symm) other
    · have stored_after : after = (receiptStore a.store (failedReceipt receipt error) before).2 :=
        congrArg Prod.snd same
      have store_result : result = (receiptStore a.store (failedReceipt receipt error) before).1 :=
        congrArg Prod.fst same
      have held := ((storedReceipt_eq_some_iff _ _).mp stored).1
      have either := receiptStore_either a.store (failedReceipt receipt error) before
      rw [← stored_after] at either
      refine ⟨?_, ?_, by simp, ?_, by simp⟩
      · intro bytes next old now other
        obtain rfl : receiptEncode receipt = bytes := Option.some.inj (held.symm.trans old)
        rcases either with kept | replaced
        · rw [now, old] at kept
          exact absurd (congrArg operationField (Option.some.inj kept)) other
        · obtain rfl := Option.some.inj (now.symm.trans replaced)
          exact absurd (failedReceipt_operation receipt error) other
      · intro _ _ _ _
        refine either.imp_right (fun replaced => ?_)
        rw [failedReceipt_encode] at replaced
        exact ⟨_, _, _, held, replaced⟩
      · intro notOk certain
        rw [stored_after]
        exact receiptStore_certain _ _ _ (store_result ▸ notOk) (store_result ▸ certain)
  | query a operationId workerActive =>
    refine ⟨?_, by simp, by simp, fun _ _ => rfl, fun _ _ _ _ => rfl⟩
    intro bytes next held now other
    have same : bytes = next := Option.some.inj (held.symm.trans now)
    exact absurd (congrArg operationField same.symm) other

-- One reading of the slots: it fails, or it is `slots`.
def readsAs (slots : EotaSlots) (answer : EotaResult × EotaSlots) : Prop :=
  answer.1 = eotaUpdateOk → answer.2 = slots

def ReceiptOp.observes (slots : EotaSlots) : ReceiptOp → Prop
  | .register a _ => readsAs slots a.observed ∧ readsAs slots a.previous.observed
  | .recordFailure _ _ _ => True
  | .query a _ _ => readsAs slots a.slots.observed

/-- Every observation of the run is `slots`, and it stores no failure of `operationId`. -/
structure Undisturbed (slots : EotaSlots) (operationId : CString) (labels : List ReceiptOp)
    (start : BlobCell) : Prop where
  slots : ∀ op ∈ labels, op.observes slots
  failures : ∀ earlier later a error, labels = earlier ++ .recordFailure a operationId error :: later →
    (receiptStep build deviceId (.recordFailure a operationId error)
      (run (receiptStep build deviceId) earlier start)).value =
        (run (receiptStep build deviceId) earlier start).value

def EotaSlots.staleTarget (slots : EotaSlots) : Bool :=
  slots.targetState == .aborted || slots.targetState == .invalid

structure PreparedAt (slots : EotaSlots) (receipt : Receipt) : Prop where
  status : receipt.status = otaStatusPrepared
  source : receipt.sourceSubtype = slots.runningSubtype
  target : receipt.targetSubtype = slots.targetSubtype
  opposite : receipt.sourceSubtype ≠ receipt.targetSubtype
  selector : slots.runningSubtype = slots.bootSubtype
  valid : slots.runningState = .valid

theorem oppositeSlots_ne (source target : UInt8) (opposite : oppositeSlots source target) :
    source ≠ target := by
  rintro rfl
  simp only [oppositeSlots, Bool.or_eq_true, Bool.and_eq_true, beq_iff_eq] at opposite
  rcases opposite with ⟨first, second⟩ | ⟨first, second⟩
  · exact absurd (first.symm.trans second) (by decide)
  · exact absurd (first.symm.trans second) (by decide)

theorem evaluate_prepared (slots : EotaSlots) (receipt : Receipt)
    (prepared : PreparedAt slots receipt) (a : SlotAnswers) (reads : readsAs slots a.observed) :
    (evaluate build receipt false a).1 =
      if a.observed.1 = eotaUpdateOk ∧ slots.staleTarget then .failed else .unknown := by
  by_cases observed : a.observed.1 = eotaUpdateOk
  · have running : slots.runningSubtype = receipt.sourceSubtype := prepared.source.symm
    have boot : slots.bootSubtype = receipt.sourceSubtype :=
      (prepared.source.trans prepared.selector).symm
    have target : slots.targetSubtype = receipt.targetSubtype := prepared.target.symm
    have distinct : otaStatusPrepared ≠ otaStatusFailed := by decide
    simp only [evaluate, observed, reads observed, running, boot, target, prepared.opposite,
      prepared.valid, prepared.status, distinct, EotaSlots.staleTarget]
    cases slots.targetState <;> simp
  · simp [evaluate, observed]

-- A recorded failure is reported while the source slot runs, boots and is valid.
theorem evaluate_failed (receipt : Receipt) (a : SlotAnswers) (storable : receipt.Storable)
    (status : receipt.status = otaStatusFailed) (observed : a.observed.1 = eotaUpdateOk)
    (running : a.observed.2.runningSubtype = receipt.sourceSubtype)
    (boot : a.observed.2.bootSubtype = receipt.sourceSubtype)
    (valid : a.observed.2.runningState = .valid) :
    evaluate build receipt false a = (.failed, some (build.error receipt.failure.toNat)) := by
  have opposite := oppositeSlots_ne _ _ storable.slots
  simp [evaluate, observed, running, boot, valid, status, opposite]

theorem register_preparedAt (a : RegisterAnswers) (request : OtaRequest) (slots : EotaSlots)
    (cell after : BlobCell) (observed : a.observed.2 = slots) (preflight : a.preflight.2 = slots)
    (registered : otaReceiptRegister build a deviceId request cell = (.ok, after)) :
    PreparedAt slots (preparedReceipt a deviceId request) := by
  obtain ⟨passed, stored, -⟩ := otaReceiptRegister_ok _ _ _ _ _ _ registered
  have storable := ((storedReceipt_eq_some_iff _ _).mp stored).2
  refine ⟨rfl, ?_, ?_, oppositeSlots_ne _ _ storable.slots, ?_, ?_⟩
  · rw [← preflight]
    rfl
  · rw [← preflight]
    rfl
  · rw [← observed]
    exact passed.selector
  · rw [← observed]
    exact passed.source

theorem undisturbed_prepared (slots : EotaSlots) (receipt : Receipt)
    (prepared : PreparedAt slots receipt) (fresh : slots.staleTarget = false)
    (labels : List ReceiptOp) (start : BlobCell) (stored : storedReceipt start = some receipt)
    (undisturbed : Undisturbed build deviceId slots receipt.operationId labels start) :
    storedReceipt (run (receiptStep build deviceId) labels start) = some receipt := by
  refine @run_invariant_at _ _ _ (fun cell => storedReceipt cell = some receipt) labels start ?_ stored
  intro earlier label later split held
  have observes := undisturbed.slots label (by simp [split])
  cases label with
  | register a request =>
    rcases otaReceiptRegister_cases build a deviceId request
      (run (receiptStep build deviceId) earlier start) with ⟨_, -, same⟩ | ⟨-, free, -⟩
    · rw [receiptStep, receiptOutcome, same]
      exact held
    · rcases free with empty | ⟨previous, same, -, -, terminal⟩
      · simp [storedReceipt, empty] at held
      · obtain rfl := Option.some.inj (held.symm.trans same)
        rw [evaluate_prepared build slots receipt prepared a.previous observes.2, fresh] at terminal
        simp [OtaOperationState.terminal] at terminal
  | recordFailure a operationId error =>
    by_cases own : operationId = receipt.operationId
    · subst own
      have kept := undisturbed.failures earlier later a error split
      rw [storedReceipt, kept]
      exact held
    · rcases otaReceiptRecordFailure_cases build a deviceId operationId error
        (run (receiptStep build deviceId) earlier start) with ⟨_, -, same⟩ | ⟨-, other, same, -, id, -⟩
      · rw [receiptStep, receiptOutcome, same]
        exact held
      · obtain rfl := Option.some.inj (held.symm.trans same)
        exact absurd id.symm own
  | query a operationId workerActive => exact held

theorem otaReceiptQuery_stored (a : QueryAnswers) (workerActive : Bool) (cell : BlobCell)
    (receipt : Receipt) (operationId : CString) (stored : storedReceipt cell = some receipt)
    (ok : (otaReceiptQuery build a deviceId operationId workerActive cell).1 = .ok) :
    (otaReceiptQuery build a deviceId operationId workerActive cell).2.state =
      (evaluate build receipt workerActive a.slots).1 := by
  revert ok
  unfold otaReceiptQuery
  split_ifs
  · simp
  · simp
  split
  next result failed =>
    rintro rfl
    rcases receiptLoad_error _ _ _ failed with ⟨wrong, -⟩ | wrong <;> cases wrong
  next loaded found =>
    obtain rfl := Option.some.inj (stored.symm.trans (receiptLoad_ok _ _ _ found))
    split_ifs <;> simp

theorem otaReceiptQuery_loaded (a : QueryAnswers) (workerActive : Bool) (cell : BlobCell)
    (receipt : Receipt) (available : build.available) (loaded : receiptLoad a.load cell = .ok receipt)
    (own : receipt.deviceId = deviceId) :
    otaReceiptQuery build a deviceId receipt.operationId workerActive cell =
      (.ok, { state := (evaluate build receipt workerActive a.slots).1
              errorCode := (evaluate build receipt workerActive a.slots).2
              operationId := receipt.operationId
              sha256 := receipt.sha256
              imageSizeBytes := receipt.imageSizeBytes
              targetSubtype := receipt.targetSubtype }) := by
  have storable := ((storedReceipt_eq_some_iff _ _).mp (receiptLoad_ok _ _ _ loaded)).2
  subst own
  simp [otaReceiptQuery, available, storable.device, storable.operation, loaded]

def sampleBuild : EotaBuild := { available := true, error := fun _ => "resource_failure" }

def sampleDevice : CString := .ofBytes (bytesOf "1a2b3c4d-0000-4000-8000-000000000001")

def sampleRequest (operationId : String) : OtaRequest :=
  { operationId := .ofBytes (bytesOf operationId)
    imageUrl := .ofBytes (bytesOf "https://updates.example/image.bin")
    sha256 := zeroDigest
    imageSizeBytes := 4096 }

def firstRequest : OtaRequest := sampleRequest "1a2b3c4d-0000-4000-8000-00000000000a"
def secondRequest : OtaRequest := sampleRequest "1a2b3c4d-0000-4000-8000-00000000000b"

def sampleSlots (target : EotaState) : EotaSlots :=
  { runningSubtype := appOta0
    bootSubtype := appOta0
    targetSubtype := appOta1
    runningAddressBytes := 0x20000
    bootAddressBytes := 0x20000
    targetAddressBytes := 0x200000
    runningSizeBytes := 0x1e0000
    bootSizeBytes := 0x1e0000
    targetSizeBytes := 0x1e0000
    runningState := .valid
    targetState := target }

def sampleAnswers (target : EotaState) : SlotAnswers :=
  { observed := (eotaUpdateOk, sampleSlots target), digest := (eotaUpdateOk, zeroDigest) }

def sampleRegister (target : EotaState) : RegisterAnswers :=
  { observed := (eotaUpdateOk, sampleSlots target)
    preflight := (eotaUpdateOk, sampleSlots target)
    previous := sampleAnswers target }

/-- While nothing happens to the slots, `failed` is reported exactly for a target that was
ABORTED or INVALID before the operation was registered. -/
theorem query_fails_iff_stale (a : RegisterAnswers) (request : OtaRequest) (slots : EotaSlots)
    (cell after : BlobCell) (observed : a.observed.2 = slots) (preflight : a.preflight.2 = slots)
    (registered : otaReceiptRegister build a deviceId request cell = (.ok, after)) :
    (∀ labels, Undisturbed build deviceId slots request.operationId labels after →
        ∀ q : QueryAnswers, readsAs slots q.slots.observed →
        (otaReceiptQuery build q deviceId request.operationId false
          (run (receiptStep build deviceId) labels after)).1 = .ok →
        (otaReceiptQuery build q deviceId request.operationId false
          (run (receiptStep build deviceId) labels after)).2.state ≠ .failed) ↔
      ¬(slots.targetState = .aborted ∨ slots.targetState = .invalid) := by
  obtain ⟨passed, stored, -⟩ := otaReceiptRegister_ok _ _ _ _ _ _ registered
  have prepared := register_preparedAt _ _ _ _ slots _ _ observed preflight registered
  have stale_iff : slots.staleTarget ↔ slots.targetState = .aborted ∨ slots.targetState = .invalid := by
    simp [EotaSlots.staleTarget]
  rw [← stale_iff]
  constructor
  · intro never stale
    have reading := otaReceiptQuery_loaded build deviceId
      { load := {}, slots := ⟨(eotaUpdateOk, slots), (eotaUpdateOk, zeroDigest)⟩ } false after
      (preparedReceipt a deviceId request) passed.available (receiptLoad_stored _ _ stored) rfl
    have nothing : Undisturbed build deviceId slots request.operationId [] after :=
      ⟨by simp, by simp⟩
    refine never [] nothing _ (fun _ => rfl) (congrArg Prod.fst reading) ?_
    have verdict := evaluate_prepared build slots _ prepared
      ⟨(eotaUpdateOk, slots), (eotaUpdateOk, zeroDigest)⟩ (fun _ => rfl)
    rw [if_pos ⟨rfl, stale⟩] at verdict
    exact (congrArg (fun answer => answer.2.state) reading).trans verdict
  · intro fresh labels undisturbed q reads ok failed
    have fresh : slots.staleTarget = false := by simpa using fresh
    have still := undisturbed_prepared build deviceId slots _ prepared fresh labels after stored
      undisturbed
    rw [otaReceiptQuery_stored build deviceId q false _ _ _ still ok,
      evaluate_prepared build slots _ prepared _ reads, fresh] at failed
    simp at failed

theorem query_fails_iff_stale_untracked :
    (∀ labels, Undisturbed sampleBuild sampleDevice (sampleSlots .untracked)
          firstRequest.operationId labels
          (otaReceiptRegister sampleBuild (sampleRegister .untracked) sampleDevice firstRequest
            .absent).2 →
        ∀ q : QueryAnswers, readsAs (sampleSlots .untracked) q.slots.observed →
        (otaReceiptQuery sampleBuild q sampleDevice firstRequest.operationId false
          (run (receiptStep sampleBuild sampleDevice) labels
            (otaReceiptRegister sampleBuild (sampleRegister .untracked) sampleDevice firstRequest
              .absent).2)).1 = .ok →
        (otaReceiptQuery sampleBuild q sampleDevice firstRequest.operationId false
          (run (receiptStep sampleBuild sampleDevice) labels
            (otaReceiptRegister sampleBuild (sampleRegister .untracked) sampleDevice firstRequest
              .absent).2)).2.state ≠ .failed) ↔
      ¬((sampleSlots .untracked).targetState = .aborted ∨
        (sampleSlots .untracked).targetState = .invalid) :=
  query_fails_iff_stale sampleBuild sampleDevice (sampleRegister .untracked) firstRequest
    (sampleSlots .untracked) .absent _ rfl rfl (Prod.fst_eq_iff.mp (by decide +kernel))

theorem stale_target_reported_failed :
    ¬∀ (build : EotaBuild) (deviceId : CString) (a : RegisterAnswers) (request : OtaRequest)
        (slots : EotaSlots) (cell after : BlobCell), a.observed.2 = slots → a.preflight.2 = slots →
      otaReceiptRegister build a deviceId request cell = (.ok, after) →
      ∀ labels, Undisturbed build deviceId slots request.operationId labels after →
        ∀ q : QueryAnswers, readsAs slots q.slots.observed →
        (otaReceiptQuery build q deviceId request.operationId false
          (run (receiptStep build deviceId) labels after)).1 = .ok →
        (otaReceiptQuery build q deviceId request.operationId false
          (run (receiptStep build deviceId) labels after)).2.state ≠ .failed := by
  intro claim
  have quiet := claim sampleBuild sampleDevice (sampleRegister .aborted) firstRequest
    (sampleSlots .aborted) .absent _ rfl rfl (Prod.fst_eq_iff.mp (by decide +kernel)) []
    ⟨by simp, by simp⟩ { load := {}, slots := sampleAnswers .aborted } (fun _ => rfl)
    (by decide +kernel)
  exact quiet (by decide +kernel)

def registersAs (operationId : CString) : ReceiptOp → BlobCell → Bool
  | .register a request, cell =>
    request.operationId = operationId && (otaReceiptRegister build a deviceId request cell).1 = .ok
  | _, _ => false

def registrations (operationId : CString) : List ReceiptOp → BlobCell → Nat :=
  occurrences (receiptStep build deviceId) (registersAs build deviceId operationId)

def holdsOperation (cell : BlobCell) (operationId : CString) : Prop :=
  ∃ receipt, storedReceipt cell = some receipt ∧ receipt.operationId = operationId

-- The operation was stored at some point of the run so far, and no longer is.
def Superseded (operationId : CString) (earlier : List ReceiptOp) (start : BlobCell) : Prop :=
  (∃ first rest, earlier = first ++ rest ∧
      holdsOperation (run (receiptStep build deviceId) first start) operationId) ∧
    ¬holdsOperation (run (receiptStep build deviceId) earlier start) operationId

-- The checks of `register` that stand before the write.
def MayReplace (a : RegisterAnswers) (request : OtaRequest) (cell : BlobCell) : Prop :=
  registerRefusal build a deviceId request = none ∧
    ∀ previous, storedReceipt cell = some previous →
      (evaluate build previous false a.previous).1.terminal

theorem registered_holds (a : RegisterAnswers) (request : OtaRequest) (cell : BlobCell)
    (ok : (otaReceiptRegister build a deviceId request cell).1 = .ok) :
    holdsOperation (receiptStep build deviceId (.register a request) cell) request.operationId := by
  obtain ⟨-, stored, -⟩ := otaReceiptRegister_ok build a deviceId request cell _
    (Prod.fst_eq_iff.mp ok)
  exact ⟨_, stored, rfl⟩

/-- An operation registers at most once in every run in which no superseded operation passes
the checks again. -/
theorem registrations_le_one (labels : List ReceiptOp) (start : BlobCell)
    (fresh : ∀ earlier a request later, labels = earlier ++ .register a request :: later →
      Superseded build deviceId request.operationId earlier start →
      ¬MayReplace build deviceId a request (run (receiptStep build deviceId) earlier start))
    (operationId : CString) : registrations build deviceId operationId labels start ≤ 1 := by
  refine occurrences_le_one
    (fun labels => ∃ first rest, labels = first ++ rest ∧
      holdsOperation (run (receiptStep build deviceId) first start) operationId) labels start ?_ ?_ ?_
  · intro earlier label later _ happens
    cases label with
    | register a request =>
      simp only [registersAs, Bool.and_eq_true, decide_eq_true_eq] at happens
      refine ⟨earlier ++ [.register a request], [], by simp, ?_⟩
      rw [run_concat, ← happens.1]
      exact registered_holds build deviceId a request _ happens.2
    | recordFailure a other error => simp [registersAs] at happens
    | query a other workerActive => simp [registersAs] at happens
  · rintro earlier label later - ⟨first, rest, split, held⟩
    exact ⟨first, rest ++ [label], by rw [split, List.append_assoc], held⟩
  · intro earlier label later split marked happens
    cases label with
    | register a request =>
      simp only [registersAs, Bool.and_eq_true, decide_eq_true_eq] at happens
      obtain ⟨rfl, ok⟩ := happens
      rcases otaReceiptRegister_cases build a deviceId request
        (run (receiptStep build deviceId) earlier start) with ⟨_, refused, same⟩ | ⟨passed, free, -⟩
      · rw [same] at ok
        exact refused ok
      · refine fresh earlier a request later split ⟨marked, ?_⟩ ⟨passed, ?_⟩
        · rintro ⟨receipt, stored, same⟩
          rcases free with empty | ⟨previous, other, -, distinct, -⟩
          · simp [storedReceipt, empty] at stored
          · obtain rfl := Option.some.inj (stored.symm.trans other)
            exact distinct same
        · intro previous stored
          rcases free with empty | ⟨other, same, -, -, terminal⟩
          · simp [storedReceipt, empty] at stored
          · obtain rfl := Option.some.inj (stored.symm.trans same)
            exact terminal
    | recordFailure a other error => simp [registersAs] at happens
    | query a other workerActive => simp [registersAs] at happens

theorem registrations_le_one_repeated :
    registrations sampleBuild sampleDevice firstRequest.operationId
      [.register (sampleRegister .untracked) firstRequest,
        .register (sampleRegister .untracked) firstRequest] .absent ≤ 1 := by
  have held := registered_holds sampleBuild sampleDevice (sampleRegister .untracked) firstRequest
    .absent (by decide +kernel)
  refine registrations_le_one sampleBuild sampleDevice _ _ ?_ _
  rintro earlier a request later split ⟨⟨first, rest, parts, before⟩, lost⟩
  cases earlier with
  | nil =>
    obtain ⟨rfl, rfl⟩ := List.append_eq_nil_iff.mp parts.symm
    exact absurd before lost
  | cons label more =>
    obtain ⟨rfl, tail⟩ := List.cons.inj split
    cases more with
    | nil =>
      obtain ⟨same, -⟩ := List.cons.inj tail
      obtain ⟨rfl, rfl⟩ := ReceiptOp.register.inj same
      exact absurd held lost
    | cons next others =>
      obtain ⟨-, nothing⟩ := List.cons.inj tail
      simp at nothing

def ReceiptOp.faultless : ReceiptOp → Prop
  | .register a _ => a.load = {} ∧ a.store = {}
  | .recordFailure a _ _ => a.load = {} ∧ a.store = {}
  | .query a _ _ => a.load = {}

theorem replaced_operation_registers_again :
    ¬∀ (build : EotaBuild) (deviceId : CString) (labels : List ReceiptOp),
      (∀ op ∈ labels, op.faultless) → ∀ operationId,
        registrations build deviceId operationId labels .absent ≤ 1 := by
  intro claim
  have bound := claim sampleBuild sampleDevice
    [.register (sampleRegister .untracked) firstRequest,
      .recordFailure {} firstRequest.operationId eotaUpdateResourceFailure,
      .register (sampleRegister .untracked) secondRequest,
      .recordFailure {} secondRequest.operationId eotaUpdateResourceFailure,
      .register (sampleRegister .untracked) firstRequest]
    (by simp [ReceiptOp.faultless, sampleRegister]) firstRequest.operationId
  exact absurd bound (by decide +kernel)

end EspBase

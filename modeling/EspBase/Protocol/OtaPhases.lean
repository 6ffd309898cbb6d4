import EspBase.Protocol.System

set_option autoImplicit false

/-!
# `ota.start` and `poll_ota` between their calls

Another task may run between any two calls on the storage owner, the receipt
and the scheduler. A phase is one such call and the code up to the next one.
-/

namespace EspBase

variable (build : Build)

/-- The call that the control task makes next; at rest it is outside this code. -/
inductive OtaPlace where
  | rest
  | register (slot : Nat) (request : OtaRequest)
  | releaseRefused (slot : Nat) (receipt : OtaReceiptResult)
  | create (slot : Nat) (request : OtaRequest)
  | recordUnstarted (slot : Nat) (request : OtaRequest)
  | releaseUnstarted (slot : Nat)
  | recordFailure
  | releaseFailed
deriving DecidableEq

def claimOta (request : OtaRequest) (slot : Nat) (s : Control) : OtaPlace × Control :=
  let (claimed, owner, claim) := storageClaim s.storageOwner s.otaStorageClaim
  let s := { s with storageOwner := owner, otaStorageClaim := claim }
  if !claimed then (.rest, saveOutcome slot .failed (some "operation_busy") none s)
  else (.register slot request, s)

-- The request is the active one before its task exists.
def beginOta (request : OtaRequest) (slot : Nat) (s : Control) : Control :=
  { s with
    otaRequest := request
    otaSlot := slot
    otaActive := true
    otaDone := false
    otaReceived := 0
    controlState := { s.controlState with otaDownloadActive := true } }

def registerOta (a : RegisterAnswers) (request : OtaRequest) (slot : Nat) (s : Control) : OtaPlace × Control :=
  let (receipt, stored) := otaReceiptRegister build.eota a s.deviceId request s.receiptStore
  let s := { s with
    receiptStore := stored
    log := s.log ++ [.registering slot request receipt] }
  if receipt ≠ .ok then
    if receipt = .storageUncertain then
      (.rest, saveOutcome slot .unknown (some "storage_uncertain") none { s with configUncertain := true })
    else (.releaseRefused slot receipt, s)
  else
    (.create slot request, beginOta request slot s)

def releaseRefused (receipt : OtaReceiptResult) (slot : Nat) (s : Control) : OtaPlace × Control :=
  let (released, owner, claim) := storageRelease s.storageOwner s.otaStorageClaim
  let s := { s with storageOwner := owner, otaStorageClaim := claim }
  if !released then
    (.rest, saveOutcome slot .unknown (some "storage_uncertain") none { s with configUncertain := true })
  else (.rest, saveOutcome slot .failed (some (otaReceiptError receipt)) none s)

def createOta (created : Bool) (request : OtaRequest) (slot : Nat) (s : Control) : OtaPlace × Control :=
  if !created then
    (.recordUnstarted slot request, { s with
      controlState := { s.controlState with otaDownloadActive := false }
      otaActive := false
      otaRequest := .zero })
  else
    let s := { s with
      workers := s.workers ++ [request]
      log := s.log ++ [.workerCreated slot request] }
    (.rest, saveOutcome slot .running none none s)

def recordUnstarted (a : FailureAnswers) (request : OtaRequest) (slot : Nat) (s : Control) : OtaPlace × Control :=
  let (recorded, stored) := otaReceiptRecordFailure build.eota a s.deviceId request.operationId
    eotaUpdateResourceFailure s.receiptStore
  let s := { s with receiptStore := stored }
  if recorded = .ok then (.releaseUnstarted slot, s)
  else (.rest, saveOutcome slot .unknown (some "storage_uncertain") none { s with configUncertain := true })

def releaseUnstarted (slot : Nat) (s : Control) : OtaPlace × Control :=
  let (released, owner, claim) := storageRelease s.storageOwner s.otaStorageClaim
  let s := { s with storageOwner := owner, otaStorageClaim := claim }
  if released then (.rest, saveOutcome slot .failed (some "resource_failure") none s)
  else (.rest, saveOutcome slot .unknown (some "storage_uncertain") none { s with configUncertain := true })

def readOta (s : Control) : OtaPlace × Control :=
  if !s.otaActive || !s.otaDone then (.rest, s)
  else if s.otaResult = eotaUpdateOk then
    let s := saveOutcome s.otaSlot .running none none s
    (.rest, { s with restarted := true, log := s.log ++ [.slotSelected] })
  else if s.otaResult = eotaUpdateBootStateUnknown then
    (.rest, finishOta build s.otaResult { s with otaBootUncertain := true })
  else (.recordFailure, s)

def recordFailure (a : FailureAnswers) (s : Control) : OtaPlace × Control :=
  let (saved, stored) := otaReceiptRecordFailure build.eota a s.deviceId s.otaRequest.operationId
    s.otaResult s.receiptStore
  let s := { s with receiptStore := stored }
  if saved ≠ .ok then
    let s := { s with
      configUncertain := true
      controlState := { s.controlState with otaDownloadActive := false }
      otaActive := false
      otaReceived := 0 }
    let s := saveOutcome s.otaSlot .unknown (some "storage_uncertain") none s
    (.rest, { s with otaRequest := .zero })
  else (.releaseFailed, s)

def releaseFailed (s : Control) : OtaPlace × Control :=
  let (released, owner, claim) := storageRelease s.storageOwner s.otaStorageClaim
  let s := { s with storageOwner := owner, otaStorageClaim := claim }
  if !released then
    let s := { s with
      otaBootUncertain := true
      controlState := { s.controlState with otaDownloadActive := false }
      otaActive := false
      otaDone := false }
    let s := saveOutcome s.otaSlot .unknown (some "storage_uncertain") none s
    (.rest, { s with otaRequest := .zero })
  else (.rest, finishOta build s.otaResult s)

structure PhaseAnswers where
  register : RegisterAnswers
  created : Bool
  failure : FailureAnswers := {}

def advanceOta (a : PhaseAnswers) : OtaPlace → Control → OtaPlace × Control
  | .rest, s => (.rest, s)
  | .register slot request, s => registerOta build a.register request slot s
  | .releaseRefused slot receipt, s => releaseRefused receipt slot s
  | .create slot request, s => createOta a.created request slot s
  | .recordUnstarted slot request, s => recordUnstarted build a.failure request slot s
  | .releaseUnstarted slot, s => releaseUnstarted slot s
  | .recordFailure, s => recordFailure build a.failure s
  | .releaseFailed, s => releaseFailed build s

def drainOta (a : PhaseAnswers) : Nat → OtaPlace × Control → OtaPlace × Control
  | 0, x => x
  | more + 1, x => drainOta a more (advanceOta build a x.1 x.2)

def LineAnswers.phases (a : LineAnswers) : PhaseAnswers :=
  { register := a.register, created := a.created, failure := a.failure }

theorem drainOta_rest (a : PhaseAnswers) (more : Nat) (s : Control) :
    drainOta build a more (.rest, s) = (.rest, s) := by
  induction more with
  | zero => rfl
  | succ more ih => exact ih

theorem startWorker_phases (a : LineAnswers) (request : OtaRequest) (slot : Nat) (s : Control) :
    drainOta build a.phases 3 (.create slot request, beginOta request slot s) =
      (.rest, startWorker build a request slot s) := by
  change drainOta build a.phases 2 (createOta a.created request slot _) = _
  unfold createOta startWorker beginOta
  dsimp only
  split
  · change drainOta build a.phases 1 (recordUnstarted build a.failure request slot _) = _
    unfold recordUnstarted
    dsimp only
    split
    · change releaseUnstarted slot _ = _
      unfold releaseUnstarted
      dsimp only
      split <;> rfl
    · rfl
  · rfl

theorem startOta_phases (a : LineAnswers) (request : OtaRequest) (slot : Nat) (s : Control) :
    drainOta build a.phases 4 (claimOta request slot s) = (.rest, startOta build a request slot s) := by
  unfold claimOta startOta
  dsimp only
  split
  · rw [drainOta_rest]
  · change drainOta build a.phases 3 (registerOta build a.register request slot _) = _
    unfold registerOta
    dsimp only
    split
    · split
      · rw [drainOta_rest]
      · change drainOta build a.phases 2 (releaseRefused _ slot _) = _
        unfold releaseRefused
        dsimp only
        split <;> rfl
    · exact startWorker_phases build a request slot _

theorem pollOta_phases (a : PhaseAnswers) (s : Control) :
    drainOta build a 2 (readOta build s) = (.rest, pollOta build a.failure s) := by
  unfold readOta pollOta
  dsimp only
  split
  · rfl
  split
  · rfl
  split
  · rfl
  · change drainOta build a 1 (recordFailure build a.failure s) = _
    unfold recordFailure
    dsimp only
    split
    · rfl
    · change releaseFailed build _ = _
      unfold releaseFailed
      dsimp only
      split <;> rfl

end EspBase

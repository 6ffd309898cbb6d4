import EspBase.Protocol.System

set_option autoImplicit false

namespace EspBase

open DurableCell Transition

/-- A request that was admitted into the next free slot. -/
structure Accepted (s : Control) (slot : Nat) (request : Request) (guard : Guard) : Prop where
  slot : slot = s.guard.requests.length
  requests : guard.requests = s.guard.requests ++ [request]
  device : request.deviceId = s.deviceId
  boot : request.bootId = s.bootId
  uuids : isUuid request.requestId ∧ isUuid s.deviceId ∧ isUuid s.bootId
  fresh : ∀ previous ∈ s.guard.requests, previous.requestId ≠ request.requestId

structure Idle (s : Control) : Prop where
  ota : s.otaActive = false
  boot : s.otaBootUncertain = false
  trial : s.trialActive = false
  config : s.configUncertain = false

@[simp] def Control.registered (slot : Nat) (ota : OtaRequest) (owner : StorageOwner) (claim : StorageClaim)
    (result : OtaReceiptResult) (stored : BlobCell) (s : Control) : Control :=
  { s with
    storageOwner := owner
    otaStorageClaim := claim
    receiptStore := stored
    log := s.log ++ [.registering slot ota result] }

@[simp] def Control.released (s : Control) : Control :=
  { s with storageOwner := { s.storageOwner with activeToken := 0 }, otaStorageClaim := .empty }

@[simp] def Control.workerless (slot : Nat) (s : Control) : Control :=
  { s with
    otaRequest := .zero
    otaSlot := slot
    otaActive := false
    otaDone := false
    otaReceived := 0
    controlState := { s.controlState with otaDownloadActive := false } }

@[simp] def Control.downloading (slot : Nat) (ota : OtaRequest) (s : Control) : Control :=
  { s with
    otaRequest := ota
    otaSlot := slot
    otaActive := true
    otaDone := false
    otaReceived := 0
    controlState := { s.controlState with otaDownloadActive := true }
    workers := s.workers ++ [ota]
    log := s.log ++ [.workerCreated slot ota] }

@[simp] def Control.trying (slot : Nat) (candidate : RemoteConfig) (startedAt : Nat) (s : Control) : Control :=
  { s with
    candidate := candidate
    trialSlot := slot
    trialDeadline := startedAt + 20000
    log := s.log ++ [.trialStarted slot candidate startedAt s.configStore] }

-- The commit call has returned; its result is not handled yet.
@[simp] def Control.committed (now : Nat) (stored : BlobCell) (s : Control) : Control :=
  { s with
    configStore := stored
    trialActive := false
    candidate := .zero
    log := s.log ++ [.committing now s.trialDeadline s.candidate s.wifi] }

@[simp] def Control.withChannel (viaMqtt : Bool) (s : Control) : Control := { s with replyMqtt := viaMqtt }

@[simp] def Control.downloadEnded (s : Control) : Control :=
  { s with
    controlState := { s.controlState with otaDownloadActive := false }
    otaActive := false }

variable (build : Build)

inductive Effect (s : Control) : Control → Prop where
  | replied (events : List Event)
      (sent : ∀ event ∈ events, ∃ text, event = .sent s.replyMqtt text) :
      Effect s { s with log := s.log ++ events }
  | refused (slot : Nat) (request : Request) (guard : Guard) (error : String)
      (accepted : Accepted s slot request guard) :
      Effect s (saveOutcome slot .failed (some error) none (s.accept slot request guard))
  | otaRefused (slot : Nat) (request : Request) (guard : Guard) (ota : OtaRequest)
      (a : RegisterAnswers) (owner : StorageOwner) (claim : StorageClaim)
      (result : OtaReceiptResult) (stored : BlobCell)
      (accepted : Accepted s slot request guard) (idle : Idle s)
      (verified : s.controlState.otaVerificationPending = false)
      (claimed : storageClaim s.storageOwner s.otaStorageClaim = (true, owner, claim))
      (registered : otaReceiptRegister build.eota a s.deviceId ota s.receiptStore = (result, stored))
      (notOk : result ≠ .ok) (certain : result ≠ .storageUncertain) :
      Effect s (saveOutcome slot .failed (some (otaReceiptError result)) none
        ((s.accept slot request guard).registered slot ota owner claim result stored).released)
  | otaUncertain (slot : Nat) (request : Request) (guard : Guard) (ota : OtaRequest)
      (a : RegisterAnswers) (owner : StorageOwner) (claim : StorageClaim) (stored : BlobCell)
      (accepted : Accepted s slot request guard) (idle : Idle s)
      (verified : s.controlState.otaVerificationPending = false)
      (claimed : storageClaim s.storageOwner s.otaStorageClaim = (true, owner, claim))
      (registered : otaReceiptRegister build.eota a s.deviceId ota s.receiptStore =
        (.storageUncertain, stored)) :
      Effect s (saveOutcome slot .unknown (some "storage_uncertain") none
        { (s.accept slot request guard).registered slot ota owner claim .storageUncertain stored with
          configUncertain := true })
  | workerFailed (slot : Nat) (request : Request) (guard : Guard) (ota : OtaRequest)
      (a : RegisterAnswers) (f : FailureAnswers) (owner : StorageOwner) (claim : StorageClaim)
      (prepared stored : BlobCell)
      (accepted : Accepted s slot request guard) (idle : Idle s)
      (verified : s.controlState.otaVerificationPending = false)
      (claimed : storageClaim s.storageOwner s.otaStorageClaim = (true, owner, claim))
      (registered : otaReceiptRegister build.eota a s.deviceId ota s.receiptStore = (.ok, prepared))
      (recorded : otaReceiptRecordFailure build.eota f s.deviceId ota.operationId
        eotaUpdateResourceFailure prepared = (.ok, stored)) :
      Effect s (saveOutcome slot .failed (some "resource_failure") none
        { ((((s.accept slot request guard).registered slot ota owner claim .ok prepared).workerless
            slot).released) with receiptStore := stored })
  | workerLost (slot : Nat) (request : Request) (guard : Guard) (ota : OtaRequest)
      (a : RegisterAnswers) (f : FailureAnswers) (owner : StorageOwner) (claim : StorageClaim)
      (prepared stored : BlobCell) (result : OtaReceiptResult)
      (accepted : Accepted s slot request guard) (idle : Idle s)
      (verified : s.controlState.otaVerificationPending = false)
      (claimed : storageClaim s.storageOwner s.otaStorageClaim = (true, owner, claim))
      (registered : otaReceiptRegister build.eota a s.deviceId ota s.receiptStore = (.ok, prepared))
      (recorded : otaReceiptRecordFailure build.eota f s.deviceId ota.operationId
        eotaUpdateResourceFailure prepared = (result, stored)) (notOk : result ≠ .ok) :
      Effect s (saveOutcome slot .unknown (some "storage_uncertain") none
        { (((s.accept slot request guard).registered slot ota owner claim .ok prepared).workerless
            slot) with receiptStore := stored, configUncertain := true })
  | workerStarted (slot : Nat) (request : Request) (guard : Guard) (ota : OtaRequest)
      (a : RegisterAnswers) (owner : StorageOwner) (claim : StorageClaim) (prepared : BlobCell)
      (accepted : Accepted s slot request guard) (idle : Idle s)
      (verified : s.controlState.otaVerificationPending = false)
      (claimed : storageClaim s.storageOwner s.otaStorageClaim = (true, owner, claim))
      (registered : otaReceiptRegister build.eota a s.deviceId ota s.receiptStore = (.ok, prepared)) :
      Effect s (saveOutcome slot .running none none
        (((s.accept slot request guard).registered slot ota owner claim .ok prepared).downloading
          slot ota))
  | trialStarted (slot : Nat) (request : Request) (guard : Guard) (candidate : RemoteConfig)
      (startedAt now : Nat) (a : ApplyAnswers) (wifi : WifiRuntime)
      (accepted : Accepted s slot request guard) (idle : Idle s)
      (verified : s.controlState.otaVerificationPending = false) (usb : s.replyMqtt = false)
      (expected : candidate.revision = s.config.revision)
      (applied : wifiApply a candidate.wifi now s.wifi = (.ok, wifi)) :
      Effect s { saveOutcome slot .running none none
        ((s.accept slot request guard).trying slot candidate startedAt) with
          wifi := wifi, trialActive := true }
  | trialRefused (slot : Nat) (request : Request) (guard : Guard) (candidate : RemoteConfig)
      (startedAt now restoredAt : Nat) (a b : ApplyAnswers) (error restored : EspErr)
      (wifi back : WifiRuntime)
      (accepted : Accepted s slot request guard) (idle : Idle s)
      (verified : s.controlState.otaVerificationPending = false) (usb : s.replyMqtt = false)
      (applied : wifiApply a candidate.wifi now s.wifi = (error, wifi)) (failed : error ≠ .ok)
      (selected : wifiApply b s.config.wifi restoredAt wifi = (restored, back)) :
      Effect s (saveOutcome slot .failed (some "connection_proof_failed") none
        { saveOutcome slot .running none none
            ((s.accept slot request guard).trying slot candidate startedAt) with
          candidate := .zero, wifi := back, configUncertain := restored != .ok })
  | restarting (slot : Nat) (request : Request) (guard : Guard)
      (accepted : Accepted s slot request guard) (idle : Idle s) :
      Effect s { saveOutcome slot .running none none (s.accept slot request guard) with
        restarted := true
        log := (saveOutcome slot .running none none (s.accept slot request guard)).log ++
          [.restarting slot] }
  | committed (now : Nat) (faults : ConfigCommitFaults) (config : RemoteConfig) (stored : BlobCell)
      (a : SnapshotAnswers) (active : s.trialActive = true) (ready : trialReady s)
      (early : now < s.trialDeadline)
      (wrote : remoteConfigCommitVerified faults s.candidate s.candidate.revision s.configStore =
        (.ok config, stored)) :
      Effect s (saveOutcome s.trialSlot .succeeded none
        (some (snapshot build a { s.committed now stored with config := config }))
        { s.committed now stored with config := config })
  | commitReloaded (now : Nat) (faults : ConfigCommitFaults) (stored : BlobCell)
      (reload : ConfigLoadFaults) (config : RemoteConfig) (a : ApplyAnswers) (error : EspErr)
      (wifi : WifiRuntime) (active : s.trialActive = true) (ready : trialReady s)
      (early : now < s.trialDeadline)
      (wrote : remoteConfigCommitVerified faults s.candidate s.candidate.revision s.configStore =
        (.error .configUncertain, stored))
      (loaded : remoteConfigLoad reload stored = .ok config)
      (selected : wifiApply a config.wifi now s.wifi = (error, wifi)) :
      Effect s (saveOutcome s.trialSlot .unknown (some "storage_uncertain") none
        { s.committed now stored with configUncertain := true, config := config, wifi := wifi })
  | commitUnread (now : Nat) (faults : ConfigCommitFaults) (stored : BlobCell) (a : ApplyAnswers)
      (error : EspErr) (wifi : WifiRuntime) (active : s.trialActive = true) (ready : trialReady s)
      (early : now < s.trialDeadline)
      (wrote : remoteConfigCommitVerified faults s.candidate s.candidate.revision s.configStore =
        (.error .configUncertain, stored))
      (selected : wifiApply a .zero now s.wifi = (error, wifi)) :
      Effect s (saveOutcome s.trialSlot .unknown (some "storage_uncertain") none
        { s.committed now stored with configUncertain := true, wifi := wifi })
  | commitFailed (now : Nat) (faults : ConfigCommitFaults) (stored : BlobCell) (failure : EspErr)
      (a : ApplyAnswers) (error : EspErr) (wifi : WifiRuntime) (active : s.trialActive = true)
      (ready : trialReady s) (early : now < s.trialDeadline)
      (wrote : remoteConfigCommitVerified faults s.candidate s.candidate.revision s.configStore =
        (.error failure, stored)) (certain : failure ≠ .configUncertain)
      (selected : wifiApply a s.config.wifi now s.wifi = (error, wifi)) :
      Effect s (saveOutcome s.trialSlot .failed (some "storage_failure") none
        { s.committed now stored with
          wifi := wifi, configUncertain := s.configUncertain || error != .ok })
  | proofFailed (now : Nat) (a : ApplyAnswers) (error : EspErr) (wifi : WifiRuntime)
      (active : s.trialActive = true)
      (ended : s.trialDeadline ≤ now ∨ s.wifi.state = .failed)
      (selected : wifiApply a s.config.wifi now s.wifi = (error, wifi)) :
      Effect s (saveOutcome s.trialSlot .failed (some "connection_proof_failed") none
        { s with
          trialActive := false, candidate := .zero, wifi := wifi
          configUncertain := s.configUncertain || error != .ok })
  | slotSelected (active : s.otaActive = true) (done : s.otaDone = true)
      (result : s.otaResult = eotaUpdateOk) :
      Effect s { saveOutcome s.otaSlot .running none none s with
        restarted := true
        log := (saveOutcome s.otaSlot .running none none s).log ++ [.slotSelected] }
  | bootUnknown (active : s.otaActive = true) (done : s.otaDone = true)
      (result : s.otaResult = eotaUpdateBootStateUnknown) :
      Effect s { saveOutcome s.otaSlot .unknown (some (build.eota.error s.otaResult)) none
        { s.downloadEnded with otaBootUncertain := true, otaReceived := 0 } with
          otaRequest := .zero }
  | failureLost (f : FailureAnswers) (saved : OtaReceiptResult) (stored : BlobCell)
      (active : s.otaActive = true) (done : s.otaDone = true)
      (result : s.otaResult ≠ eotaUpdateOk)
      (recorded : otaReceiptRecordFailure build.eota f s.deviceId s.otaRequest.operationId
        s.otaResult s.receiptStore = (saved, stored)) (notOk : saved ≠ .ok) :
      Effect s { saveOutcome s.otaSlot .unknown (some "storage_uncertain") none
        { s.downloadEnded with receiptStore := stored, configUncertain := true, otaReceived := 0 } with
          otaRequest := .zero }
  | releaseFailed (f : FailureAnswers) (stored : BlobCell)
      (active : s.otaActive = true) (done : s.otaDone = true)
      (result : s.otaResult ≠ eotaUpdateOk)
      (recorded : otaReceiptRecordFailure build.eota f s.deviceId s.otaRequest.operationId
        s.otaResult s.receiptStore = (.ok, stored))
      (kept : ¬s.storageOwner.HeldBy s.otaStorageClaim) :
      Effect s { saveOutcome s.otaSlot .unknown (some "storage_uncertain") none
        { s.downloadEnded with receiptStore := stored, otaBootUncertain := true, otaDone := false } with
          otaRequest := .zero }
  | otaFailed (f : FailureAnswers) (stored : BlobCell)
      (active : s.otaActive = true) (done : s.otaDone = true)
      (result : s.otaResult ≠ eotaUpdateOk) (known : s.otaResult ≠ eotaUpdateBootStateUnknown)
      (recorded : otaReceiptRecordFailure build.eota f s.deviceId s.otaRequest.operationId
        s.otaResult s.receiptStore = (.ok, stored)) :
      Effect s { saveOutcome s.otaSlot .failed (some (build.eota.error s.otaResult)) none
        { s.downloadEnded.released with receiptStore := stored, otaReceived := 0 } with
          otaRequest := .zero }
  | wifiMoved (wifi : WifiRuntime)
      (moved : (∃ event, wifi = eventReceived event s.wifi) ∨ ∃ now a, wifi = wifiPoll now a s.wifi) :
      Effect s { s with wifi := wifi }
  | progressed (received : Nat) : Effect s { s with otaReceived := received }
  | workerDone (ota : OtaRequest) (others : List OtaRequest) (result : EotaResult)
      (running : s.workers = ota :: others) :
      Effect s { s with otaResult := result, otaDone := true, workers := others }
  | confirmed :
      Effect s { s with controlState := { s.controlState with otaVerificationPending := false } }
  | otherClaimed (owner : StorageOwner) (claim : StorageClaim)
      (claimed : storageClaim s.storageOwner .empty = (true, owner, claim)) :
      Effect s { s with storageOwner := owner, otherClaims := s.otherClaims ++ [claim] }
  | otherReleased (index : Nat) (claim : StorageClaim) (here : s.otherClaims[index]? = some claim)
      (held : s.storageOwner.activeToken = claim.token) :
      Effect s { s with
        storageOwner := { s.storageOwner with activeToken := 0 }
        otherClaims := s.otherClaims.eraseIdx index }

variable {build}

theorem storageClaim_claimed (owner after : StorageOwner) (claim taken : StorageClaim)
    (claimed : storageClaim owner claim = (true, after, taken)) :
    owner.activeToken = 0 ∧ after.HeldBy taken ∧ taken.token = owner.nextToken + 1 := by
  rcases storageClaim_cases owner claim with same | ⟨-, free, held, token⟩
  · rw [claimed] at same
    cases same
  · rw [claimed] at held token
    exact ⟨free, held, token⟩

theorem storageClaim_refused (owner after : StorageOwner) (claim taken : StorageClaim)
    (refused : storageClaim owner claim = (false, after, taken)) : after = owner ∧ taken = claim := by
  rcases storageClaim_cases owner claim with same | ⟨claimed, -⟩
  · rw [refused] at same
    cases same
    exact ⟨rfl, rfl⟩
  · rw [refused] at claimed
    cases claimed

variable (build)

theorem startWorker_effect (a : LineAnswers) (s : Control) (slot : Nat) (request : Request)
    (guard : Guard) (ota : OtaRequest) (owner : StorageOwner) (claim : StorageClaim)
    (prepared : BlobCell) (accepted : Accepted s slot request guard) (idle : Idle s)
    (verified : s.controlState.otaVerificationPending = false)
    (claimed : storageClaim s.storageOwner s.otaStorageClaim = (true, owner, claim))
    (registered : otaReceiptRegister build.eota a.register s.deviceId ota s.receiptStore =
      (.ok, prepared)) :
    Effect build s (startWorker build a ota slot
      ((s.accept slot request guard).registered slot ota owner claim .ok prepared)) := by
  have held := (storageClaim_claimed _ _ _ _ claimed).2.1
  obtain ⟨result, stored, recorded⟩ : ∃ result stored, otaReceiptRecordFailure build.eota a.failure
    s.deviceId ota.operationId eotaUpdateResourceFailure prepared = (result, stored) := ⟨_, _, rfl⟩
  by_cases created : a.created = true
  · simp only [startWorker, created, Bool.not_true, Bool.false_eq_true, if_false]
    exact .workerStarted slot request guard ota a.register owner claim prepared accepted idle verified
      claimed registered
  · simp only [startWorker, created, Bool.not_false, if_true, Control.registered, Control.accept,
      recorded, storageRelease_held owner claim held]
    by_cases ok : result = .ok
    · subst ok
      simp only [if_true]
      exact .workerFailed slot request guard ota a.register a.failure owner claim prepared stored
        accepted idle verified claimed registered recorded
    · simp only [ok, if_false]
      exact .workerLost slot request guard ota a.register a.failure owner claim prepared stored result
        accepted idle verified claimed registered recorded ok

theorem startOta_effect (a : LineAnswers) (s : Control) (slot : Nat) (request : Request)
    (guard : Guard) (ota : OtaRequest) (accepted : Accepted s slot request guard) (idle : Idle s)
    (verified : s.controlState.otaVerificationPending = false) :
    Effect build s (startOta build a ota slot (s.accept slot request guard)) := by
  obtain ⟨claimed, owner, claim, claiming⟩ : ∃ claimed owner claim,
    storageClaim s.storageOwner s.otaStorageClaim = (claimed, owner, claim) := ⟨_, _, _, rfl⟩
  obtain ⟨result, stored, registered⟩ : ∃ result stored, otaReceiptRegister build.eota a.register
    s.deviceId ota s.receiptStore = (result, stored) := ⟨_, _, rfl⟩
  cases claimed with
  | false =>
    obtain ⟨rfl, rfl⟩ := storageClaim_refused _ _ _ _ claiming
    simp only [startOta, Control.accept, claiming, Bool.not_false, if_true]
    exact .refused slot request guard "operation_busy" accepted
  | true =>
    have held := (storageClaim_claimed _ _ _ _ claiming).2.1
    by_cases ok : result = .ok
    · subst ok
      have started := startWorker_effect build a s slot request guard ota owner claim stored accepted
        idle verified claiming registered
      simpa only [startOta, Control.accept, Control.registered, claiming, registered, Bool.not_true,
        Bool.false_eq_true, if_false, ne_eq, not_true_eq_false] using started
    · simp only [startOta, Control.accept, claiming, registered, Bool.not_true, Bool.false_eq_true,
        if_false, ne_eq, ok, not_false_eq_true, if_true, storageRelease_held owner claim held]
      by_cases uncertain : result = .storageUncertain
      · subst uncertain
        simp only [if_true]
        exact .otaUncertain slot request guard ota a.register owner claim stored accepted idle verified
          claiming registered
      · simp only [uncertain, if_false]
        exact .otaRefused slot request guard ota a.register owner claim result stored accepted idle
          verified claiming registered ok uncertain

theorem writeError_none (s : Control) (fine : writeError s = none) : Idle s := by
  unfold writeError at fine
  split_ifs at fine with ota boot trial config
  simp only [Bool.not_eq_true] at ota boot trial config
  exact ⟨ota, boot, trial, config⟩

theorem configWriteError_none (state : ControlState) (fine : configWriteError state = none) :
    state.otaVerificationPending = false := by
  unfold configWriteError at fine
  split_ifs at fine with pending
  simpa using pending

theorem otaStartError_none (a : LineAnswers) (s : Control) (fine : otaStartError build a s = none) :
    Idle s ∧ s.controlState.otaVerificationPending = false := by
  unfold otaStartError at fine
  split_ifs at fine with signed pending ota trial config boot network time
  simp only [Bool.not_eq_true] at pending ota trial config boot
  exact ⟨⟨ota, boot, trial, config⟩, pending⟩

theorem startTrial_effect (a : LineAnswers) (s : Control) (slot : Nat) (request : Request)
    (guard : Guard) (candidate : RemoteConfig) (accepted : Accepted s slot request guard)
    (idle : Idle s) (verified : s.controlState.otaVerificationPending = false)
    (usb : s.replyMqtt = false) (expected : candidate.revision = s.config.revision) :
    Effect build s (startTrial a candidate slot (s.accept slot request guard)) := by
  obtain ⟨error, wifi, applied⟩ : ∃ error wifi,
    wifiApply a.apply candidate.wifi a.applyNow s.wifi = (error, wifi) := ⟨_, _, rfl⟩
  obtain ⟨restored, back, selected⟩ : ∃ restored back,
    wifiApply a.restore s.config.wifi a.restoreNow wifi = (restored, back) := ⟨_, _, rfl⟩
  by_cases ok : error = .ok
  · subst ok
    simp only [startTrial, saveOutcome_eq, Control.accept, applied, ne_eq, not_true_eq_false, if_false]
    have started : Effect build s _ := .trialStarted slot request guard candidate a.deadlineNow
      a.applyNow a.apply wifi accepted idle verified usb expected applied
    simpa only [saveOutcome_eq, Control.trying, Control.accept] using started
  · simp only [startTrial, saveOutcome_eq, Control.accept, applied, ne_eq, ok, not_false_eq_true,
      if_true, restoreCommitted, selected, idle.config, Bool.false_or]
    have refused : Effect build s _ := .trialRefused slot request guard candidate a.deadlineNow
      a.applyNow a.restoreNow a.apply a.restore error restored wifi back accepted idle verified usb
      applied ok selected
    simpa only [saveOutcome_eq, Control.trying, Control.accept] using refused

theorem execute_effect (a : LineAnswers) (command : Command) (s : Control) (slot : Nat)
    (request : Request) (guard : Guard) (accepted : Accepted s slot request guard) :
    Effect build s (execute build a command slot (s.accept slot request guard)) := by
  have refuse (error : String) :
      Effect build s (saveOutcome slot .failed (some error) none (s.accept slot request guard)) :=
    .refused slot request guard error accepted
  unfold execute
  cases command.kind with
  | configSet =>
    simp only
    split
    · exact refuse _
    next usb =>
      split
      · exact refuse _
      next verified =>
        split
        · exact refuse _
        next fine =>
          split
          · exact refuse _
          next current =>
            unfold configSetError at current
            split_ifs at current with other
            exact startTrial_effect build a s slot request guard command.config accepted
              (writeError_none s fine) (configWriteError_none _ verified) (Bool.not_eq_true _ ▸ usb)
              (not_not.mp other)
  | otaStart =>
    simp only
    split
    · exact refuse _
    next fine =>
      obtain ⟨idle, verified⟩ := otaStartError_none build a s fine
      exact startOta_effect build a s slot request guard command.ota accepted idle verified
  | status | restart | otaResult =>
    simp only
    split
    · exact refuse _
    next fine => exact .restarting slot request guard accepted (writeError_none s fine)

theorem replied_effect (s : Control) (requestId : CString) (state : Option ResultState)
    (error : Option String) (status : Option StatusSnapshot) :
    Effect build s (reply requestId state error status s) := by
  rw [reply_eq]
  exact .replied _ (sentResult_sent _ _ _ _ _ _ _)

theorem handleWrite_effect (a : LineAnswers) (command : Command) (request : Request) (s : Control) :
    Effect build s (handleWrite build a command request s) := by
  have decided := ebaseAdmit_cases s.guard request s.deviceId s.bootId a.admitNow
  unfold handleWrite
  split
  next decision slot guard admission =>
    rw [admission] at decided
    split
    · rw [emitOutcome_eq]
      exact .replied _ (sentResult_sent _ _ _ _ _ _ _)
    · rcases decided with ⟨other, -⟩ | ⟨-, here, pushed, ids, fresh⟩
      · exact absurd rfl other
      · exact execute_effect build a command s slot request guard
          ⟨here, pushed, ids.1, ids.2.1, ids.2.2, fresh⟩
    · exact replied_effect build s _ _ _ _

theorem handleLine_effect (a : LineAnswers) (line : Parsed) (s : Control) :
    Effect build s (handleLine build a line s) := by
  unfold handleLine
  simp only
  split
  · exact replied_effect build s _ _ _ _
  split
  · exact replied_effect build s _ _ _ _
  · unfold handleOtaResult
    simp only
    split
    · obtain ⟨events, same, sent⟩ := replyOtaResult_eq line.command.request.requestId
        (otaReceiptQuery build.eota a.query s.deviceId line.command.operationId
          (s.otaActive && s.otaRequest.operationId = line.command.operationId) s.receiptStore).2 s
      rw [same]
      exact .replied events sent
    · exact replied_effect build s _ _ _ _
  · split
    · exact replied_effect build s _ _ _ _
    · exact handleWrite_effect build a _ _ s

theorem unchanged_effect (s : Control) : Effect build s s := by
  have nothing : Effect build s { s with log := s.log ++ [] } := .replied [] (by simp)
  simpa using nothing

theorem commitTrial_effect (now : Nat) (a : ConfigurationAnswers) (s : Control)
    (active : s.trialActive = true) (ready : trialReady s) (early : now < s.trialDeadline) :
    Effect build s (commitTrial build now a s) := by
  obtain ⟨result, stored, wrote⟩ : ∃ result stored, remoteConfigCommitVerified a.commit s.candidate
    s.candidate.revision s.configStore = (result, stored) := ⟨_, _, rfl⟩
  unfold commitTrial
  simp only [wrote]
  split
  next config => exact .committed now a.commit config stored a.snapshot active ready early wrote
  next =>
    split
    next config loaded =>
      obtain ⟨error, wifi, selected⟩ : ∃ error wifi,
        wifiApply a.apply config.wifi now s.wifi = (error, wifi) := ⟨_, _, rfl⟩
      simp only [restoreCommitted, selected, Bool.true_or]
      exact .commitReloaded now a.commit stored a.reload config a.apply error wifi active ready early
        wrote loaded selected
    next =>
      exact .commitUnread now a.commit stored a.apply _ _ active ready early wrote rfl
  next failure certain =>
    obtain ⟨error, wifi, selected⟩ : ∃ error wifi,
      wifiApply a.apply s.config.wifi now s.wifi = (error, wifi) := ⟨_, _, rfl⟩
    simp only [restoreCommitted, selected]
    exact .commitFailed now a.commit stored failure a.apply error wifi active ready early wrote
      certain selected

theorem pollConfiguration_effect (now : Nat) (a : ConfigurationAnswers) (s : Control) :
    Effect build s (pollConfiguration build now a s) := by
  unfold pollConfiguration
  split
  · exact unchanged_effect build s
  next active =>
    simp only [Bool.not_eq_true', Bool.not_eq_false] at active
    split
    next proven =>
      simp only [Bool.and_eq_true, decide_eq_true_eq] at proven
      exact commitTrial_effect build now a s active proven.1 proven.2
    next =>
      split
      next ended =>
        obtain ⟨error, wifi, selected⟩ : ∃ error wifi,
          wifiApply a.apply s.config.wifi now s.wifi = (error, wifi) := ⟨_, _, rfl⟩
        simp only [Bool.or_eq_true, decide_eq_true_eq, beq_iff_eq] at ended
        simp only [restoreCommitted, selected]
        exact .proofFailed now a.apply error wifi active ended selected
      next => exact unchanged_effect build s

theorem pollOta_effect (a : FailureAnswers) (s : Control) : Effect build s (pollOta build a s) := by
  unfold pollOta
  split
  · exact unchanged_effect build s
  next worked =>
    simp only [Bool.or_eq_true, Bool.not_eq_true', not_or, Bool.not_eq_false] at worked
    obtain ⟨active, done⟩ := worked
    split
    next ok => exact .slotSelected active done ok
    next result =>
      split
      next unknown =>
        simp only [finishOta, unknown, if_true]
        have ended : Effect build s _ := .bootUnknown active done unknown
        simpa only [Control.downloadEnded, unknown] using ended
      next known =>
        obtain ⟨saved, stored, recorded⟩ : ∃ saved stored, otaReceiptRecordFailure build.eota a
          s.deviceId s.otaRequest.operationId s.otaResult s.receiptStore = (saved, stored) :=
            ⟨_, _, rfl⟩
        simp only [recorded]
        by_cases ok : saved = .ok
        · subst ok
          simp only [ne_eq, not_true_eq_false, if_false]
          rcases storageRelease_cases s.storageOwner s.otaStorageClaim with
            ⟨-, released⟩ | ⟨kept, refused⟩
          · simp only [released, Bool.not_true, Bool.false_eq_true, if_false, finishOta, known]
            exact .otaFailed a stored active done result known recorded
          · simp only [refused, Bool.not_false, if_true]
            exact .releaseFailed a stored active done result recorded kept
        · simp only [ne_eq, ok, not_false_eq_true, if_true]
          exact .failureLost a saved stored active done result recorded ok

theorem otherClaim_effect (s : Control) : Effect build s (otherClaim s) := by
  obtain ⟨claimed, owner, claim, claiming⟩ : ∃ claimed owner claim,
    storageClaim s.storageOwner .empty = (claimed, owner, claim) := ⟨_, _, _, rfl⟩
  simp only [otherClaim, claiming]
  cases claimed with
  | true => exact .otherClaimed owner claim claiming
  | false =>
    obtain ⟨rfl, -⟩ := storageClaim_refused _ _ _ _ claiming
    exact unchanged_effect build s

theorem otherRelease_effect (index : Nat) (s : Control) : Effect build s (otherRelease index s) := by
  unfold otherRelease
  split
  · exact unchanged_effect build s
  next claim here =>
    rcases storageRelease_cases s.storageOwner claim with ⟨held, released⟩ | ⟨-, refused⟩
    · simp only [released, if_true]
      exact .otherReleased index claim here held.active
    · simp only [refused, Bool.false_eq_true, if_false]
      exact unchanged_effect build s

theorem workerDone_effect (prepared selected : EotaResult) (s : Control) :
    Effect build s (workerDone prepared selected s) := by
  unfold workerDone
  split
  · exact unchanged_effect build s
  next ota others running => exact .workerDone ota others _ running

theorem workerProgress_effect (received : Nat) (s : Control) :
    Effect build s (workerProgress received s) := by
  unfold workerProgress
  split
  · exact unchanged_effect build s
  · exact .progressed received

theorem effect_replyMqtt (s t : Control) (effect : Effect build s t) : t.replyMqtt = s.replyMqtt := by
  cases effect <;> simp only [saveOutcome_eq] <;> rfl

theorem channel_effect (s t : Control) (usb : s.replyMqtt = false) (effect : Effect build s t) :
    ∃ viaMqtt u, Effect build (s.withChannel viaMqtt) u ∧ t = u.withChannel false := by
  refine ⟨false, t, ?_, ?_⟩
  · rwa [show s.withChannel false = s by rw [← usb]; rfl]
  · rw [← usb, ← effect_replyMqtt build s t effect]
    rfl

theorem step_effect (label : Label) (s : Control) (usb : s.replyMqtt = false) :
    ∃ viaMqtt t, Effect build (s.withChannel viaMqtt) t ∧
      step build label s = t.withChannel false := by
  have plain (t : Control) (effect : Effect build s t) := channel_effect build s t usb effect
  unfold step
  split
  · exact plain s (unchanged_effect build s)
  cases label with
  | line viaMqtt a line =>
    cases viaMqtt with
    | true => exact ⟨true, _, handleLine_effect build a line _, rfl⟩
    | false => exact plain _ (handleLine_effect build a line s)
  | pollConfiguration now a => exact plain _ (pollConfiguration_effect build now a s)
  | pollOta a => exact plain _ (pollOta_effect build a s)
  | wifiEvent event => exact plain _ (.wifiMoved _ (.inl ⟨event, rfl⟩))
  | wifiPoll now a => exact plain _ (.wifiMoved _ (.inr ⟨now, a, rfl⟩))
  | workerProgress received => exact plain _ (workerProgress_effect build received s)
  | workerDone prepared selected => exact plain _ (workerDone_effect build prepared selected s)
  | slotConfirmed => exact plain _ .confirmed
  | otherClaim => exact plain _ (otherClaim_effect build s)
  | otherRelease index => exact plain _ (otherRelease_effect build index s)

/-- A property that ignores the channel and survives every effect holds along every run. -/
theorem run_keeps {Inv : Control → Prop}
    (blind : ∀ s viaMqtt, Inv s → Inv (s.withChannel viaMqtt))
    (kept : ∀ s t, Effect build s t → Inv s → Inv t) (labels : List Label) (s : Control)
    (usb : s.replyMqtt = false) (initial : Inv s) :
    (run (step build) labels s).replyMqtt = false ∧ Inv (run (step build) labels s) := by
  refine @run_invariant _ _ _ (fun s => s.replyMqtt = false ∧ Inv s) ?_ labels s ⟨usb, initial⟩
  rintro label s ⟨usb, inv⟩
  obtain ⟨viaMqtt, t, effect, same⟩ := step_effect build label s usb
  rw [same]
  exact ⟨rfl, blind t false (kept _ t effect (blind s viaMqtt inv))⟩

def newEvents (s t : Control) : List Event := t.log.drop s.log.length

def picked {α : Type} (pick : Event → Option α) (log : List Event) : List α := log.filterMap pick

section Picked

variable {α : Type} {pick : Event → Option α}

@[simp] theorem picked_nil : picked pick [] = [] := rfl

@[simp] theorem picked_append (log new : List Event) :
    picked pick (log ++ new) = picked pick log ++ picked pick new :=
  List.filterMap_append

@[simp] theorem picked_cons (event : Event) (log : List Event) :
    picked pick (event :: log) = (pick event).toList ++ picked pick log := by
  unfold picked
  rw [List.filterMap_cons]
  cases pick event <;> rfl

theorem picked_sent (silent : ∀ viaMqtt text, pick (.sent viaMqtt text) = none) (viaMqtt : Bool)
    (events : List Event) (sent : ∀ event ∈ events, ∃ text, event = .sent viaMqtt text) :
    picked pick events = [] := by
  rw [picked, List.filterMap_eq_nil_iff]
  intro event member
  obtain ⟨text, rfl⟩ := sent event member
  exact silent _ _

theorem picked_emission (silent : ∀ viaMqtt text, pick (.sent viaMqtt text) = none)
    (deviceId bootId requestId : CString) (viaMqtt : Bool) (out : Outcome) :
    picked pick (emission deviceId bootId requestId viaMqtt out) = [] :=
  picked_sent silent viaMqtt _ (sentResult_sent _ _ _ _ _ _ _)

end Picked

theorem effect_log (s t : Control) (effect : Effect build s t) : t.log = s.log ++ newEvents s t := by
  cases effect <;>
    simp [newEvents, saveOutcome_eq]

end EspBase

import EspBase.Ota.StorageOwner
import EspBase.Protocol.Guard
import EspBase.Protocol.Reply

set_option autoImplicit false

/-!
# The control task

The static variables of the task are one record; a function takes the answers
of the calls it makes, in the order in which it makes them. `log` records the
replies that leave the task and the actions that it starts.
-/

namespace EspBase

inductive CommandKind where
  | status
  | restart
  | configSet
  | otaStart
  | otaResult
deriving DecidableEq, Repr

structure Command where
  kind : CommandKind
  request : Request
  config : RemoteConfig
  ota : OtaRequest
  operationId : CString
deriving DecidableEq

structure Parsed where
  error : Option String
  command : Command
deriving DecidableEq

structure Outcome where
  state : Option ResultState
  error : Option String
  status : Option StatusSnapshot
  viaMqtt : Bool
deriving DecidableEq

def Outcome.zero : Outcome := { state := none, error := none, status := none, viaMqtt := false }

structure ControlState where
  otaVerificationPending : Bool
  otaDownloadActive : Bool
deriving DecidableEq

def configWriteError (state : ControlState) : Option String :=
  if state.otaVerificationPending then some "ota_verification_pending"
  else if state.otaDownloadActive then some "ota_in_progress"
  else none

inductive Event where
  | sent (viaMqtt : Bool) (text : List UInt8)
  | accepted (slot : Nat) (viaMqtt : Bool) (request : Request)
  | saved (slot : Nat) (outcome : Outcome)
  | trialStarted (slot : Nat) (candidate : RemoteConfig) (startedAt : Nat) (stored : BlobCell)
  | committing (now deadline : Nat) (candidate : RemoteConfig) (wifi : WifiRuntime)
  | registering (slot : Nat) (request : OtaRequest) (result : OtaReceiptResult)
  | workerCreated (slot : Nat) (request : OtaRequest)
  | restarting (slot : Nat)
  | slotSelected

structure Build where
  eota : EotaBuild
  sha256 : List UInt8 → Digest

structure Control where
  deviceId : CString
  bootId : CString
  config : RemoteConfig
  guard : Guard
  outcomes : Nat → Outcome
  configUncertain : Bool
  trialActive : Bool
  otaActive : Bool
  otaBootUncertain : Bool
  otaStorageClaim : StorageClaim
  otaSlot : Nat
  otaRequest : OtaRequest
  otaDone : Bool
  otaResult : EotaResult
  otaReceived : Nat
  controlState : ControlState
  trialSlot : Nat
  trialDeadline : Nat
  candidate : RemoteConfig
  replyMqtt : Bool
  wifi : WifiRuntime
  configStore : BlobCell
  receiptStore : BlobCell
  storageOwner : StorageOwner
  otherClaims : List StorageClaim
  workers : List OtaRequest
  restarted : Bool
  log : List Event

variable (build : Build)

structure SnapshotAnswers where
  uptime : Nat
  freeHeap : Nat
  minimumFreeHeap : Nat
  mqtt : MqttState
  frp : FrpState
deriving DecidableEq

def snapshot (a : SnapshotAnswers) (s : Control) : StatusSnapshot :=
  { uptime := a.uptime
    revision := s.config.revision
    freeHeap := a.freeHeap
    minimumFreeHeap := a.minimumFreeHeap
    otaReceived := s.otaReceived
    otaTotal := if s.otaActive then s.otaRequest.imageSizeBytes.toNat else 0
    wifi := s.wifi.state
    mqtt := a.mqtt
    frp := a.frp
    config := if s.configUncertain || s.otaBootUncertain then .failed else .ready
    ota := if !build.eota.available then .unsupported
      else if s.otaActive then .running else .ready }

-- USB results stand on a line of their own.
def delivery (viaMqtt : Bool) (text : List UInt8) : Event :=
  .sent viaMqtt (if viaMqtt then text else bytesOf "\n" ++ text ++ bytesOf "\n")

def reply (requestId : CString) (state : Option ResultState) (error : Option String)
    (status : Option StatusSnapshot) (s : Control) : Control :=
  match formatResultJson resultJsonBytes s.deviceId s.bootId
      (if requestId = .empty then none else some requestId) state error status with
  | none => s
  | some text => { s with log := s.log ++ [delivery s.replyMqtt text] }

def replyOtaResult (requestId : CString) (view : OtaReceiptView) (s : Control) : Control :=
  let text := otaResultJson s.deviceId s.bootId requestId view
  if s.replyMqtt && resultJsonBytes ≤ text.length then s
  else { s with log := s.log ++ [delivery s.replyMqtt text] }

def slotRequestId (guard : Guard) (slot : Nat) : CString :=
  match guard.requests[slot]? with
  | some request => request.requestId
  | none => .empty

def emitOutcome (slot : Nat) (viaMqtt : Bool) (s : Control) : Control :=
  let out := s.outcomes slot
  let routed := reply (slotRequestId s.guard slot) out.state out.error out.status
    { s with replyMqtt := viaMqtt }
  { routed with replyMqtt := s.replyMqtt }

def saveOutcome (slot : Nat) (state : ResultState) (error : Option String)
    (status : Option StatusSnapshot) (s : Control) : Control :=
  let viaMqtt := (s.outcomes slot).viaMqtt
  let out : Outcome := { state := some state, error := error, status := status, viaMqtt := viaMqtt }
  emitOutcome slot viaMqtt
    { s with outcomes := Function.update s.outcomes slot out
             log := s.log ++ [.saved slot out] }

def restoreCommitted (a : ApplyAnswers) (now : Nat) (s : Control) : Control :=
  let (error, wifi) := wifiApply a s.config.wifi now s.wifi
  { s with wifi := wifi, configUncertain := s.configUncertain || error != .ok }

structure ConfigurationAnswers where
  commit : ConfigCommitFaults := {}
  reload : ConfigLoadFaults := {}
  apply : ApplyAnswers := {}
  snapshot : SnapshotAnswers

def trialReady (s : Control) : Bool :=
  if s.candidate.wifi.configured then wifiReady s.wifi else s.wifi.state == .unconfigured

def commitTrial (now : Nat) (a : ConfigurationAnswers) (s : Control) : Control :=
  let (result, stored) :=
    remoteConfigCommitVerified a.commit s.candidate s.candidate.revision s.configStore
  let s := { s with
    configStore := stored
    trialActive := false
    candidate := .zero
    log := s.log ++ [.committing now s.trialDeadline s.candidate s.wifi] }
  match result with
  | .ok committed =>
    let s := { s with config := committed }
    saveOutcome s.trialSlot .succeeded none (some (snapshot build a.snapshot s)) s
  | .error .configUncertain =>
    let s := { s with configUncertain := true }
    -- The write may have happened: the store decides which connectivity to select.
    let s := match remoteConfigLoad a.reload s.configStore with
      | .ok committed => restoreCommitted a.apply now { s with config := committed }
      | .error _ => { s with wifi := (wifiApply a.apply .zero now s.wifi).2 }
    saveOutcome s.trialSlot .unknown (some "storage_uncertain") none s
  | .error _ =>
    let s := restoreCommitted a.apply now s
    saveOutcome s.trialSlot .failed (some "storage_failure") none s

def pollConfiguration (now : Nat) (a : ConfigurationAnswers) (s : Control) : Control :=
  if !s.trialActive then s
  else if trialReady s && now < s.trialDeadline then commitTrial build now a s
  else if s.trialDeadline ≤ now || s.wifi.state == .failed then
    let s := restoreCommitted a.apply now { s with trialActive := false, candidate := .zero }
    saveOutcome s.trialSlot .failed (some "connection_proof_failed") none s
  else s

def finishOta (result : EotaResult) (s : Control) : Control :=
  let s := { s with
    controlState := { s.controlState with otaDownloadActive := false }
    otaActive := false
    otaReceived := 0 }
  let s := saveOutcome s.otaSlot (if result = eotaUpdateBootStateUnknown then .unknown else .failed)
    (some (build.eota.error result)) none s
  { s with otaRequest := .zero }

def pollOta (a : FailureAnswers) (s : Control) : Control :=
  if !s.otaActive || !s.otaDone then s
  else if s.otaResult = eotaUpdateOk then
    let s := saveOutcome s.otaSlot .running none none s
    { s with restarted := true, log := s.log ++ [.slotSelected] }
  else if s.otaResult = eotaUpdateBootStateUnknown then
    finishOta build s.otaResult { s with otaBootUncertain := true }
  else
    let (saved, stored) := otaReceiptRecordFailure build.eota a s.deviceId s.otaRequest.operationId
      s.otaResult s.receiptStore
    let s := { s with receiptStore := stored }
    if saved ≠ .ok then
      let s := { s with
        configUncertain := true
        controlState := { s.controlState with otaDownloadActive := false }
        otaActive := false
        otaReceived := 0 }
      let s := saveOutcome s.otaSlot .unknown (some "storage_uncertain") none s
      { s with otaRequest := .zero }
    else
      let (released, owner, claim) := storageRelease s.storageOwner s.otaStorageClaim
      let s := { s with storageOwner := owner, otaStorageClaim := claim }
      if !released then
        let s := { s with
          otaBootUncertain := true
          controlState := { s.controlState with otaDownloadActive := false }
          otaActive := false
          otaDone := false }
        let s := saveOutcome s.otaSlot .unknown (some "storage_uncertain") none s
        { s with otaRequest := .zero }
      else finishOta build s.otaResult s

structure LineAnswers where
  snapshot : SnapshotAnswers
  query : QueryAnswers
  hashed : Bool
  admitNow : Nat
  timeReady : Bool
  register : RegisterAnswers
  created : Bool
  failure : FailureAnswers := {}
  deadlineNow : Nat
  applyNow : Nat
  apply : ApplyAnswers := {}
  restoreNow : Nat
  restore : ApplyAnswers := {}

def otaReceiptError : OtaReceiptResult → String
  | .existing => "ota_operation_exists"
  | .conflict => "ota_operation_conflict"
  | .busy => "ota_previous_unresolved"
  | .slotUnavailable => "ota_slot_unavailable"
  | .selectorMismatch => "ota_selector_mismatch"
  | .sourceNotValid => "ota_source_not_valid"
  | .targetNotSafe => "ota_target_not_safe"
  | .targetStateUnknown => "ota_target_state_unknown"
  | .storageFailure => "storage_failure"
  | _ => "storage_uncertain"

def otaStartError (a : LineAnswers) (s : Control) : Option String :=
  if !build.eota.available then some "ota_signing_unavailable"
  else if s.controlState.otaVerificationPending then some "ota_verification_pending"
  else if s.otaActive then some "ota_in_progress"
  else if s.trialActive then some "configuration_busy"
  else if s.configUncertain then some "storage_uncertain"
  else if s.otaBootUncertain then some "ota_boot_state_unknown"
  else if !wifiReady s.wifi then some "network_unavailable"
  else if !a.timeReady then some "time_unavailable"
  else none

def startWorker (a : LineAnswers) (request : OtaRequest) (slot : Nat) (s : Control) : Control :=
  let s := { s with
    otaRequest := request
    otaSlot := slot
    otaActive := true
    otaDone := false
    otaReceived := 0
    controlState := { s.controlState with otaDownloadActive := true } }
  if !a.created then
    let s := { s with
      controlState := { s.controlState with otaDownloadActive := false }
      otaActive := false
      otaRequest := .zero }
    let (recorded, stored) := otaReceiptRecordFailure build.eota a.failure s.deviceId
      request.operationId eotaUpdateResourceFailure s.receiptStore
    let s := { s with receiptStore := stored }
    if recorded = .ok then
      let (released, owner, claim) := storageRelease s.storageOwner s.otaStorageClaim
      let s := { s with storageOwner := owner, otaStorageClaim := claim }
      if released then saveOutcome slot .failed (some "resource_failure") none s
      else saveOutcome slot .unknown (some "storage_uncertain") none { s with configUncertain := true }
    else saveOutcome slot .unknown (some "storage_uncertain") none { s with configUncertain := true }
  else
    let s := { s with
      workers := s.workers ++ [request]
      log := s.log ++ [.workerCreated slot request] }
    saveOutcome slot .running none none s

def startOta (a : LineAnswers) (request : OtaRequest) (slot : Nat) (s : Control) : Control :=
  let (claimed, owner, claim) := storageClaim s.storageOwner s.otaStorageClaim
  let s := { s with storageOwner := owner, otaStorageClaim := claim }
  if !claimed then saveOutcome slot .failed (some "operation_busy") none s
  else
    let (receipt, stored) := otaReceiptRegister build.eota a.register s.deviceId request s.receiptStore
    let s := { s with
      receiptStore := stored
      log := s.log ++ [.registering slot request receipt] }
    if receipt ≠ .ok then
      if receipt = .storageUncertain then
        saveOutcome slot .unknown (some "storage_uncertain") none { s with configUncertain := true }
      else
        let (released, owner, claim) := storageRelease s.storageOwner s.otaStorageClaim
        let s := { s with storageOwner := owner, otaStorageClaim := claim }
        if !released then
          saveOutcome slot .unknown (some "storage_uncertain") none { s with configUncertain := true }
        else saveOutcome slot .failed (some (otaReceiptError receipt)) none s
    else startWorker build a request slot s

def writeError (s : Control) : Option String :=
  if s.otaActive then some "ota_in_progress"
  else if s.otaBootUncertain then some "ota_boot_state_unknown"
  else if s.trialActive then some "configuration_busy"
  else if s.configUncertain then some "storage_uncertain"
  else none

def startTrial (a : LineAnswers) (config : RemoteConfig) (slot : Nat) (s : Control) : Control :=
  let s := saveOutcome slot .running none none
    { s with candidate := config
             trialSlot := slot
             trialDeadline := a.deadlineNow + 20000
             log := s.log ++ [.trialStarted slot config a.deadlineNow s.configStore] }
  let (error, wifi) := wifiApply a.apply s.candidate.wifi a.applyNow s.wifi
  let s := { s with wifi := wifi }
  if error ≠ .ok then
    let s := restoreCommitted a.restore a.restoreNow { s with candidate := .zero }
    saveOutcome slot .failed (some "connection_proof_failed") none s
  else { s with trialActive := true }

def configSetError (config : RemoteConfig) (s : Control) : Option String :=
  if config.revision ≠ s.config.revision then some "revision_conflict"
  else if config.revision = 0xffffffff then some "revision_exhausted"
  else none

def execute (a : LineAnswers) (command : Command) (slot : Nat) (s : Control) : Control :=
  let refuse := fun error => saveOutcome slot .failed (some error) none s
  match command.kind with
  | .configSet =>
    if s.replyMqtt then refuse "physical_usb_required"
    else
      match configWriteError s.controlState with
      | some error => refuse error
      | none =>
        match writeError s with
        | some error => refuse error
        | none =>
          match configSetError command.config s with
          | some error => refuse error
          | none => startTrial a command.config slot s
  | .otaStart =>
    match otaStartError build a s with
    | some error => refuse error
    | none => startOta build a command.ota slot s
  | _ =>
    match writeError s with
    | some error => refuse error
    | none =>
      let s := saveOutcome slot .running none none s
      { s with restarted := true, log := s.log ++ [.restarting slot] }

def configFingerprintBytes (config : RemoteConfig) : Option (List UInt8) :=
  (configEncode config).map (fun encoded => bytesOf "config.set" ++ encoded)

def otaFingerprintBytes (ota : OtaRequest) : List UInt8 :=
  bytesOf "ota.start" ++ ota.operationId.bytes ++
    List.replicate (otaOperationIdBytes - ota.operationId.bytes.length) 0 ++ ota.imageUrl.bytes ++
    [0] ++ ota.sha256.toList ++ (Bytes.put32 ota.imageSizeBytes).reverse

-- `hashed`: the hash calls succeed. A restart carries the fingerprint the decoder gave it.
def fingerprinted (hashed : Bool) (command : Command) : Option Request :=
  match command.kind with
  | .configSet =>
    match configFingerprintBytes command.config with
    | some bytes =>
      if hashed then some { command.request with fingerprint := build.sha256 bytes } else none
    | none => none
  | .otaStart =>
    if hashed then
      some { command.request with fingerprint := build.sha256 (otaFingerprintBytes command.ota) }
    else none
  | _ => some command.request

def admissionError : Admission → Option String
  | .accept | .replay => none
  | .badIdentity => some "invalid_identity"
  | .wrongDevice => some "wrong_device"
  | .wrongBoot => some "wrong_boot"
  | .expired => some "expired"
  | .badWindow => some "invalid_deadline"
  | .requestConflict => some "request_conflict"
  | .queueFull => some "capacity_exceeded"

def receiptQueryError : OtaReceiptResult → ResultState × String
  | .unsupported => (.failed, "ota_signing_unavailable")
  | .notFound => (.unknown, "ota_operation_not_found")
  | _ => (.unknown, "storage_uncertain")

def handleOtaResult (a : LineAnswers) (command : Command) (s : Control) : Control :=
  let active := s.otaActive && s.otaRequest.operationId = command.operationId
  let (result, view) := otaReceiptQuery build.eota a.query s.deviceId command.operationId active
    s.receiptStore
  if result = .ok then replyOtaResult command.request.requestId view s
  else
    let (state, error) := receiptQueryError result
    reply command.request.requestId (some state) (some error) none s

@[simp] def Control.accept (slot : Nat) (request : Request) (guard : Guard) (s : Control) : Control :=
  { s with
    guard := guard
    outcomes := Function.update s.outcomes slot { s.outcomes slot with viaMqtt := s.replyMqtt }
    log := s.log ++ [.accepted slot s.replyMqtt request] }

def handleWrite (a : LineAnswers) (command : Command) (request : Request) (s : Control) : Control :=
  let (decision, slot, guard) := ebaseAdmit s.guard request s.deviceId s.bootId a.admitNow
  match decision with
  | .replay => emitOutcome slot s.replyMqtt s
  | .accept => execute build a command slot (s.accept slot request guard)
  | refused =>
    reply request.requestId (some (if refused = .expired then .expired else .failed))
      (admissionError refused) none s

def handleLine (a : LineAnswers) (line : Parsed) (s : Control) : Control :=
  let command := line.command
  match line.error with
  | some error => reply command.request.requestId (some .failed) (some error) none s
  | none =>
    match command.kind with
    | .status =>
      reply command.request.requestId (some .succeeded) none (some (snapshot build a.snapshot s)) s
    | .otaResult => handleOtaResult build a command s
    | _ =>
      match fingerprinted build a.hashed command with
      | none => reply command.request.requestId (some .failed) (some "resource_failure") none s
      | some request => handleWrite build a command request s

def handleMqttCommand (a : LineAnswers) (line : Parsed) (s : Control) : Control :=
  { handleLine build a line { s with replyMqtt := true } with replyMqtt := false }

def sentResult (deviceId bootId : CString) (viaMqtt : Bool) (requestId : CString)
    (state : Option ResultState) (error : Option String) (status : Option StatusSnapshot) :
    List Event :=
  match formatResultJson resultJsonBytes deviceId bootId
      (if requestId = .empty then none else some requestId) state error status with
  | none => []
  | some text => [delivery viaMqtt text]

def emission (deviceId bootId requestId : CString) (viaMqtt : Bool) (out : Outcome) : List Event :=
  sentResult deviceId bootId viaMqtt requestId out.state out.error out.status

theorem reply_eq (requestId : CString) (state : Option ResultState) (error : Option String)
    (status : Option StatusSnapshot) (s : Control) :
    reply requestId state error status s =
      { s with
        log := s.log ++ sentResult s.deviceId s.bootId s.replyMqtt requestId state error status } := by
  unfold reply sentResult
  split <;> simp

theorem replyOtaResult_eq (requestId : CString) (view : OtaReceiptView) (s : Control) :
    ∃ events, replyOtaResult requestId view s = { s with log := s.log ++ events } ∧
      ∀ event ∈ events, ∃ text, event = .sent s.replyMqtt text := by
  simp only [replyOtaResult]
  split
  · exact ⟨[], by simp, by simp⟩
  · exact ⟨_, rfl, by simp [delivery]⟩

theorem sentResult_sent (deviceId bootId : CString) (viaMqtt : Bool) (requestId : CString)
    (state : Option ResultState) (error : Option String) (status : Option StatusSnapshot) :
    ∀ event ∈ sentResult deviceId bootId viaMqtt requestId state error status,
      ∃ text, event = .sent viaMqtt text := by
  intro event member
  unfold sentResult at member
  split at member
  · cases member
  · obtain rfl := List.mem_singleton.mp member
    exact ⟨_, rfl⟩

theorem emitOutcome_eq (slot : Nat) (viaMqtt : Bool) (s : Control) :
    emitOutcome slot viaMqtt s =
      { s with
        log := s.log ++
          emission s.deviceId s.bootId (slotRequestId s.guard slot) viaMqtt (s.outcomes slot) } := by
  simp only [emitOutcome, reply_eq, emission]

def savedOutcome (viaMqtt : Bool) (state : ResultState) (error : Option String)
    (status : Option StatusSnapshot) : Outcome :=
  { state := some state, error := error, status := status, viaMqtt := viaMqtt }

theorem saveOutcome_eq (slot : Nat) (state : ResultState) (error : Option String)
    (status : Option StatusSnapshot) (s : Control) :
    saveOutcome slot state error status s =
      { s with
        outcomes := Function.update s.outcomes slot
          (savedOutcome (s.outcomes slot).viaMqtt state error status)
        log := s.log ++ .saved slot (savedOutcome (s.outcomes slot).viaMqtt state error status) ::
          emission s.deviceId s.bootId (slotRequestId s.guard slot) (s.outcomes slot).viaMqtt
            (savedOutcome (s.outcomes slot).viaMqtt state error status) } := by
  simp only [saveOutcome, emitOutcome_eq, Function.update_self, savedOutcome, List.append_assoc,
    List.cons_append, List.nil_append]

end EspBase

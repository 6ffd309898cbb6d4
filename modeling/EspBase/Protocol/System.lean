import EspBase.Protocol.Control
import EspBase.Shared.Run

set_option autoImplicit false

/-!
# One boot of the control task and its surroundings

A label is one call of the control task or one action of another task. Calls are
atomic: what another task changes during a call is read at most once by it, so
the change can be moved before or after the call.
-/

namespace EspBase

open DurableCell Transition

inductive Label where
  | line (viaMqtt : Bool) (a : LineAnswers) (line : Parsed)
  | pollConfiguration (now : Nat) (a : ConfigurationAnswers)
  | pollOta (a : FailureAnswers)
  | wifiEvent (event : WifiEvent)
  | wifiPoll (now : Nat) (a : WifiPollAnswers)
  | workerProgress (received : Nat)
  | workerDone (prepared selected : EotaResult)
  | slotConfirmed
  | otherClaim
  | otherRelease (index : Nat)

variable (build : Build)

-- `ota_progress`, called by a worker that has not published its result.
def workerProgress (received : Nat) (s : Control) : Control :=
  if s.workers = [] then s else { s with otaReceived := received }

-- The end of `ota_task`: `eota_select` runs only after a successful `eota_prepare`.
def workerDone (prepared selected : EotaResult) (s : Control) : Control :=
  match s.workers with
  | [] => s
  | _ :: others =>
    { s with
      otaResult := if prepared = eotaUpdateOk then selected else prepared
      otaDone := true
      workers := others }

def otherClaim (s : Control) : Control :=
  let (claimed, owner, claim) := storageClaim s.storageOwner .empty
  if claimed then { s with storageOwner := owner, otherClaims := s.otherClaims ++ [claim] }
  else { s with storageOwner := owner }

def otherRelease (index : Nat) (s : Control) : Control :=
  match s.otherClaims[index]? with
  | none => s
  | some claim =>
    let (released, owner, _) := storageRelease s.storageOwner claim
    if released then { s with storageOwner := owner, otherClaims := s.otherClaims.eraseIdx index }
    else s

def act : Label → Control → Control
  | .line viaMqtt a line, s =>
    if viaMqtt then handleMqttCommand build a line s else handleLine build a line s
  | .pollConfiguration now a, s => pollConfiguration build now a s
  | .pollOta a, s => pollOta build a s
  | .wifiEvent event, s => { s with wifi := eventReceived event s.wifi }
  | .wifiPoll now a, s => { s with wifi := wifiPoll now a s.wifi }
  | .workerProgress received, s => workerProgress received s
  | .workerDone prepared selected, s => workerDone prepared selected s
  | .slotConfirmed, s =>
    { s with controlState := { s.controlState with otaVerificationPending := false } }
  | .otherClaim, s => otherClaim s
  | .otherRelease index, s => otherRelease index s

-- `esp_restart` does not return.
def step (label : Label) (s : Control) : Control := if s.restarted then s else act build label s

structure Boot where
  deviceId : CString
  bootId : CString
  config : RemoteConfig
  wifiAnswers : WifiStartAnswers
  startedAt : Nat
  otaVerificationPending : Bool
  configStore : BlobCell
  receiptStore : BlobCell

-- Startup holds the storage owner's first claim when the control task begins.
def Boot.control (b : Boot) : Control :=
  let (_, owner, claim) := storageClaim .initial .empty
  { deviceId := b.deviceId
    bootId := b.bootId
    config := b.config
    guard := .empty
    outcomes := fun _ => .zero
    configUncertain := false
    trialActive := false
    otaActive := false
    otaBootUncertain := false
    otaStorageClaim := .empty
    otaSlot := 0
    otaRequest := .zero
    otaDone := false
    otaResult := eotaUpdateOk
    otaReceived := 0
    controlState :=
      { otaVerificationPending := b.otaVerificationPending, otaDownloadActive := false }
    trialSlot := 0
    trialDeadline := 0
    candidate := .zero
    replyMqtt := false
    wifi := (wifiStart b.wifiAnswers b.config.wifi b.startedAt .initial).2
    configStore := b.configStore
    receiptStore := b.receiptStore
    storageOwner := owner
    otherClaims := [claim]
    workers := []
    restarted := false
    log := [] }

abbrev runBoot (b : Boot) (labels : List Label) : Control := run (step build) labels b.control

end EspBase

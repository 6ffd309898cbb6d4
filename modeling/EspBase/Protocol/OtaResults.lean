import EspBase.Protocol.Trials
import EspBase.Wifi.Runs

set_option autoImplicit false

namespace EspBase

open Transition

def Event.registration : Event → Option (Nat × OtaRequest × OtaReceiptResult)
  | .registering slot request result => some (slot, request, result)
  | _ => none

/-- While a download is active, the receipt in the store is the prepared one of its request. -/
structure Registered (s : Control) : Prop where
  prepared : s.otaActive = true →
    ∃ a, storedReceipt s.receiptStore = some (preparedReceipt a s.deviceId s.otaRequest)
  own : s.otaActive = true → ∀ entry ∈ picked Event.registration s.log,
    entry.1 = s.otaSlot → entry.2.1 = s.otaRequest

variable (build : Build)

theorem registration_acted (slot : Nat) (request : OtaRequest) (result : OtaReceiptResult)
    (log : List Event) (member : (slot, request, result) ∈ picked Event.registration log) :
    .registration ∈ actions slot log := by
  obtain ⟨event, here, registration⟩ := List.mem_filterMap.mp member
  refine List.mem_filterMap.mpr ⟨event, here, ?_⟩
  cases event with
  | registering other ota answer =>
    obtain rfl : other = slot := congrArg Prod.fst (Option.some.inj registration)
    simp [Event.actionAt, Event.started]
  | _ => cases registration

theorem Accepted.unregistered {s : Control} {slot : Nat} {request : Request} {guard : Guard}
    (accepted : Accepted s slot request guard) (ledger : Ledger none s)
    (entry : Nat × OtaRequest × OtaReceiptResult) (member : entry ∈ picked Event.registration s.log) :
    entry.1 ≠ slot := by
  intro here
  have acted := registration_acted entry.1 entry.2.1 entry.2.2 s.log member
  rw [here, (ledger.unused slot accepted.slot.ge).2] at acted
  cases acted

theorem registered_kept (s t : Control) (effect : Effect build s t) (ledger : Ledger none s)
    (inv : Registered s) : Registered t := by
  have silent := @picked_emission _ Event.registration (fun _ _ => rfl)
  have busy (idle : Idle s) (active : s.otaActive = true) : False := by
    rw [idle.ota] at active
    cases active
  cases effect with
  | replied events sent =>
    have none := @picked_sent _ Event.registration (fun _ _ => rfl) _ events sent
    exact ⟨inv.prepared, fun active => by simpa [none] using inv.own active⟩
  | otaRefused slot request guard ota a owner claim result stored accepted idle =>
    rw [saveOutcome_eq]
    exact ⟨fun active => (busy idle active).elim, fun active => (busy idle active).elim⟩
  | otaUncertain slot request guard ota a owner claim stored accepted idle =>
    rw [saveOutcome_eq]
    exact ⟨fun active => (busy idle active).elim, fun active => (busy idle active).elim⟩
  | workerFailed =>
    rw [saveOutcome_eq]
    exact ⟨nofun, nofun⟩
  | workerLost =>
    rw [saveOutcome_eq]
    exact ⟨nofun, nofun⟩
  | workerStarted slot request guard ota a owner claim prepared accepted idle verified claimed
      registered =>
    have stored := (otaReceiptRegister_ok _ _ _ _ _ _ registered).2.1
    rw [saveOutcome_eq]
    refine ⟨fun _ => ⟨a, stored⟩, fun _ entry member here => ?_⟩
    have old := accepted.unregistered ledger entry
    simp [Event.registration, silent] at member here
    rcases member with before | rfl
    · exact absurd here (old before)
    · rfl
  | bootUnknown =>
    rw [saveOutcome_eq]
    exact ⟨nofun, nofun⟩
  | failureLost =>
    rw [saveOutcome_eq]
    exact ⟨nofun, nofun⟩
  | releaseFailed =>
    rw [saveOutcome_eq]
    exact ⟨nofun, nofun⟩
  | otaFailed =>
    rw [saveOutcome_eq]
    exact ⟨nofun, nofun⟩
  | _ =>
    exact ⟨by simpa [saveOutcome_eq] using inv.prepared,
      by simpa [saveOutcome_eq, silent, Event.registration] using inv.own⟩

def Event.saving : Event → Option (Nat × Outcome)
  | .saved slot out => some (slot, out)
  | _ => none

theorem saving_mem {slot : Nat} {out : Outcome} {log : List Event} :
    (slot, out) ∈ picked Event.saving log ↔ .saved slot out ∈ log := by
  constructor
  · intro member
    obtain ⟨event, here, same⟩ := List.mem_filterMap.mp member
    cases event with
    | saved other kept =>
      cases same
      exact here
    | _ => cases same
  · exact fun member => List.mem_filterMap.mpr ⟨_, member, rfl⟩

theorem registration_mem {slot : Nat} {ota : OtaRequest} {result : OtaReceiptResult}
    {log : List Event} :
    (slot, ota, result) ∈ picked Event.registration log ↔ .registering slot ota result ∈ log := by
  constructor
  · intro member
    obtain ⟨event, here, same⟩ := List.mem_filterMap.mp member
    cases event with
    | registering other request answer =>
      cases same
      exact here
    | _ => cases same
  · exact fun member => List.mem_filterMap.mpr ⟨_, member, rfl⟩

/-- The receipt of this operation with the failure that the outcome reports. -/
structure FailureRecorded (deviceId operationId : CString) (out : Outcome) (receipt : Receipt) : Prop
    where
  device : receipt.deviceId = deviceId
  operation : receipt.operationId = operationId
  status : receipt.status = otaStatusFailed
  error : out.error = some (build.eota.error receipt.failure.toNat)

theorem recordFailure_recorded (f : FailureAnswers) (deviceId operationId : CString)
    (error : EotaResult) (cell after : BlobCell) (out : Outcome)
    (recorded : otaReceiptRecordFailure build.eota f deviceId operationId error cell = (.ok, after))
    (reported : out.error = some (build.eota.error error)) :
    ∃ receipt, storedReceipt after = some receipt ∧
      FailureRecorded build deviceId operationId out receipt := by
  obtain ⟨valid, receipt, -, device, operation, stored⟩ := otaReceiptRecordFailure_ok _ _ _ _ _ _ _ recorded
  refine ⟨_, stored, device, operation, rfl, ?_⟩
  have small : error ≤ 10 := by
    by_contra large
    have beyond : error > eotaUpdateResourceFailure := Nat.lt_of_not_le large
    simp [recordable, beyond] at valid
  have same : error.toUInt8.toNat = error := Nat.mod_eq_of_lt (Nat.lt_of_le_of_lt small (by decide))
  rw [reported]
  exact congrArg (fun code => some (build.eota.error code)) same.symm

theorem trial_unregistered (started : List Action) (once : StartedOnce started)
    (trial : .trial ∈ started) : .registration ∉ started := by
  simp only [StartedOnce, List.mem_cons, List.not_mem_nil, or_false] at once
  rcases once with rfl | rfl | rfl | rfl | rfl
  · simp
  · simp
  · simp at trial
  · simp at trial
  · simp

theorem effect_failed (s t : Control) (effect : Effect build s t) (ledger : Ledger none s)
    (inv : Registered s) (trial : s.trialActive = true → s.trialSlot ∈ trials s.log)
    (resource : build.eota.error eotaUpdateResourceFailure = "resource_failure") (slot : Nat)
    (out : Outcome) (ota : OtaRequest) (saved : (slot, out) ∈ picked Event.saving (newEvents s t))
    (failed : out.state = some .failed)
    (registered : (slot, ota, .ok) ∈ picked Event.registration t.log) :
    ∃ receipt, storedReceipt t.receiptStore = some receipt ∧
      FailureRecorded build s.deviceId ota.operationId out receipt := by
  have silent := @picked_emission _ Event.saving (fun _ _ => rfl)
  have quiet := @picked_emission _ Event.registration (fun _ _ => rfl)
  rw [effect_log build s t effect, picked_append, List.mem_append] at registered
  have unregistered (request : Request) (guard : Guard) (accepted : Accepted s slot request guard)
      (before : (slot, ota, .ok) ∈ picked Event.registration s.log) : False :=
    accepted.unregistered ledger _ before rfl
  have tried (here : slot = s.trialSlot) (active : s.trialActive = true)
      (before : (slot, ota, .ok) ∈ picked Event.registration s.log) : False := by
    refine trial_unregistered _ (ledger.started s.trialSlot) (trial_acted _ _ (trial active)) ?_
    rw [here] at before
    exact registration_acted _ _ _ _ before
  cases effect with
  | replied events sent =>
    simp [newEvents, @picked_sent _ Event.saving (fun _ _ => rfl) _ events sent] at saved
  | refused slot' request guard error accepted =>
    simp [newEvents, saveOutcome_eq, silent, Event.saving] at saved
    simp [newEvents, saveOutcome_eq, quiet, Event.registration] at registered
    obtain ⟨rfl, -⟩ := saved
    exact (unregistered request guard accepted registered).elim
  | otaRefused slot' request guard ota' a owner claim result stored accepted idle verified claimed
      answer notOk =>
    simp [newEvents, saveOutcome_eq, silent, Event.saving] at saved
    simp [newEvents, saveOutcome_eq, quiet, Event.registration] at registered
    obtain ⟨rfl, -⟩ := saved
    rcases registered with before | ⟨-, -, rfl⟩
    · exact (unregistered request guard accepted before).elim
    · exact absurd rfl notOk
  | workerFailed slot' request guard ota' a f owner claim prepared stored accepted idle verified claimed
      answer recorded =>
    simp [newEvents, saveOutcome_eq, silent, Event.saving] at saved
    simp [newEvents, saveOutcome_eq, quiet, Event.registration] at registered
    obtain ⟨rfl, rfl⟩ := saved
    rcases registered with before | ⟨-, rfl⟩
    · exact (unregistered request guard accepted before).elim
    · rw [saveOutcome_eq]
      exact recordFailure_recorded build f s.deviceId ota.operationId _ prepared stored _ recorded
        (by rw [resource]; rfl)
  | trialRefused slot' request guard candidate startedAt now restoredAt a b error restored wifi back
      accepted =>
    simp [newEvents, saveOutcome_eq, silent, Event.saving] at saved
    simp [newEvents, saveOutcome_eq, quiet, Event.registration] at registered
    obtain rfl : slot = slot' := by
      rcases saved with ⟨here, -⟩ | ⟨here, -⟩
      · exact here
      · exact here
    exact (unregistered request guard accepted registered).elim
  | commitFailed now faults stored failure a error wifi active =>
    simp [newEvents, saveOutcome_eq, silent, Event.saving] at saved
    simp [newEvents, saveOutcome_eq, quiet, Event.registration] at registered
    exact (tried saved.1 active registered).elim
  | proofFailed now a error wifi active =>
    simp [newEvents, saveOutcome_eq, silent, Event.saving] at saved
    simp [newEvents, saveOutcome_eq, quiet, Event.registration] at registered
    exact (tried saved.1 active registered).elim
  | otaFailed f stored active done result known recorded =>
    simp [newEvents, saveOutcome_eq, silent, Event.saving] at saved
    simp [newEvents, saveOutcome_eq, quiet, Event.registration] at registered
    obtain ⟨rfl, rfl⟩ := saved
    obtain rfl : ota = s.otaRequest := inv.own active _ registered rfl
    have written := recordFailure_recorded build f s.deviceId s.otaRequest.operationId s.otaResult
      s.receiptStore stored (savedOutcome (s.outcomes s.otaSlot).viaMqtt .failed
        (some (build.eota.error s.otaResult)) none) recorded rfl
    rw [saveOutcome_eq]
    exact written
  | _ =>
    simp [newEvents, saveOutcome_eq, silent, Event.saving] at saved
    try simp [saved, savedOutcome] at failed

structure AsksResult (line : Parsed) (operationId : CString) : Prop where
  parsed : line.error = none
  kind : line.command.kind = .otaResult
  operation : line.command.operationId = operationId

def Reports (viaMqtt : Bool) (a : LineAnswers) (line : Parsed) (s : Control)
    (state : OtaOperationState) (error : Option String) : Prop :=
  ∃ view : OtaReceiptView, view.operationId = line.command.operationId ∧ view.state = state ∧
    view.errorCode = error ∧
    step build (.line viaMqtt a line) s =
      (replyOtaResult line.command.request.requestId view (s.withChannel viaMqtt)).withChannel false

theorem reports_loaded (viaMqtt : Bool) (a : LineAnswers) (line : Parsed) (s : Control)
    (usb : s.replyMqtt = false) (awake : s.restarted = false) (receipt : Receipt)
    (signed : build.eota.available) (loaded : receiptLoad a.query.load s.receiptStore = .ok receipt)
    (own : receipt.deviceId = s.deviceId) (asks : AsksResult line receipt.operationId)
    (state : OtaOperationState) (error : Option String)
    (verdict : evaluate build.eota receipt
      (s.otaActive && s.otaRequest.operationId = receipt.operationId) a.query.slots = (state, error)) :
    Reports build viaMqtt a line s state error := by
  have answer := otaReceiptQuery_loaded build.eota s.deviceId a.query
    (s.otaActive && s.otaRequest.operationId = receipt.operationId) s.receiptStore receipt signed
    loaded own
  rw [verdict] at answer
  refine ⟨{ state := state, errorCode := error, operationId := receipt.operationId
            sha256 := receipt.sha256, imageSizeBytes := receipt.imageSizeBytes
            targetSubtype := receipt.targetSubtype }, asks.operation.symm, rfl, rfl, ?_⟩
  rw [step_line build a line viaMqtt s usb awake]
  simp only [handleLine, asks.parsed, asks.kind, handleOtaResult, asks.operation,
    Control.withChannel, answer, if_true]

theorem effect_device (s t : Control) (effect : Effect build s t) : t.deviceId = s.deviceId := by
  cases effect <;> simp [saveOutcome_eq]

theorem registered_reached (b : Boot) (labels : List Label) :
    (runBoot build b labels).replyMqtt = false ∧
      TrialInvariant b.wifiStarted (runBoot build b labels) ∧
      Registered (runBoot build b labels) ∧
      (runBoot build b labels).deviceId = b.deviceId := by
  refine @run_keeps build (fun s => TrialInvariant b.wifiStarted s ∧ Registered s ∧
    s.deviceId = b.deviceId) ?_ ?_ labels b.control rfl
      ⟨trialInvariant_boot b, ⟨nofun, nofun⟩, rfl⟩
  · rintro s viaMqtt ⟨trial, inv, device⟩
    exact ⟨trialInvariant_channel _ s viaMqtt trial, ⟨inv.prepared, inv.own⟩, device⟩
  · rintro s t effect ⟨trial, inv, device⟩
    exact ⟨trialInvariant_kept build _ s t effect trial,
      registered_kept build s t effect trial.ledger inv,
      (effect_device build s t effect).trans device⟩

structure AtSource (receipt : Receipt) (a : SlotAnswers) : Prop where
  observed : a.observed.1 = eotaUpdateOk
  running : a.observed.2.runningSubtype = receipt.sourceSubtype
  boot : a.observed.2.bootSubtype = receipt.sourceSubtype
  valid : a.observed.2.runningState = .valid

/-- An active download is reported as running. A download that the protocol has reported as failed
is reported as failed with the same error for as long as its receipt stays, over any later boot. -/
theorem ota_results_agree (b : Boot) (labels : List Label) (signed : build.eota.available = true)
    (resource : build.eota.error eotaUpdateResourceFailure = "resource_failure") :
    let s := runBoot build b labels
    (∀ viaMqtt a line receipt, s.otaActive = true → s.restarted = false →
      AsksResult line s.otaRequest.operationId →
      receiptLoad a.query.load s.receiptStore = .ok receipt →
        Reports build viaMqtt a line s .running none) ∧
      ∀ label slot out ota, .saved slot out ∈ newEvents s (step build label s) →
        out.state = some .failed → .registering slot ota .ok ∈ (step build label s).log →
        ∃ receipt, storedReceipt (step build label s).receiptStore = some receipt ∧
          FailureRecorded build b.deviceId ota.operationId out receipt ∧
          ∀ later more, later.deviceId = b.deviceId →
            let u := runBoot build later more
            ∀ viaMqtt a line, u.restarted = false → AsksResult line ota.operationId →
              receiptLoad a.query.load u.receiptStore = .ok receipt → AtSource receipt a.query.slots →
                Reports build viaMqtt a line u .failed out.error := by
  intro s
  obtain ⟨usb, trial, inv, device⟩ := registered_reached build b labels
  constructor
  · intro viaMqtt a line receipt active awake asks loaded
    obtain ⟨r, stored⟩ := inv.prepared active
    obtain rfl := Option.some.inj ((receiptLoad_ok _ _ _ loaded).symm.trans stored)
    refine reports_loaded build viaMqtt a line s usb awake _ signed loaded rfl asks _ _ ?_
    have working : (s.otaActive && s.otaRequest.operationId =
        (preparedReceipt r s.deviceId s.otaRequest).operationId) = true := by
      rw [active]
      exact decide_eq_true rfl
    exact (congrArg (fun working => evaluate build.eota _ working a.query.slots) working).trans rfl
  · intro label slot out ota saved failed registered
    obtain ⟨viaMqtt, t, effect, same⟩ := step_effect build label s usb
    have recorded := effect_failed build (s.withChannel viaMqtt) t effect
      (trial.ledger.unchanged ⟨rfl, rfl, rfl, rfl⟩ rfl) ⟨inv.prepared, inv.own⟩ ?_ resource slot out ota
      ?_ failed ?_
    · obtain ⟨receipt, stored, failure⟩ := recorded
      have here : storedReceipt (step build label s).receiptStore = some receipt := by
        rw [same]
        exact stored
      have failure : FailureRecorded build b.deviceId ota.operationId out receipt := by
        rw [← device]
        exact failure
      refine ⟨receipt, here, failure, ?_⟩
      intro later more same_device u viaMqtt a line awake asks loaded source
      obtain ⟨usb_later, -, inv_later, device_later⟩ := registered_reached build later more
      have stored_later : storedReceipt u.receiptStore = some receipt := receiptLoad_ok _ _ _ loaded
      have storable := ((storedReceipt_eq_some_iff _ _).mp stored_later).2
      have ended : (u.otaActive && u.otaRequest.operationId = receipt.operationId) = false := by
        by_contra active
        simp only [Bool.and_eq_true, Bool.not_eq_false] at active
        obtain ⟨r, prepared⟩ := inv_later.prepared active.1
        obtain rfl := Option.some.inj (stored_later.symm.trans prepared)
        exact absurd (show otaStatusPrepared = otaStatusFailed from failure.status) (by decide)
      have own : receipt.deviceId = u.deviceId :=
        failure.device.trans (same_device.symm.trans device_later.symm)
      refine reports_loaded build viaMqtt a line u usb_later awake receipt signed loaded own
        (failure.operation ▸ asks) _ _ ?_
      rw [ended, failure.error]
      exact evaluate_failed build.eota receipt a.query.slots storable failure.status source.observed
        source.running source.boot source.valid
    · intro active
      obtain ⟨startedAt, -, member⟩ := trial.begun active
      exact List.mem_filterMap.mpr ⟨_, member, rfl⟩
    · rw [same] at saved
      exact saving_mem.mpr saved
    · rw [same] at registered
      exact registration_mem.mpr registered

def signedBuild : Build := { eota := sampleBuild, sha256 := fun _ => zeroDigest }

def onlineBoot : Boot := { sampleBoot with config := { RemoteConfig.zero with wifi := sampleWifi } }

-- Startup releases the storage owner and the station gets its address.
def online : List Label :=
  [.otherRelease 0, .wifiEvent .associated, .wifiEvent .gotAddress,
    .wifiPoll 500
      { events := fun _ =>
          { apInfo := some { ssid := sampleWifi.ssid, authmode := .wpa2Psk }
            netifUp := true
            address := some 1 } }]

def workerlessStart : Label :=
  .line false { sampleAnswersAt 1000 with created := false } (sampleOtaStart sampleDevice)

theorem ota_results_agree_workerless :
    ∃ receipt, storedReceipt (step signedBuild workerlessStart
        (runBoot signedBuild onlineBoot online)).receiptStore = some receipt ∧
      receipt.status = otaStatusFailed := by
  obtain ⟨receipt, stored, failure, -⟩ := (ota_results_agree signedBuild onlineBoot online rfl rfl).2
    workerlessStart 0 (savedOutcome false .failed (some "resource_failure") none) firstRequest
    (saving_mem.mp (by decide +kernel)) rfl (registration_mem.mp (by decide +kernel))
  exact ⟨receipt, stored, failure.status⟩

end EspBase

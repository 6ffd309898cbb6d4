import EspBase.Container.Phases
import EspBase.Ota.OwnerLease
import EspBase.Protocol.Effects
import EspBase.Protocol.OtaPhases
import EspBase.Startup.AppMain

set_option autoImplicit false

/-!
# One boot of everything that shares the storage owner

`app_main`, the control task, the OTA worker, and any number of Container
operations; a step is one call of one of them and the code up to its next call.
-/

namespace EspBase

open Transition

variable (build : Build)

/-- `main.storageOwner` and its gate are the shared ones whenever `app_main` runs. -/
structure Shared where
  control : Control
  place : OtaPlace
  main : AppMain
  operations : Nat → Operation
  records : Nat → StorageClaim

def Boot.shared (b : Boot) : Shared :=
  { control := { b.control with storageOwner := .initial, otherClaims := [] }
    place := .rest
    main := .initial
    operations := fun _ => .initial
    records := fun _ => .empty }

def otaStarting (viaMqtt : Bool) (a : LineAnswers) (line : Parsed) (s : Control) : Option (Nat × Control) :=
  if line.error = none ∧ line.command.kind = .otaStart then
    match fingerprinted build a.hashed line.command with
    | none => none
    | some request =>
      let (decision, slot, guard) := ebaseAdmit s.guard request s.deviceId s.bootId a.admitNow
      let accepted := { s with replyMqtt := viaMqtt }.accept slot request guard
      if decision = .accept ∧ otaStartError build a accepted = none then some (slot, accepted) else none
  else none

inductive SharedLabel where
  | main (r : MainReading)
  | line (viaMqtt : Bool) (a : LineAnswers) (line : Parsed)
  | pollOta
  | advance (a : PhaseAnswers)
  | pollConfiguration (now : Nat) (a : ConfigurationAnswers)
  | wifiEvent (event : WifiEvent)
  | wifiPoll (now : Nat) (a : WifiPollAnswers)
  | workerProgress (received : Nat)
  | workerDone (prepared selected : EotaResult)
  | operation (index : Nat) (a : OperationAnswers)
  | callback (index : Nat) (call : OwnerCall)

-- A command that is through leaves the task answering on USB.
def Shared.phased (s : Shared) (x : OtaPlace × Control) : Shared :=
  { s with place := x.1, control := if x.1 = .rest then { x.2 with replyMqtt := false } else x.2 }

def Shared.acted (s : Shared) (label : Label) : Shared := { s with control := step build label s.control }

def mainShared (r : MainReading) (s : Shared) : Shared :=
  let main := mainStep r { s.main with
    storageOwner := s.control.storageOwner
    otaVerificationPending := s.control.controlState.otaVerificationPending }
  { s with
    main := main
    control := { s.control with
      storageOwner := main.storageOwner
      controlState := { s.control.controlState with otaVerificationPending := main.otaVerificationPending } } }

-- The control task is one thread: it takes up nothing new before it is through.
def controlShared (label : SharedLabel) (s : Shared) : Shared :=
  if s.control.restarted then s
  else
    match label with
    | .line viaMqtt a line =>
      if s.place ≠ .rest then s
      else
        match otaStarting build viaMqtt a line s.control with
        | some (slot, accepted) => s.phased (claimOta line.command.ota slot accepted)
        | none => s.acted build (.line viaMqtt a line)
    | .pollOta => if s.place ≠ .rest then s else s.phased (readOta build s.control)
    | .advance a => if s.place = .rest then s else s.phased (advanceOta build a s.place s.control)
    | .pollConfiguration now a => if s.place ≠ .rest then s else s.acted build (.pollConfiguration now a)
    | .wifiPoll now a => if s.place ≠ .rest then s else s.acted build (.wifiPoll now a)
    | .wifiEvent event => s.acted build (.wifiEvent event)
    | .workerProgress received => s.acted build (.workerProgress received)
    | .workerDone prepared selected => s.acted build (.workerDone prepared selected)
    | _ => s

def operationShared (index : Nat) (a : OperationAnswers) (s : Shared) : Shared :=
  let moved := operationPhase a s.control.storageOwner (s.operations index)
  { s with
    control := { s.control with storageOwner := moved.1 }
    operations := Function.update s.operations index moved.2 }

def Operation.operating (o : Operation) : Bool :=
  match o.place with
  | .operate _ _ => true
  | _ => false

def callbackShared (index : Nat) (call : OwnerCall) (s : Shared) : Shared :=
  if (s.operations index).operating then
    let used := ownerCall call { owner := s.control.storageOwner, records := s.records }
    { s with control := { s.control with storageOwner := used.owner }, records := used.records }
  else s

def sharedStep (label : SharedLabel) (s : Shared) : Shared :=
  match label with
  | .main r => mainShared r s
  | label =>
    if s.main.pc = .claim then s
    else
      match label with
      | .operation index a => operationShared index a s
      | .callback index call => callbackShared index call s
      | label => controlShared build label s

abbrev runShared (b : Boot) (labels : List SharedLabel) : Shared := run (sharedStep build) labels b.shared

structure OtaView where
  owner : StorageOwner
  claim : StorageClaim
  active : Bool
  done : Bool
  request : OtaRequest
  workers : List OtaRequest
  store : BlobCell
  device : CString
  restarted : Bool

def Control.otaView (s : Control) : OtaView :=
  { owner := s.storageOwner
    claim := s.otaStorageClaim
    active := s.otaActive
    done := s.otaDone
    request := s.otaRequest
    workers := s.workers
    store := s.receiptStore
    device := s.deviceId
    restarted := s.restarted }

@[simp] theorem saveOutcome_otaView (slot : Nat) (state : ResultState) (error : Option String)
    (status : Option StatusSnapshot) (s : Control) :
    (saveOutcome slot state error status s).otaView = s.otaView := by
  rw [saveOutcome_eq]
  rfl

@[simp] theorem emitOutcome_otaView (slot : Nat) (viaMqtt : Bool) (s : Control) :
    (emitOutcome slot viaMqtt s).otaView = s.otaView := by
  rw [emitOutcome_eq]
  rfl

@[simp] theorem reply_otaView (requestId : CString) (state : Option ResultState) (error : Option String)
    (status : Option StatusSnapshot) (s : Control) :
    (reply requestId state error status s).otaView = s.otaView := by
  rw [reply_eq]
  rfl

@[simp] theorem restoreCommitted_otaView (a : ApplyAnswers) (now : Nat) (s : Control) :
    (restoreCommitted a now s).otaView = s.otaView := rfl

theorem startTrial_otaView (a : LineAnswers) (config : RemoteConfig) (slot : Nat) (s : Control) :
    (startTrial a config slot s).otaView = s.otaView := by
  unfold startTrial
  dsimp only
  split
  · rw [saveOutcome_otaView, restoreCommitted_otaView]
    exact saveOutcome_otaView _ _ _ _ _
  · exact saveOutcome_otaView _ _ _ _ _

@[simp] theorem replyOtaResult_otaView (requestId : CString) (view : OtaReceiptView) (s : Control) :
    (replyOtaResult requestId view s).otaView = s.otaView := by
  obtain ⟨events, same, -⟩ := replyOtaResult_eq requestId view s
  rw [same]
  rfl

theorem handleOtaResult_otaView (a : LineAnswers) (command : Command) (s : Control) :
    (handleOtaResult build a command s).otaView = s.otaView := by
  unfold handleOtaResult
  dsimp only
  split
  · exact replyOtaResult_otaView _ _ _
  · exact reply_otaView _ _ _ _ _

structure OtaUntouched (s t : Control) : Prop where
  view : t.otaView = { s.otaView with restarted := t.restarted }
  idle : t.restarted = true → s.restarted = true ∨ s.otaActive = false

theorem untouched_of_view (s t : Control) (same : t.otaView = s.otaView) : OtaUntouched s t := by
  have restarted : t.restarted = s.restarted := congrArg OtaView.restarted same
  constructor
  case view => rw [same, restarted]; rfl
  case idle => exact fun over_ => .inl (restarted ▸ over_)

theorem execute_untouched (a : LineAnswers) (command : Command) (slot : Nat) (s : Control)
    (stays : command.kind = .otaStart → otaStartError build a s ≠ none) :
    OtaUntouched s (execute build a command slot s) := by
  have refuse (error : String) : OtaUntouched s (saveOutcome slot .failed (some error) none s) :=
    untouched_of_view s _ (saveOutcome_otaView _ _ _ _ _)
  unfold execute
  cases kind : command.kind with
  | configSet =>
    dsimp only
    split
    · exact refuse _
    split
    · exact refuse _
    split
    · exact refuse _
    split
    · exact refuse _
    · exact untouched_of_view s _ (startTrial_otaView _ _ _ _)
  | otaStart =>
    dsimp only
    split
    · exact refuse _
    next fine => exact absurd fine (stays kind)
  | status | restart | otaResult =>
    dsimp only
    split
    · exact refuse _
    next fine =>
      have kept := saveOutcome_otaView slot .running none none s
      constructor
      case view => exact congrArg (fun view : OtaView => { view with restarted := true }) kept
      case idle => exact fun _ => .inr (writeError_none s fine).ota

theorem handleWrite_untouched (a : LineAnswers) (command : Command) (request : Request) (s : Control)
    (stays : command.kind = .otaStart →
      (ebaseAdmit s.guard request s.deviceId s.bootId a.admitNow).1 = .accept →
      otaStartError build a s ≠ none) :
    OtaUntouched s (handleWrite build a command request s) := by
  unfold handleWrite
  generalize ebaseAdmit s.guard request s.deviceId s.bootId a.admitNow = admitted at stays ⊢
  obtain ⟨decision, slot, guard⟩ := admitted
  dsimp only at stays ⊢
  split
  · exact untouched_of_view s _ (emitOutcome_otaView _ _ _)
  · have untouched := execute_untouched build a command slot (s.accept slot request guard)
      (fun kind => stays kind rfl)
    exact ⟨untouched.view, untouched.idle⟩
  · exact untouched_of_view s _ (reply_otaView _ _ _ _ _)

theorem handleLine_untouched (a : LineAnswers) (line : Parsed) (s : Control)
    (stays : line.error = none → line.command.kind = .otaStart →
      ∀ request, fingerprinted build a.hashed line.command = some request →
        (ebaseAdmit s.guard request s.deviceId s.bootId a.admitNow).1 = .accept →
        otaStartError build a s ≠ none) :
    OtaUntouched s (handleLine build a line s) := by
  unfold handleLine
  dsimp only
  cases fine : line.error with
  | some error => exact untouched_of_view s _ (reply_otaView _ _ _ _ _)
  | none =>
    cases kind : line.command.kind with
    | status => exact untouched_of_view s _ (reply_otaView _ _ _ _ _)
    | otaResult => exact untouched_of_view s _ (handleOtaResult_otaView _ _ _ _)
    | restart | configSet | otaStart =>
      dsimp only
      cases printed : fingerprinted build a.hashed line.command with
      | none => exact untouched_of_view s _ (reply_otaView _ _ _ _ _)
      | some request =>
        exact handleWrite_untouched build a line.command request s (fun kind => stays fine kind request printed)

theorem line_untouched (viaMqtt : Bool) (a : LineAnswers) (line : Parsed) (s : Control)
    (stays : otaStarting build viaMqtt a line s = none) :
    OtaUntouched s (act build (.line viaMqtt a line) s) := by
  have refused : line.error = none → line.command.kind = .otaStart →
      ∀ request, fingerprinted build a.hashed line.command = some request →
        (ebaseAdmit s.guard request s.deviceId s.bootId a.admitNow).1 = .accept →
        otaStartError build a s ≠ none := by
    intro fine kind request printed accepted starts
    simp only [otaStarting, fine, kind, and_self, if_true, printed] at stays
    rw [if_pos ⟨accepted, starts⟩] at stays
    cases stays
  unfold act
  cases viaMqtt with
  | false => exact handleLine_untouched build a line s refused
  | true =>
    have untouched := handleLine_untouched build a line { s with replyMqtt := true } refused
    exact ⟨untouched.view, untouched.idle⟩

theorem pollConfiguration_otaView (now : Nat) (a : ConfigurationAnswers) (s : Control) :
    (pollConfiguration build now a s).otaView = s.otaView := by
  unfold pollConfiguration
  split
  · rfl
  split
  · unfold commitTrial
    dsimp only
    split
    · exact saveOutcome_otaView _ _ _ _ _
    · split <;> exact saveOutcome_otaView _ _ _ _ _
    · exact saveOutcome_otaView _ _ _ _ _
  split
  · exact saveOutcome_otaView _ _ _ _ _
  · rfl

theorem workerProgress_otaView (received : Nat) (s : Control) : (workerProgress received s).otaView = s.otaView := by
  unfold workerProgress
  split <;> rfl

structure OtaView.Prepared (v : OtaView) (request : OtaRequest) : Prop where
  stored : ∃ receipt, storedReceipt v.store = some receipt ∧ receipt.status = otaStatusPrepared ∧
    receipt.deviceId = v.device ∧ receipt.operationId = request.operationId ∧
    receipt.sha256 = request.sha256 ∧ receipt.imageSizeBytes = request.imageSizeBytes

-- The claim is held, and no download is active.
def OtaPlace.unstarted : OtaPlace → Bool
  | .register _ _ | .releaseRefused _ _ | .recordUnstarted _ _ | .releaseUnstarted _ => true
  | _ => false

structure OtaSound (place : OtaPlace) (v : OtaView) : Prop where
  held : place ≠ .rest ∨ v.active = true → v.owner.HeldBy v.claim
  unstarted : place.unstarted = true → v.active = false
  working : v.workers = [] ∨
    (v.workers = [v.request] ∧ v.active = true ∧ v.done = false ∧ place = .rest ∧ v.Prepared v.request)
  creating : ∀ slot request, place = .create slot request →
    v.active = true ∧ v.request = request ∧ v.done = false ∧ v.Prepared request
  failing : place = .recordFailure ∨ place = .releaseFailed → v.done = true
  halted : v.restarted = true → place = .rest ∧ v.workers = []

structure OtaKept (s : Control) (x : OtaPlace × Control) : Prop where
  sound : OtaSound x.1 x.2.otaView
  move : OwnerMove s.otaView.owner s.otaView.claim x.2.otaView.owner x.2.otaView.claim

section Phases

variable {s : Control}

theorem OtaSound.resting (place : OtaPlace) (v : OtaView) (sound : OtaSound place v)
    (idle : v.active = false) : v.workers = [] := by
  rcases sound.working with none | ⟨-, active, -⟩
  · exact none
  · rw [idle] at active
    cases active

theorem OtaSound.waiting (place : OtaPlace) (v : OtaView) (sound : OtaSound place v)
    (elsewhere : place ≠ .rest) : v.workers = [] ∧ v.restarted = false := by
  constructor
  case left =>
    rcases sound.working with none | ⟨-, -, -, rest, -⟩
    · exact none
    · exact absurd rest elsewhere
  case right =>
    by_contra halted
    exact elsewhere (sound.halted (by simpa using halted)).1

theorem waiting_sound (place : OtaPlace) (v : OtaView) (held : v.owner.HeldBy v.claim) (none : v.workers = [])
    (running : v.restarted = false) (unstarted : place.unstarted = true → v.active = false)
    (creating : ∀ slot request, place = .create slot request →
      v.active = true ∧ v.request = request ∧ v.done = false ∧ v.Prepared request)
    (failing : place = .recordFailure ∨ place = .releaseFailed → v.done = true) : OtaSound place v := by
  constructor
  case held => exact fun _ => held
  case unstarted => exact unstarted
  case working => exact .inl none
  case creating => exact creating
  case failing => exact failing
  case halted => simp [running]

theorem resting_sound (v : OtaView) (none : v.workers = []) (idle : v.active = false) : OtaSound .rest v := by
  constructor
  case held => simp [idle]
  case unstarted => exact fun _ => idle
  case working => exact .inl none
  case creating => simp
  case failing => simp
  case halted => exact fun _ => ⟨rfl, none⟩

theorem OtaSound.framed (place : OtaPlace) (v : OtaView) (owner : StorageOwner) (restarted : Bool)
    (sound : OtaSound place v) (same : v.owner.HeldBy v.claim → owner = v.owner)
    (halted : restarted = true → place = .rest ∧ v.workers = []) :
    OtaSound place { v with owner := owner, restarted := restarted } := by
  constructor
  case held =>
    intro busy
    have held := sound.held busy
    dsimp only
    rw [same held]
    exact held
  case unstarted => exact sound.unstarted
  case working =>
    rcases sound.working with none | ⟨alone, active, working, rest, prepared⟩
    · exact .inl none
    · exact .inr ⟨alone, active, working, rest, ⟨prepared.stored⟩⟩
  case creating =>
    intro slot request creating
    obtain ⟨active, same, working, prepared⟩ := sound.creating slot request creating
    exact ⟨active, same, working, ⟨prepared.stored⟩⟩
  case failing => exact sound.failing
  case halted => exact halted

theorem claimOta_kept (request : OtaRequest) (slot : Nat) (sound : OtaSound .rest s.otaView)
    (idle : s.otaActive = false) (running : s.restarted = false) : OtaKept s (claimOta request slot s) := by
  have none := sound.resting .rest s.otaView idle
  have move := storageClaim_move s.storageOwner s.otaStorageClaim
  have cases := storageClaim_cases s.storageOwner s.otaStorageClaim
  unfold claimOta
  dsimp only
  split
  next refused =>
    rcases cases with same | ⟨claimed, -⟩
    · rw [same]
      constructor
      case sound => rw [saveOutcome_otaView]; exact sound
      case move => rw [saveOutcome_otaView]; exact .same
    · rw [claimed] at refused
      cases refused
  next claimed =>
    rcases cases with same | ⟨-, -, held, -⟩
    · rw [same] at claimed
      simp at claimed
    constructor
    case sound => exact waiting_sound _ _ held none running (fun _ => idle) (by simp) (by simp)
    case move => exact move

theorem beginOta_otaView (request : OtaRequest) (slot : Nat) (s : Control) :
    (beginOta request slot s).otaView =
      { s.otaView with request := request, active := true, done := false } := rfl

theorem register_prepared (a : RegisterAnswers) (request : OtaRequest) (s : Control)
    (registered : (otaReceiptRegister build.eota a s.deviceId request s.receiptStore).1 = .ok) (v : OtaView)
    (store : v.store = (otaReceiptRegister build.eota a s.deviceId request s.receiptStore).2)
    (device : v.device = s.deviceId) : v.Prepared request := by
  have stored := (otaReceiptRegister_ok build.eota a s.deviceId request s.receiptStore _
    (Prod.ext registered rfl)).2.1
  constructor
  rw [store, device]
  exact ⟨_, stored, rfl, rfl, rfl, rfl, rfl⟩

theorem registerOta_kept (a : RegisterAnswers) (request : OtaRequest) (slot : Nat)
    (sound : OtaSound (.register slot request) s.otaView) : OtaKept s (registerOta build a request slot s) := by
  have held := sound.held (.inl (by simp))
  have idle := sound.unstarted rfl
  obtain ⟨none, running⟩ := sound.waiting _ _ (by simp)
  unfold registerOta
  dsimp only
  split
  next refused =>
    split
    next uncertain =>
      constructor
      case sound => rw [saveOutcome_otaView]; exact resting_sound _ none idle
      case move => rw [saveOutcome_otaView]; exact .same
    next certain =>
      constructor
      case sound => exact waiting_sound _ _ held none running (fun _ => idle) (by simp) (by simp)
      case move => exact .same
  next registered =>
    have prepared := register_prepared build a request s (not_not.mp registered)
    have created (slot' : Nat) (request' : OtaRequest) (same : OtaPlace.create slot request = .create slot' request') :
        request = request' := by
      cases same
      rfl
    constructor
    case sound =>
      exact waiting_sound _ _ held none running (by simp [OtaPlace.unstarted])
        (fun slot' request' same => created slot' request' same ▸ ⟨rfl, rfl, rfl, prepared _ rfl rfl⟩) (by simp)
    case move => exact .same

theorem releaseRefused_kept (receipt : OtaReceiptResult) (slot : Nat)
    (sound : OtaSound (.releaseRefused slot receipt) s.otaView) : OtaKept s (releaseRefused receipt slot s) := by
  have idle := sound.unstarted rfl
  have none := sound.resting _ _ idle
  have move := storageRelease_move s.storageOwner s.otaStorageClaim
  unfold releaseRefused
  dsimp only
  split
  · constructor
    case sound => rw [saveOutcome_otaView]; exact resting_sound _ none idle
    case move => rw [saveOutcome_otaView]; exact move
  · constructor
    case sound => rw [saveOutcome_otaView]; exact resting_sound _ none idle
    case move => rw [saveOutcome_otaView]; exact move

theorem createOta_kept (created : Bool) (request : OtaRequest) (slot : Nat)
    (sound : OtaSound (.create slot request) s.otaView) : OtaKept s (createOta created request slot s) := by
  have held := sound.held (.inl (by simp))
  obtain ⟨active, same, working, prepared⟩ := sound.creating slot request rfl
  obtain ⟨none, running⟩ := sound.waiting _ _ (by simp)
  unfold createOta
  dsimp only
  split
  · constructor
    case sound => exact waiting_sound _ _ held none running (fun _ => rfl) (by simp) (by simp)
    case move => exact .same
  · constructor
    case sound =>
      rw [saveOutcome_otaView]
      constructor
      case held => exact fun _ => held
      case unstarted => simp [OtaPlace.unstarted]
      case working =>
        obtain rfl : s.otaRequest = request := same
        have started : s.workers ++ [s.otaRequest] = [s.otaRequest] := by rw [show s.workers = [] from none]; rfl
        exact .inr ⟨started, active, working, rfl, ⟨prepared.stored⟩⟩
      case creating => simp
      case failing => simp
      case halted => exact fun halted => absurd (running.symm.trans halted) Bool.false_ne_true
    case move => rw [saveOutcome_otaView]; exact .same

theorem recordUnstarted_kept (a : FailureAnswers) (request : OtaRequest) (slot : Nat)
    (sound : OtaSound (.recordUnstarted slot request) s.otaView) :
    OtaKept s (recordUnstarted build a request slot s) := by
  have held := sound.held (.inl (by simp))
  have idle := sound.unstarted rfl
  obtain ⟨none, running⟩ := sound.waiting _ _ (by simp)
  unfold recordUnstarted
  dsimp only
  split
  · constructor
    case sound => exact waiting_sound _ _ held none running (fun _ => idle) (by simp) (by simp)
    case move => exact .same
  · constructor
    case sound => rw [saveOutcome_otaView]; exact resting_sound _ none idle
    case move => rw [saveOutcome_otaView]; exact .same

theorem releaseUnstarted_kept (slot : Nat) (sound : OtaSound (.releaseUnstarted slot) s.otaView) :
    OtaKept s (releaseUnstarted slot s) := by
  have idle := sound.unstarted rfl
  have none := sound.resting _ _ idle
  have move := storageRelease_move s.storageOwner s.otaStorageClaim
  unfold releaseUnstarted
  dsimp only
  split
  · constructor
    case sound => rw [saveOutcome_otaView]; exact resting_sound _ none idle
    case move => rw [saveOutcome_otaView]; exact move
  · constructor
    case sound => rw [saveOutcome_otaView]; exact resting_sound _ none idle
    case move => rw [saveOutcome_otaView]; exact move

theorem cleared_view (slot : Nat) (state : ResultState) (error : Option String) (s : Control) :
    Control.otaView { saveOutcome slot state error none s with otaRequest := .zero } =
      { s.otaView with request := .zero } :=
  congrArg (fun view : OtaView => { view with request := .zero }) (saveOutcome_otaView slot state error none s)

theorem finishOta_otaView (result : EotaResult) (s : Control) :
    (finishOta build result s).otaView = { s.otaView with active := false, request := .zero } :=
  cleared_view _ _ _ _

theorem halting_view (slot : Nat) (log : List Event) (s : Control) :
    Control.otaView { saveOutcome slot .running none none s with restarted := true, log := log } =
      { s.otaView with restarted := true } :=
  congrArg (fun view : OtaView => { view with restarted := true }) (saveOutcome_otaView slot .running none none s)

theorem readOta_kept (sound : OtaSound .rest s.otaView) (running : s.restarted = false) :
    OtaKept s (readOta build s) := by
  unfold readOta
  split
  · exact ⟨sound, .same⟩
  next ended =>
    simp only [Bool.or_eq_true, Bool.not_eq_true', not_or, Bool.not_eq_false] at ended
    have none : s.workers = [] := by
      rcases sound.working with none | ⟨-, -, working, -⟩
      · exact none
      · rw [show s.otaDone = false from working] at ended
        cases ended.2
    have held := sound.held (.inr ended.1)
    split
    · constructor
      case sound =>
        rw [halting_view]
        constructor
        case held => exact fun _ => held
        case unstarted => simp [OtaPlace.unstarted]
        case working => exact .inl none
        case creating => simp
        case failing => simp
        case halted => exact fun _ => ⟨rfl, none⟩
      case move => rw [halting_view]; exact .same
    split
    · constructor
      case sound => rw [finishOta_otaView]; exact resting_sound _ none rfl
      case move => rw [finishOta_otaView]; exact .same
    · constructor
      case sound =>
        exact waiting_sound _ _ held none running (by simp [OtaPlace.unstarted]) (by simp) (fun _ => ended.2)
      case move => exact .same

theorem recordFailure_kept (a : FailureAnswers) (sound : OtaSound .recordFailure s.otaView) :
    OtaKept s (recordFailure build a s) := by
  have held := sound.held (.inl (by simp))
  have done := sound.failing (.inl rfl)
  obtain ⟨none, running⟩ := sound.waiting _ _ (by simp)
  unfold recordFailure
  dsimp only
  split
  · constructor
    case sound => rw [cleared_view]; exact resting_sound _ none rfl
    case move => rw [cleared_view]; exact .same
  · constructor
    case sound =>
      exact waiting_sound _ _ held none running (by simp [OtaPlace.unstarted]) (by simp) (fun _ => done)
    case move => exact .same

theorem releaseFailed_kept (sound : OtaSound .releaseFailed s.otaView) : OtaKept s (releaseFailed build s) := by
  obtain ⟨none, running⟩ := sound.waiting _ _ (by simp)
  have move := storageRelease_move s.storageOwner s.otaStorageClaim
  unfold releaseFailed
  dsimp only
  split
  · constructor
    case sound => rw [cleared_view]; exact resting_sound _ none rfl
    case move => rw [cleared_view]; exact move
  · constructor
    case sound => rw [finishOta_otaView]; exact resting_sound _ none rfl
    case move => rw [finishOta_otaView]; exact move

theorem advanceOta_kept (a : PhaseAnswers) (place : OtaPlace) (sound : OtaSound place s.otaView) :
    OtaKept s (advanceOta build a place s) := by
  cases place with
  | rest => exact ⟨sound, .same⟩
  | register slot request => exact registerOta_kept build _ _ _ sound
  | releaseRefused slot receipt => exact releaseRefused_kept _ _ sound
  | create slot request => exact createOta_kept _ _ _ sound
  | recordUnstarted slot request => exact recordUnstarted_kept build _ _ _ sound
  | releaseUnstarted slot => exact releaseUnstarted_kept _ sound
  | recordFailure => exact recordFailure_kept build _ sound
  | releaseFailed => exact releaseFailed_kept build sound

end Phases

end EspBase

import EspBase.Ota.Library
import EspBase.Ota.StorageOwner
import EspBase.Shared.Run

set_option autoImplicit false

/-!
# `app_main`

A place of the function is the call that it makes next; one step is that call
and the code up to the next one.
-/

namespace EspBase

structure ControlProgress where
  lastProgressMs : UInt32
  progressCount : UInt32
  observed : Bool
deriving DecidableEq

def controlMaxStaleMs : UInt32 := 5000

def noteProgress (timerMs : Nat) (p : ControlProgress) : ControlProgress :=
  { lastProgressMs := UInt32.ofNat timerMs, progressCount := p.progressCount + 1, observed := true }

def isRecent (timerMs : Nat) (p : ControlProgress) : Bool :=
  p.observed && UInt32.ofNat timerMs - p.lastProgressMs ≤ controlMaxStaleMs

def controlStartTimeoutMs : Nat := 5000

def otaStableWindowMs : Nat := 30000

structure MainReading where
  status : EspErr := .ok
  slotState : EotaState := .pendingVerify
  returns : Bool := true
  uptimeMs : Nat := 0
  started : Bool := true
  control : ControlProgress := { lastProgressMs := 0, progressCount := 0, observed := false }
deriving DecidableEq

def MainReading.healthy (r : MainReading) : Bool := r.started && isRecent r.uptimeMs r.control

inductive Check where
  | nvs
  | identity
  | safety
  | config
  | controlStart
deriving DecidableEq, Repr

def Check.name : Check → String
  | .nvs => "nvs"
  | .identity => "identity"
  | .safety => "safety"
  | .config => "config"
  | .controlStart => "control_start"

inductive MainPc where
  | claim
  | inspect
  | check (check : Check)
  | time
  | waitFrom
  | waitHealth (startedMs : Nat)
  | waitClock (startedMs : Nat)
  | windowFrom
  | windowHealth (stableStartedMs : Nat)
  | windowClock (stableStartedMs : Nat)
  | boundaryFrom (stableStartedMs boundaryMs : Nat)
  | boundaryCount (stableStartedMs boundaryMs : Nat) (boundaryProgress : UInt32)
  | boundaryHealth (stableStartedMs boundaryMs : Nat) (boundaryProgress : UInt32)
  | boundaryClock (stableStartedMs boundaryMs : Nat) (boundaryProgress : UInt32)
  | lastHealth (stableStartedMs : Nat)
  | lastClock (stableStartedMs : Nat)
  | confirm
  | reject
  | release
  | clearGate
  | ready
  | stopped
  | rebooted
deriving DecidableEq

inductive MainEvent where
  | inspected (status : EspErr) (slotState : EotaState)
  | gateSet (pending : Bool)
  | checked (check : Check) (status : EspErr)
  | timeStarted (status : EspErr)
  | clock (uptimeMs : Nat)
  | health (healthy : Bool)
  | counted (progress : UInt32)
  | confirmed (status : EspErr) (slotState : EotaState)
  | localCheckFailed (check : String) (failure : EspErr)
  | rejected (returned : Option EspErr)
  | released (done : Bool)
  | recoveryRequired (detail : String)
  | ready
deriving DecidableEq

structure AppMain where
  storageOwner : StorageOwner
  bootClaim : StorageClaim
  otaVerificationPending : Bool
  slotState : EotaState
  pendingBoot : Bool
  pc : MainPc
  log : List MainEvent

def AppMain.initial : AppMain :=
  { storageOwner := .initial
    bootClaim := .empty
    otaVerificationPending := false
    slotState := .other 0
    pendingBoot := false
    pc := .claim
    log := [] }

def AppMain.goes (m : AppMain) (events : List MainEvent) (pc : MainPc) : AppMain :=
  { m with pc := pc, log := m.log ++ events }

@[simp] theorem AppMain.goes_log (m : AppMain) (events : List MainEvent) (pc : MainPc) :
    (m.goes events pc).log = m.log ++ events := rfl

@[simp] theorem AppMain.goes_pc (m : AppMain) (events : List MainEvent) (pc : MainPc) :
    (m.goes events pc).pc = pc := rfl

def stopAfterLocalFailure (events : List MainEvent) (check : String) (failure : EspErr) (m : AppMain) :
    AppMain :=
  let events := events ++ [.localCheckFailed check failure]
  if !m.pendingBoot then m.goes events .stopped
  else if m.slotState ≠ .pendingVerify then
    m.goes (events ++ [.recoveryRequired "rollback=not_safe"]) .stopped
  else m.goes events .reject

def Check.next : Check → MainPc
  | .nvs => .check .identity
  | .identity => .check .safety
  | .safety => .check .config
  | .config => .check .controlStart
  | .controlStart => .time

def mainStep (r : MainReading) (m : AppMain) : AppMain :=
  match m.pc with
  | .claim =>
    let (claimed, owner, claim) := storageClaim .initial .empty
    let m := { m with storageOwner := owner, bootClaim := claim }
    if !claimed then m.goes [.recoveryRequired "storage owner unavailable"] .stopped
    else m.goes [] .inspect
  | .inspect =>
    let m := { m with slotState := r.slotState }
    let inspected := MainEvent.inspected r.status r.slotState
    if r.status ≠ .ok then m.goes [inspected, .recoveryRequired "rollback=not_safe"] .stopped
    else
      let pending := r.slotState == .pendingVerify
      { m with pendingBoot := pending, otaVerificationPending := pending }.goes
        [inspected, .gateSet pending] (.check .nvs)
  | .check check =>
    let checked := [MainEvent.checked check r.status]
    if r.status ≠ .ok then stopAfterLocalFailure checked check.name r.status m
    else m.goes checked check.next
  | .time => m.goes [.timeStarted r.status] (if m.pendingBoot then .waitFrom else .release)
  -- `wait_for_control_start`
  | .waitFrom => m.goes [.clock r.uptimeMs] (.waitHealth r.uptimeMs)
  | .waitHealth startedMs =>
    m.goes [.health r.healthy] (if r.healthy then .windowFrom else .waitClock startedMs)
  | .waitClock startedMs =>
    let clock := [MainEvent.clock r.uptimeMs]
    if r.uptimeMs < startedMs ∨ r.uptimeMs - startedMs ≥ controlStartTimeoutMs then
      stopAfterLocalFailure clock "control_ready" .timeout m
    else m.goes clock (.waitHealth startedMs)
  -- The stability window.
  | .windowFrom => m.goes [.clock r.uptimeMs] (.windowHealth r.uptimeMs)
  | .windowHealth stableStartedMs =>
    if !r.healthy then stopAfterLocalFailure [.health false] "control_progress" .timeout m
    else m.goes [.health true] (.windowClock stableStartedMs)
  | .windowClock stableStartedMs =>
    let clock := [MainEvent.clock r.uptimeMs]
    if r.uptimeMs < stableStartedMs then stopAfterLocalFailure clock "stable_clock" .invalidState m
    else if r.uptimeMs - stableStartedMs ≥ otaStableWindowMs then
      m.goes clock (.boundaryFrom stableStartedMs r.uptimeMs)
    else m.goes clock (.windowHealth stableStartedMs)
  -- One more complete control pass.
  | .boundaryFrom stableStartedMs boundaryMs =>
    m.goes [.counted r.control.progressCount]
      (.boundaryCount stableStartedMs boundaryMs r.control.progressCount)
  | .boundaryCount stableStartedMs boundaryMs boundaryProgress =>
    m.goes [.counted r.control.progressCount]
      (if r.control.progressCount = boundaryProgress then
        .boundaryHealth stableStartedMs boundaryMs boundaryProgress
      else .lastHealth stableStartedMs)
  | .boundaryHealth stableStartedMs boundaryMs boundaryProgress =>
    if !r.healthy then stopAfterLocalFailure [.health false] "control_progress" .timeout m
    else m.goes [.health true] (.boundaryClock stableStartedMs boundaryMs boundaryProgress)
  | .boundaryClock stableStartedMs boundaryMs boundaryProgress =>
    let clock := [MainEvent.clock r.uptimeMs]
    if r.uptimeMs < boundaryMs ∨ r.uptimeMs - boundaryMs ≥ controlStartTimeoutMs then
      stopAfterLocalFailure clock "control_boundary" .timeout m
    else m.goes clock (.boundaryCount stableStartedMs boundaryMs boundaryProgress)
  | .lastHealth stableStartedMs =>
    if !r.healthy then stopAfterLocalFailure [.health false] "control_boundary" .timeout m
    else m.goes [.health true] (.lastClock stableStartedMs)
  | .lastClock stableStartedMs =>
    let clock := [MainEvent.clock r.uptimeMs]
    if stableStartedMs ≤ r.uptimeMs ∧ r.uptimeMs - stableStartedMs ≥ otaStableWindowMs then
      m.goes clock .confirm
    else stopAfterLocalFailure clock "confirm" .notFinished m
  | .confirm =>
    let m := { m with slotState := r.slotState }
    let confirmed := [MainEvent.confirmed r.status r.slotState]
    if r.status ≠ .ok then stopAfterLocalFailure confirmed "confirm" r.status m
    else m.goes confirmed .release
  -- Without an error `eota_reject_pending` does not return.
  | .reject =>
    if r.returns then
      m.goes [.rejected (some r.status), .recoveryRequired "rollback_error"] .stopped
    else m.goes [.rejected none] .rebooted
  | .release =>
    let (released, owner, claim) := storageRelease m.storageOwner m.bootClaim
    let m := { m with storageOwner := owner, bootClaim := claim }
    if !released then
      m.goes [.released false, .recoveryRequired "storage owner release failed"] .stopped
    else m.goes [.released true] .clearGate
  | .clearGate =>
    if m.pendingBoot then { m with otaVerificationPending := false }.goes [.gateSet false, .ready] .ready
    else m.goes [.ready] .ready
  | .ready | .stopped | .rebooted => m

abbrev runMain (readings : List MainReading) : AppMain := Transition.run mainStep readings .initial

-- Events that concern neither the slot, nor the gate, nor the claim.
def MainEvent.plain : MainEvent → Bool
  | .checked _ _ | .timeStarted _ | .clock _ | .health _ | .counted _ | .localCheckFailed _ _
  | .recoveryRequired _ => true
  | _ => false

-- After the inspection and before the confirmation.
def MainPc.underway : MainPc → Bool
  | .claim | .inspect | .confirm | .reject | .release | .clearGate | .ready | .stopped | .rebooted => false
  | _ => true

inductive MainMove (m : AppMain) : AppMain → Prop where
  | ended (place : m.pc = .ready ∨ m.pc = .stopped ∨ m.pc = .rebooted) : MainMove m m
  | claimed (place : m.pc = .claim) :
    MainMove m
      { m with storageOwner := { nextToken := 1, activeToken := 1 }
               bootClaim := { bound := true, token := 1 }
               pc := .inspect }
  | uninspected (status : EspErr) (state : EotaState) (place : m.pc = .inspect) (failed : status ≠ .ok) :
    MainMove m
      ({ m with slotState := state }.goes
        [.inspected status state, .recoveryRequired "rollback=not_safe"] .stopped)
  | inspected (state : EotaState) (place : m.pc = .inspect) :
    MainMove m
      ({ m with slotState := state
                pendingBoot := state == EotaState.pendingVerify
                otaVerificationPending := state == EotaState.pendingVerify }.goes
        [.inspected .ok state, .gateSet (state == EotaState.pendingVerify)] (.check .nvs))
  | noted (events : List MainEvent) (pc : MainPc) (place : m.pc.underway = true)
      (plain : ∀ event ∈ events, event.plain = true)
      (onward : pc.underway = true ∨ pc = .confirm ∨ pc = .stopped ∨
        (pc = .reject ∧ m.slotState = .pendingVerify) ∨ (pc = .release ∧ m.pendingBoot = false)) :
    MainMove m (m.goes events pc)
  | confirmed (state : EotaState) (place : m.pc = .confirm) :
    MainMove m ({ m with slotState := state }.goes [.confirmed .ok state] .release)
  | unconfirmed (status : EspErr) (state : EotaState) (events : List MainEvent) (pc : MainPc)
      (place : m.pc = .confirm) (failed : status ≠ .ok) (plain : ∀ event ∈ events, event.plain = true)
      (onward : pc = .stopped ∨ (pc = .reject ∧ state = .pendingVerify)) :
    MainMove m ({ m with slotState := state }.goes (.confirmed status state :: events) pc)
  | rejected (returned : Option EspErr) (events : List MainEvent) (pc : MainPc) (place : m.pc = .reject)
      (plain : ∀ event ∈ events, event.plain = true) (onward : pc = .stopped ∨ pc = .rebooted) :
    MainMove m (m.goes (.rejected returned :: events) pc)
  | released (place : m.pc = .release) (held : m.storageOwner.HeldBy m.bootClaim) :
    MainMove m
      ({ m with storageOwner := { m.storageOwner with activeToken := 0 }, bootClaim := .empty }.goes
        [.released true] .clearGate)
  | unreleased (place : m.pc = .release) (unheld : ¬m.storageOwner.HeldBy m.bootClaim) :
    MainMove m
      (m.goes [.released false, .recoveryRequired "storage owner release failed"] .stopped)
  | cleared (place : m.pc = .clearGate) (pending : m.pendingBoot = true) :
    MainMove m ({ m with otaVerificationPending := false }.goes [.gateSet false, .ready] .ready)
  | readied (place : m.pc = .clearGate) (settled : m.pendingBoot = false) :
    MainMove m (m.goes [.ready] .ready)

theorem stopAfterLocalFailure_cases (events : List MainEvent) (check : String) (failure : EspErr)
    (m : AppMain) :
    ∃ more pc, stopAfterLocalFailure events check failure m = m.goes (events ++ more) pc ∧
      (∀ event ∈ more, event.plain = true) ∧
      (pc = .stopped ∨ (pc = .reject ∧ m.slotState = .pendingVerify)) := by
  dsimp only [stopAfterLocalFailure]
  split
  · exact ⟨_, _, rfl, by simp [MainEvent.plain], .inl rfl⟩
  split
  · exact ⟨_, _, by rw [List.append_assoc], by simp [MainEvent.plain], .inl rfl⟩
  next pending => exact ⟨_, _, rfl, by simp [MainEvent.plain], .inr ⟨rfl, not_not.mp pending⟩⟩

theorem stopAfterLocalFailure_noted (event : MainEvent) (check : String) (failure : EspErr) (m : AppMain)
    (place : m.pc.underway = true) (plain : event.plain = true) :
    MainMove m (stopAfterLocalFailure [event] check failure m) := by
  obtain ⟨more, pc, stops, all, onward⟩ := stopAfterLocalFailure_cases [event] check failure m
  rw [stops]
  refine .noted _ pc place (List.forall_mem_cons.mpr ⟨plain, all⟩) ?_
  rcases onward with stopped | rejecting
  · exact .inr (.inr (.inl stopped))
  · exact .inr (.inr (.inr (.inl rejecting)))

theorem mainStep_move (r : MainReading) (m : AppMain) : MainMove m (mainStep r m) := by
  have stops (event : MainEvent) (check : String) (failure : EspErr) :=
    stopAfterLocalFailure_noted event check failure m
  have goes (event : MainEvent) (pc : MainPc) (place : m.pc.underway = true) (plain : event.plain = true)
      (onward : pc.underway = true) : MainMove m (m.goes [event] pc) :=
    .noted [event] pc place (by simpa using plain) (.inl onward)
  unfold mainStep
  cases place : m.pc <;> dsimp only
  case claim =>
    have move := MainMove.claimed place
    simpa [storageClaim, StorageOwner.initial, StorageClaim.empty, uintMax, AppMain.goes] using move
  case inspect =>
    split
    next failed => exact .uninspected _ _ place failed
    next done =>
      rw [not_not.mp done]
      exact .inspected _ place
  case check check =>
    split
    · exact stops _ _ _ (by rw [place]; rfl) rfl
    · exact goes _ _ (by rw [place]; rfl) rfl (by cases check <;> rfl)
  case time =>
    cases pending : m.pendingBoot with
    | true => exact goes _ _ (by rw [place]; rfl) rfl rfl
    | false =>
      exact .noted _ _ (by rw [place]; rfl) (by simp [MainEvent.plain])
        (.inr (.inr (.inr (.inr ⟨rfl, pending⟩))))
  case waitFrom => exact goes _ _ (by rw [place]; rfl) rfl rfl
  case waitHealth startedMs =>
    refine goes _ _ (by rw [place]; rfl) rfl ?_
    split <;> rfl
  case waitClock startedMs =>
    split
    · exact stops _ _ _ (by rw [place]; rfl) rfl
    · exact goes _ _ (by rw [place]; rfl) rfl rfl
  case windowFrom => exact goes _ _ (by rw [place]; rfl) rfl rfl
  case windowHealth stableStartedMs =>
    split
    · exact stops _ _ _ (by rw [place]; rfl) rfl
    · exact goes _ _ (by rw [place]; rfl) rfl rfl
  case windowClock stableStartedMs =>
    split
    · exact stops _ _ _ (by rw [place]; rfl) rfl
    split
    · exact goes _ _ (by rw [place]; rfl) rfl rfl
    · exact goes _ _ (by rw [place]; rfl) rfl rfl
  case boundaryFrom stableStartedMs boundaryMs => exact goes _ _ (by rw [place]; rfl) rfl rfl
  case boundaryCount stableStartedMs boundaryMs boundaryProgress =>
    refine goes _ _ (by rw [place]; rfl) rfl ?_
    split <;> rfl
  case boundaryHealth stableStartedMs boundaryMs boundaryProgress =>
    split
    · exact stops _ _ _ (by rw [place]; rfl) rfl
    · exact goes _ _ (by rw [place]; rfl) rfl rfl
  case boundaryClock stableStartedMs boundaryMs boundaryProgress =>
    split
    · exact stops _ _ _ (by rw [place]; rfl) rfl
    · exact goes _ _ (by rw [place]; rfl) rfl rfl
  case lastHealth stableStartedMs =>
    split
    · exact stops _ _ _ (by rw [place]; rfl) rfl
    · exact goes _ _ (by rw [place]; rfl) rfl rfl
  case lastClock stableStartedMs =>
    split
    · exact .noted _ _ (by rw [place]; rfl) (by simp [MainEvent.plain]) (.inr (.inl rfl))
    · exact stops _ _ _ (by rw [place]; rfl) rfl
  case confirm =>
    split
    next failed =>
      obtain ⟨more, pc, stops, all, onward⟩ := stopAfterLocalFailure_cases
        [.confirmed r.status r.slotState] "confirm" r.status { m with slotState := r.slotState }
      rw [← place, stops]
      exact .unconfirmed _ _ more pc place failed all onward
    next done =>
      rw [not_not.mp done]
      exact .confirmed _ place
  case reject =>
    split
    · exact .rejected _ _ _ place (by simp [MainEvent.plain]) (.inl rfl)
    · exact .rejected _ _ _ place (by simp) (.inr rfl)
  case release =>
    rcases storageRelease_cases m.storageOwner m.bootClaim with ⟨held, releases⟩ | ⟨unheld, kept⟩
    · rw [releases]
      exact .released place held
    · rw [kept]
      exact .unreleased place unheld
  case clearGate =>
    split
    next pending => exact .cleared place pending
    next settled => exact .readied place (by simpa using settled)
  all_goals exact .ended (by simp [place])

end EspBase

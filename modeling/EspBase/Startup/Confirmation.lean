import EspBase.Shared.Justified
import EspBase.Startup.AppMain

set_option autoImplicit false

namespace EspBase

open Trace Transition

def MainEvent.check : MainEvent → Option (Check × EspErr)
  | .checked check status => some (check, status)
  | _ => none

def MainEvent.slot : MainEvent → Option EotaState
  | .inspected _ state | .confirmed _ state => some state
  | _ => none

/-- The slot state that `app_main` saw last. -/
def slotSeen (log : List MainEvent) : Option EotaState := (log.filterMap MainEvent.slot).getLast?

def PendingBoot (log : List MainEvent) : Prop := .inspected .ok .pendingVerify ∈ log

def Unconfirmed (log : List MainEvent) : Prop := ∀ status state, .confirmed status state ∉ log

def ConfirmedOk (log : List MainEvent) : Prop := ∃ state, .confirmed .ok state ∈ log

def allChecks : List Check := [.nvs, .identity, .safety, .config, .controlStart]

structure Early (checks : List Check) (log : List MainEvent) : Prop where
  checks : log.filterMap MainEvent.check = checks.map (fun check => (check, .ok))
  waiting : .health true ∉ log

def AllHealthy (log : List MainEvent) : Prop := .health false ∉ log

/-- The window is open: the control task was read healthy, and has been since. -/
def WindowOpen (stableStartedMs : Nat) (log : List MainEvent) : Prop :=
  ∃ start window, Early allChecks start ∧
    log = start ++ .health true :: .clock stableStartedMs :: window ∧ AllHealthy window ∧
    ∀ uptimeMs, .clock uptimeMs ∈ window → uptimeMs < stableStartedMs + otaStableWindowMs

/-- The last reading is the first one past the end of the window. -/
def WindowCrossed (stableStartedMs : Nat) (log : List MainEvent) : Prop :=
  ∃ earlier crossingMs, WindowOpen stableStartedMs earlier ∧ log = earlier ++ [.clock crossingMs] ∧
    stableStartedMs + otaStableWindowMs ≤ crossingMs

/-- Progress was counted after the window, and the task has been healthy since. -/
def ProgressCounted (stableStartedMs : Nat) (progress : UInt32) (log : List MainEvent) : Prop :=
  ∃ earlier rest, WindowCrossed stableStartedMs earlier ∧ log = earlier ++ .counted progress :: rest ∧
    AllHealthy rest

def ProgressMoved (stableStartedMs : Nat) (log : List MainEvent) : Prop :=
  ∃ earlier progress later, ProgressCounted stableStartedMs progress earlier ∧
    log = earlier ++ [.counted later] ∧ later ≠ progress

def ConfirmationEarned (log : List MainEvent) : Prop :=
  ∃ earlier stableStartedMs lastMs, ProgressMoved stableStartedMs earlier ∧
    log = earlier ++ [.health true, .clock lastMs] ∧ stableStartedMs + otaStableWindowMs ≤ lastMs

/-- What has to come before an event. -/
def Allowed (before : List MainEvent) : MainEvent → Prop
  | .inspected _ _ => before = []
  | .confirmed _ _ => ConfirmationEarned before ∧ Unconfirmed before
  | .rejected _ => slotSeen before = some .pendingVerify ∧ ¬ConfirmedOk before
  | .gateSet false | .released true | .ready => PendingBoot before → ConfirmedOk before
  | _ => True

def Check.passed : Check → List Check
  | .nvs => []
  | .identity => [.nvs]
  | .safety => [.nvs, .identity]
  | .config => [.nvs, .identity, .safety]
  | .controlStart => [.nvs, .identity, .safety, .config]

def Stage (log : List MainEvent) : MainPc → Prop
  | .claim | .inspect => Early [] log
  | .check check => Early check.passed log
  | .time | .waitFrom | .waitHealth _ | .waitClock _ => Early allChecks log
  | .windowFrom => ∃ start, Early allChecks start ∧ log = start ++ [.health true]
  | .windowHealth stableStartedMs | .windowClock stableStartedMs => WindowOpen stableStartedMs log
  | .boundaryFrom stableStartedMs _ => WindowCrossed stableStartedMs log
  | .boundaryCount stableStartedMs _ progress | .boundaryHealth stableStartedMs _ progress
  | .boundaryClock stableStartedMs _ progress => ProgressCounted stableStartedMs progress log
  | .lastHealth stableStartedMs => ProgressMoved stableStartedMs log
  | .lastClock stableStartedMs =>
    ∃ earlier, ProgressMoved stableStartedMs earlier ∧ log = earlier ++ [.health true]
  | .confirm => ConfirmationEarned log
  | .reject | .release | .clearGate | .ready | .stopped | .rebooted => True

section Stages

variable {checks : List Check} {log : List MainEvent} {stableStartedMs : Nat} {progress : UInt32}

theorem Early.checked (early : Early checks log) (check : Check) :
    Early (checks ++ [check]) (log ++ [.checked check .ok]) :=
  ⟨by simp [early.checks, MainEvent.check], by simpa using early.waiting⟩

theorem Early.noted (early : Early checks log) (event : MainEvent) (unchecked : event.check = none)
    (unhealthy : event ≠ .health true) : Early checks (log ++ [event]) :=
  ⟨by simp [early.checks, unchecked], by simpa using ⟨early.waiting, unhealthy.symm⟩⟩

theorem WindowOpen.noted (opened : WindowOpen stableStartedMs log) (event : MainEvent)
    (healthy : event ≠ .health false)
    (inside : ∀ uptimeMs, event = .clock uptimeMs → uptimeMs < stableStartedMs + otaStableWindowMs) :
    WindowOpen stableStartedMs (log ++ [event]) := by
  obtain ⟨start, window, early, rfl, all, clocks⟩ := opened
  refine ⟨start, window ++ [event], early, by simp, by simpa [AllHealthy] using ⟨all, healthy.symm⟩, ?_⟩
  intro uptimeMs member
  rcases List.mem_append.mp member with before | now
  · exact clocks uptimeMs before
  · exact inside uptimeMs (List.mem_singleton.mp now).symm

theorem ProgressCounted.noted (counted : ProgressCounted stableStartedMs progress log)
    (event : MainEvent) (healthy : event ≠ .health false) :
    ProgressCounted stableStartedMs progress (log ++ [event]) := by
  obtain ⟨earlier, rest, crossed, rfl, all⟩ := counted
  exact ⟨earlier, rest ++ [event], crossed, by simp, by simpa [AllHealthy] using ⟨all, healthy.symm⟩⟩

end Stages

theorem stopAfterLocalFailure_stage (events : List MainEvent) (check : String) (failure : EspErr)
    (m : AppMain) :
    let t := stopAfterLocalFailure events check failure m
    Stage t.log t.pc := by
  dsimp only [stopAfterLocalFailure]
  split
  · trivial
  split
  · trivial
  · trivial

theorem stage_kept (r : MainReading) (m : AppMain) (stage : Stage m.log m.pc) :
    Stage (mainStep r m).log (mainStep r m).pc := by
  have stopped := stopAfterLocalFailure_stage
  unfold mainStep
  cases place : m.pc <;> rw [place] at stage <;> dsimp only
  case claim => simpa [storageClaim, StorageOwner.initial, StorageClaim.empty, uintMax, Stage] using stage
  case inspect =>
    split
    · trivial
    · have early := (stage.noted (.inspected r.status r.slotState) rfl (by simp)).noted
        (.gateSet (r.slotState == .pendingVerify)) rfl (by simp)
      simpa [Stage, Check.passed] using early
  case check check =>
    split
    · exact stopped _ _ _ _
    next passed =>
      rw [not_not.mp passed]
      cases check <;> exact stage.checked _
  case time =>
    split
    · exact stage.noted _ rfl (by simp)
    · trivial
  case waitFrom => exact stage.noted _ rfl (by simp)
  case waitHealth startedMs =>
    cases r.healthy with
    | true => exact ⟨m.log, stage, rfl⟩
    | false => exact stage.noted _ rfl (by simp)
  case waitClock startedMs =>
    split
    · exact stopped _ _ _ _
    · exact stage.noted _ rfl (by simp)
  case windowFrom =>
    obtain ⟨start, early, log⟩ := stage
    exact ⟨start, [], early, by simp [log], by simp [AllHealthy], by simp⟩
  case windowHealth stableStartedMs =>
    split
    · exact stopped _ _ _ _
    · exact stage.noted _ (by simp) (by simp)
  case windowClock stableStartedMs =>
    split
    · exact stopped _ _ _ _
    split
    next crossed =>
      exact ⟨m.log, r.uptimeMs, stage, rfl, by omega⟩
    next inside =>
      refine stage.noted _ (by simp) ?_
      rintro uptimeMs ⟨⟩
      omega
  case boundaryFrom stableStartedMs boundaryMs => exact ⟨m.log, [], stage, rfl, by simp [AllHealthy]⟩
  case boundaryCount stableStartedMs boundaryMs boundaryProgress =>
    simp only [AppMain.goes_log, AppMain.goes_pc]
    split
    · exact stage.noted _ (by simp)
    next moved => exact ⟨m.log, boundaryProgress, _, stage, rfl, moved⟩
  case boundaryHealth stableStartedMs boundaryMs boundaryProgress =>
    split
    · exact stopped _ _ _ _
    · exact stage.noted _ (by simp)
  case boundaryClock stableStartedMs boundaryMs boundaryProgress =>
    split
    · exact stopped _ _ _ _
    · exact stage.noted _ (by simp)
  case lastHealth stableStartedMs =>
    split
    · exact stopped _ _ _ _
    · exact ⟨m.log, stage, rfl⟩
  case lastClock stableStartedMs =>
    obtain ⟨earlier, moved, log⟩ := stage
    split
    next elapsed => exact ⟨earlier, stableStartedMs, r.uptimeMs, moved, by simp [log], by omega⟩
    · exact stopped _ _ _ _
  case confirm =>
    split
    · exact stopped _ _ _ _
    · trivial
  case reject => split <;> trivial
  case release => split <;> trivial
  case clearGate => split <;> trivial
  all_goals
    rw [place]
    trivial

structure MainSound (m : AppMain) : Prop where
  stage : Stage m.log m.pc
  justified : Justified Allowed m.log
  begun : m.pc = .claim ∨ m.pc = .inspect → m.log = [] ∧ m.pendingBoot = false
  pending : PendingBoot m.log ↔ m.pendingBoot = true
  seen : m.pc.underway = true ∨ m.pc = .confirm ∨ m.pc = .reject → slotSeen m.log = some m.slotState
  undecided : m.pc.underway = true ∨ m.pc = .confirm → Unconfirmed m.log
  rejecting : m.pc = .reject → m.slotState = .pendingVerify ∧ ¬ConfirmedOk m.log
  through : m.pc = .release ∨ m.pc = .clearGate ∨ m.pc = .ready → m.pendingBoot = true → ConfirmedOk m.log
  gate : m.pc ≠ .ready → m.otaVerificationPending = m.pendingBoot
  held : m.pc = .claim ∨ m.pc = .clearGate ∨ m.pc = .ready ∨ m.storageOwner.HeldBy m.bootClaim

theorem plain_slot (event : MainEvent) (plain : event.plain = true) : event.slot = none := by
  cases event <;> first | rfl | cases plain

theorem plain_allowed (event : MainEvent) (plain : event.plain = true) (before : List MainEvent) :
    Allowed before event := by
  cases event <;> trivial

section Plain

variable {events log : List MainEvent}

theorem pendingBoot_plain (plain : ∀ event ∈ events, event.plain = true) :
    PendingBoot (log ++ events) ↔ PendingBoot log := by
  have absent : .inspected .ok .pendingVerify ∉ events := fun member => nomatch plain _ member
  simp [PendingBoot, absent]

theorem slotSeen_plain (plain : ∀ event ∈ events, event.plain = true) :
    slotSeen (log ++ events) = slotSeen log := by
  have silent : events.filterMap MainEvent.slot = [] :=
    List.filterMap_eq_nil_iff.mpr (fun event member => plain_slot event (plain event member))
  rw [slotSeen, List.filterMap_append, silent, List.append_nil, slotSeen]

theorem unconfirmed_plain (plain : ∀ event ∈ events, event.plain = true) :
    Unconfirmed (log ++ events) ↔ Unconfirmed log := by
  have absent (status : EspErr) (state : EotaState) : .confirmed status state ∉ events :=
    fun member => nomatch plain _ member
  simp [Unconfirmed, absent]

theorem confirmedOk_plain (plain : ∀ event ∈ events, event.plain = true) :
    ConfirmedOk (log ++ events) ↔ ConfirmedOk log := by
  have absent (state : EotaState) : .confirmed .ok state ∉ events := fun member => nomatch plain _ member
  simp [ConfirmedOk, absent]

theorem justified_plain (justified : Justified Allowed log)
    (plain : ∀ event ∈ events, event.plain = true) : Justified Allowed (log ++ events) :=
  justified.append events (fun event member => plain_allowed event (plain event member))

theorem justified_next (justified : Justified Allowed log) (event : MainEvent)
    (allowed : Allowed log event) : Justified Allowed (log ++ [event]) :=
  (justified_concat event).mpr ⟨justified, allowed⟩

end Plain

theorem unconfirmed_notOk (log : List MainEvent) (unconfirmed : Unconfirmed log) : ¬ConfirmedOk log := by
  rintro ⟨state, member⟩
  exact unconfirmed .ok state member

section Moves

variable {m : AppMain}

theorem MainSound.holding (inv : MainSound m) (place : m.pc ≠ .claim ∧ m.pc ≠ .clearGate ∧ m.pc ≠ .ready) :
    m.storageOwner.HeldBy m.bootClaim := by
  simpa [place] using inv.held

theorem MainSound.claimed (inv : MainSound m) (place : m.pc = .claim)
    (stage : Stage m.log .inspect) :
    MainSound { m with
    storageOwner := { nextToken := 1, activeToken := 1 }
    bootClaim := { bound := true, token := 1 }
    pc := .inspect } := by
  obtain ⟨log, settled⟩ := inv.begun (.inl place)
  refine ⟨stage, inv.justified, fun _ => ⟨log, settled⟩, inv.pending, by simp [MainPc.underway],
    by simp [MainPc.underway], by simp, by simp, fun _ => inv.gate (by simp [place]), ?_⟩
  exact .inr (.inr (.inr ⟨rfl, Nat.one_ne_zero, by simp [uintMax], rfl⟩))

theorem MainSound.uninspected (inv : MainSound m) (status : EspErr) (state : EotaState)
    (place : m.pc = .inspect) (failed : status ≠ .ok)
    (stage : Stage (m.log ++ [.inspected status state, .recoveryRequired "rollback=not_safe"]) .stopped) :
    MainSound ({ m with slotState := state }.goes
    [.inspected status state, .recoveryRequired "rollback=not_safe"] .stopped) := by
  obtain ⟨log, settled⟩ := inv.begun (.inr place)
  have held := inv.holding (by simp [place])
  have inspected := justified_next inv.justified (.inspected status state) log
  have recovering := justified_next inspected (.recoveryRequired "rollback=not_safe") trivial
  refine ⟨stage, by simpa using recovering, by simp, ?_, by simp [MainPc.underway],
    by simp [MainPc.underway], by simp, by simp, fun _ => inv.gate (by simp [place]),
    .inr (.inr (.inr held))⟩
  simp [AppMain.goes, PendingBoot, log, settled, failed.symm]

theorem MainSound.inspected (inv : MainSound m) (state : EotaState) (place : m.pc = .inspect)
    (stage : Stage (m.log ++ [.inspected .ok state, .gateSet (state == EotaState.pendingVerify)]) (.check .nvs)) :
    MainSound ({ m with
    slotState := state
    pendingBoot := state == EotaState.pendingVerify
    otaVerificationPending := state == EotaState.pendingVerify }.goes
      [.inspected .ok state, .gateSet (state == EotaState.pendingVerify)] (.check .nvs)) := by
  obtain ⟨log, settled⟩ := inv.begun (.inr place)
  have held := inv.holding (by simp [place])
  have pending : PendingBoot (m.log ++ [.inspected .ok state,
      .gateSet (state == EotaState.pendingVerify)]) ↔ (state == EotaState.pendingVerify) = true := by
    simp [PendingBoot, log, @eq_comm EotaState .pendingVerify state]
  refine ⟨stage, ?_, by simp, pending, ?_, ?_, by simp, by simp, fun _ => rfl, .inr (.inr (.inr held))⟩
  · have inspected := justified_next inv.justified (.inspected .ok state) log
    have gated := justified_next inspected (.gateSet (state == EotaState.pendingVerify)) ?_
    · simpa using gated
    cases same : state == EotaState.pendingVerify with
    | true => trivial
    | false =>
      intro booted
      have other : state ≠ .pendingVerify := by simpa using same
      simp [PendingBoot, log, other.symm] at booted
  · intro _
    simp [slotSeen, AppMain.goes, List.filterMap_cons, MainEvent.slot]
  · simp [Unconfirmed, log]

theorem MainSound.noted (inv : MainSound m) (events : List MainEvent) (pc : MainPc) (place : m.pc.underway = true)
    (plain : ∀ event ∈ events, event.plain = true)
    (onward : pc.underway = true ∨ pc = .confirm ∨ pc = .stopped ∨
      (pc = .reject ∧ m.slotState = .pendingVerify) ∨ (pc = .release ∧ m.pendingBoot = false))
    (stage : Stage (m.log ++ events) pc) : MainSound (m.goes events pc) := by
  have decisive : m.pc ≠ .claim ∧ m.pc ≠ .clearGate ∧ m.pc ≠ .ready := by
    refine ⟨?_, ?_, ?_⟩ <;> (intro here; simp [here, MainPc.underway] at place)
  have held := inv.holding decisive
  have unconfirmed := inv.undecided (.inl place)
  refine ⟨stage, justified_plain inv.justified plain, ?_, (pendingBoot_plain plain).trans inv.pending, ?_, ?_, ?_,
    ?_, fun _ => inv.gate decisive.2.2, .inr (.inr (.inr held))⟩
  · rintro (rfl | rfl) <;> simp [MainPc.underway] at onward
  · intro _
    exact (slotSeen_plain plain).trans (inv.seen (.inl place))
  · intro _
    exact (unconfirmed_plain plain).mpr unconfirmed
  · intro rejecting
    obtain rfl : pc = .reject := rejecting
    refine ⟨?_, fun ok => unconfirmed_notOk _ unconfirmed ((confirmedOk_plain plain).mp ok)⟩
    simpa [MainPc.underway, AppMain.goes] using onward
  · intro through pending
    change pc = _ ∨ pc = _ ∨ pc = _ at through
    change m.pendingBoot = true at pending
    rcases through with rfl | rfl | rfl <;> simp [MainPc.underway, pending] at onward

theorem MainSound.confirmed (inv : MainSound m) (state : EotaState) (place : m.pc = .confirm)
    (stage : Stage (m.log ++ [.confirmed .ok state]) .release) :
    MainSound ({ m with slotState := state }.goes [.confirmed .ok state] .release) := by
  have earned : ConfirmationEarned m.log := by
    have reached := inv.stage
    rwa [place] at reached
  have unconfirmed := inv.undecided (.inr place)
  have held := inv.holding (by simp [place])
  refine ⟨stage, justified_next inv.justified _ ⟨earned, unconfirmed⟩, by simp, ?_, by
    simp [MainPc.underway], by simp [MainPc.underway], by simp, fun _ _ => ⟨state, by simp⟩,
    fun _ => inv.gate (by simp [place]), .inr (.inr (.inr held))⟩
  simpa [PendingBoot, AppMain.goes] using inv.pending

theorem MainSound.unconfirmed (inv : MainSound m) (status : EspErr) (state : EotaState)
    (events : List MainEvent) (pc : MainPc) (place : m.pc = .confirm) (failed : status ≠ .ok)
    (plain : ∀ event ∈ events, event.plain = true)
    (onward : pc = .stopped ∨ (pc = .reject ∧ state = .pendingVerify))
    (stage : Stage (m.log ++ (.confirmed status state :: events)) pc) :
    MainSound ({ m with slotState := state }.goes (.confirmed status state :: events) pc) := by
  have earned : ConfirmationEarned m.log := by
    have reached := inv.stage
    rwa [place] at reached
  have unconfirmed := inv.undecided (.inr place)
  have held := inv.holding (by simp [place])
  have log : m.log ++ .confirmed status state :: events = m.log ++ [.confirmed status state] ++ events := by
    simp
  have notOk : ¬ConfirmedOk (m.log ++ .confirmed status state :: events) := by
    rw [log, confirmedOk_plain plain]
    rintro ⟨other, member⟩
    simp [unconfirmed .ok other, failed.symm] at member
  refine ⟨stage, ?_, ?_, ?_, ?_, ?_, ?_, ?_, fun _ => inv.gate (by simp [place]),
    .inr (.inr (.inr held))⟩
  · rw [AppMain.goes_log, log]
    exact justified_plain (justified_next inv.justified (.confirmed status state) ⟨earned, unconfirmed⟩) plain
  · rintro (rfl | rfl) <;> simp at onward
  · rw [AppMain.goes_log, log, pendingBoot_plain plain]
    simpa [PendingBoot, AppMain.goes] using inv.pending
  · intro _
    rw [AppMain.goes_log, log, slotSeen_plain plain]
    simp [slotSeen, MainEvent.slot, AppMain.goes]
  · intro decisive
    change pc.underway = true ∨ pc = .confirm at decisive
    rcases onward with rfl | ⟨rfl, -⟩ <;> simp [MainPc.underway] at decisive
  · intro rejecting
    obtain rfl : pc = .reject := rejecting
    exact ⟨by simpa [AppMain.goes] using onward, notOk⟩
  · intro through
    change pc = _ ∨ pc = _ ∨ pc = _ at through
    rcases through with rfl | rfl | rfl <;> simp at onward

theorem MainSound.rejected (inv : MainSound m) (returned : Option EspErr) (events : List MainEvent) (pc : MainPc)
    (place : m.pc = .reject) (plain : ∀ event ∈ events, event.plain = true)
    (onward : pc = .stopped ∨ pc = .rebooted)
    (stage : Stage (m.log ++ (.rejected returned :: events)) pc) :
    MainSound (m.goes (.rejected returned :: events) pc) := by
  obtain ⟨pendingVerify, notOk⟩ := inv.rejecting place
  have held := inv.holding (by simp [place])
  have seen := inv.seen (.inr (.inr place))
  have log : m.log ++ .rejected returned :: events = m.log ++ [.rejected returned] ++ events := by simp
  refine ⟨stage, ?_, ?_, ?_, ?_, ?_, ?_, ?_, fun _ => inv.gate (by simp [place]),
    .inr (.inr (.inr held))⟩
  · rw [AppMain.goes_log, log]
    exact justified_plain
      (justified_next inv.justified (.rejected returned) ⟨by rw [seen, pendingVerify], notOk⟩) plain
  · rintro (rfl | rfl) <;> simp at onward
  · rw [AppMain.goes_log, log, pendingBoot_plain plain]
    simpa [PendingBoot, AppMain.goes] using inv.pending
  · intro decisive
    change pc.underway = true ∨ pc = .confirm ∨ pc = .reject at decisive
    rcases onward with rfl | rfl <;> simp [MainPc.underway] at decisive
  · intro decisive
    change pc.underway = true ∨ pc = .confirm at decisive
    rcases onward with rfl | rfl <;> simp [MainPc.underway] at decisive
  · intro rejecting
    obtain rfl : pc = .reject := rejecting
    simp at onward
  · intro through
    change pc = _ ∨ pc = _ ∨ pc = _ at through
    rcases through with rfl | rfl | rfl <;> simp at onward

theorem MainSound.released (inv : MainSound m) (place : m.pc = .release)
    (stage : Stage (m.log ++ [.released true]) .clearGate) :
    MainSound ({ m with storageOwner := { m.storageOwner with activeToken := 0 }, bootClaim := .empty }.goes
    [.released true] .clearGate) := by
  have earned : PendingBoot m.log → ConfirmedOk m.log :=
    fun pending => inv.through (.inl place) (inv.pending.mp pending)
  refine ⟨stage, justified_next inv.justified (.released true) earned, by simp, ?_, by
    simp [MainPc.underway], by simp [MainPc.underway], by simp, ?_, fun _ => inv.gate (by simp [place]),
    .inr (.inl rfl)⟩
  · simpa [PendingBoot, AppMain.goes] using inv.pending
  · intro _ pending
    simpa [ConfirmedOk] using inv.through (.inl place) pending

theorem MainSound.cleared (inv : MainSound m) (place : m.pc = .clearGate) (pending : m.pendingBoot = true)
    (stage : Stage (m.log ++ [.gateSet false, .ready]) .ready) :
    MainSound ({ m with otaVerificationPending := false }.goes [.gateSet false, .ready] .ready) := by
  have ok := inv.through (.inr (.inl place)) pending
  have gated := justified_next inv.justified (.gateSet false) (fun _ => ok)
  have later : ConfirmedOk (m.log ++ [.gateSet false]) := by simpa [ConfirmedOk] using ok
  have last := justified_next gated .ready (fun _ => later)
  refine ⟨stage, by simpa using last, by simp, ?_, by simp [MainPc.underway],
    by simp [MainPc.underway], by simp, ?_, by simp, .inr (.inr (.inl rfl))⟩
  · simpa [PendingBoot, AppMain.goes] using inv.pending
  · intro _ _
    simpa [ConfirmedOk] using ok

theorem MainSound.readied (inv : MainSound m) (settled : m.pendingBoot = false)
    (stage : Stage (m.log ++ [.ready]) .ready) : MainSound (m.goes [.ready] .ready) := by
  have unbooted : PendingBoot m.log → ConfirmedOk m.log := by
    intro pending
    rw [inv.pending, settled] at pending
    cases pending
  refine ⟨stage, justified_next inv.justified .ready unbooted, by simp, ?_, by
    simp [MainPc.underway], by simp [MainPc.underway], by simp, ?_, by simp, .inr (.inr (.inl rfl))⟩
  · simpa [PendingBoot, AppMain.goes] using inv.pending
  · intro _ pending
    rw [AppMain.goes, settled] at pending
    cases pending

end Moves

theorem mainSound_kept (m t : AppMain) (move : MainMove m t) (stage : Stage t.log t.pc)
    (inv : MainSound m) : MainSound t := by
  cases move with
  | ended place => exact inv
  | claimed place => exact inv.claimed place stage
  | uninspected status state place failed => exact inv.uninspected status state place failed stage
  | inspected state place => exact inv.inspected state place stage
  | noted events pc place plain onward => exact inv.noted events pc place plain onward stage
  | confirmed state place => exact inv.confirmed state place stage
  | unconfirmed status state events pc place failed plain onward =>
    exact inv.unconfirmed status state events pc place failed plain onward stage
  | rejected returned events pc place plain onward =>
    exact inv.rejected returned events pc place plain onward stage
  | released place held => exact inv.released place stage
  | unreleased place unheld => exact absurd (inv.holding (by simp [place])) unheld
  | cleared place pending => exact inv.cleared place pending stage
  | readied place settled => exact inv.readied settled stage

theorem mainSound_initial : MainSound .initial := by
  refine ⟨⟨rfl, by simp [AppMain.initial]⟩, justified_nil, fun _ => ⟨rfl, rfl⟩,
    by simp [PendingBoot, AppMain.initial], by simp [AppMain.initial, MainPc.underway],
    by simp [AppMain.initial, MainPc.underway], by simp [AppMain.initial], by simp [AppMain.initial],
    fun _ => rfl, .inl rfl⟩

theorem mainSound_reached (readings : List MainReading) : MainSound (runMain readings) :=
  run_invariant
    (fun r m inv => mainSound_kept m (mainStep r m) (mainStep_move r m) (stage_kept r m inv.stage) inv)
    readings .initial mainSound_initial

def MainEvent.confirms : MainEvent → Bool
  | .confirmed _ _ => true
  | _ => false

theorem confirms_le_one (log : List MainEvent) (justified : Justified Allowed log) :
    log.countP MainEvent.confirms ≤ 1 := by
  induction log using List.reverseRecOn with
  | nil => exact Nat.zero_le 1
  | append_singleton log event ih =>
    obtain ⟨earlier, now⟩ := (justified_concat event).mp justified
    rw [List.countP_append, List.countP_singleton]
    split
    next confirms =>
      have none : log.countP MainEvent.confirms = 0 := by
        rw [List.countP_eq_zero]
        intro other member
        cases event <;> simp only [MainEvent.confirms, Bool.false_eq_true] at confirms
        cases other <;> simp only [MainEvent.confirms, Bool.false_eq_true, not_false_eq_true]
        exact absurd member (now.2 _ _)
      omega
    · simpa using ih earlier

theorem pendingBoot_before (log : List MainEvent) (justified : Justified Allowed log)
    (pending : PendingBoot log) (before : List MainEvent) (event : MainEvent) (after : List MainEvent)
    (split : log = before ++ event :: after) (later : event ≠ .inspected .ok .pendingVerify) :
    PendingBoot before := by
  obtain ⟨none, rest, first⟩ := List.append_of_mem pending
  obtain rfl : none = [] := justified none _ rest first
  cases before with
  | nil =>
    rw [first] at split
    exact absurd (List.cons.inj split).1.symm later
  | cons head before =>
    rw [first] at split
    rw [← (List.cons.inj split).1]
    exact List.mem_cons_self

/-- A pending slot is confirmed at most once and after every proof; until then the slot may be
rejected, the gate stays set and the claim stays held. -/
theorem pending_confirmation (readings : List MainReading) :
    let m := runMain readings
    PendingBoot m.log →
      m.log.countP MainEvent.confirms ≤ 1 ∧
      (∀ before status state after, m.log = before ++ .confirmed status state :: after →
        ConfirmationEarned before) ∧
      (∀ before returned after, m.log = before ++ .rejected returned :: after →
        slotSeen before = some .pendingVerify ∧ ¬ConfirmedOk before) ∧
      (∀ event ∈ [MainEvent.gateSet false, .released true, .ready], ∀ before after,
        m.log = before ++ event :: after → ConfirmedOk before) ∧
      (¬ConfirmedOk m.log → m.otaVerificationPending = true ∧ m.storageOwner.HeldBy m.bootClaim) := by
  intro m pending
  have inv := mainSound_reached readings
  refine ⟨confirms_le_one _ inv.justified, ?_, ?_, ?_, ?_⟩
  · intro before status state after split
    exact (inv.justified _ _ _ split).1
  · intro before returned after split
    exact inv.justified _ _ _ split
  · intro event listed before after split
    have allowed := inv.justified _ _ _ split
    simp only [List.mem_cons, List.not_mem_nil, or_false] at listed
    rcases listed with rfl | rfl | rfl
    · exact allowed (pendingBoot_before _ inv.justified pending _ _ _ split nofun)
    · exact allowed (pendingBoot_before _ inv.justified pending _ _ _ split nofun)
    · exact allowed (pendingBoot_before _ inv.justified pending _ _ _ split nofun)
  · intro failing
    have booted := inv.pending.mp pending
    have early : ¬(m.pc = .release ∨ m.pc = .clearGate ∨ m.pc = .ready) :=
      fun through => failing (inv.through through booted)
    rw [not_or, not_or] at early
    have begun : m.pc ≠ .claim := by
      intro place
      have none := (inv.begun (.inl place)).2
      rw [booted] at none
      cases none
    refine ⟨?_, ?_⟩
    · rw [inv.gate early.2.2, booted]
    · exact ((inv.held.resolve_left begun).resolve_left early.2.1).resolve_left early.2.2

def successful : MainReading := {}

-- The control task notes progress at 29900 and 30150 ms.
def confirmingReadings : List MainReading :=
  let progress (count : UInt32) (timerMs : Nat) : ControlProgress :=
    noteProgress timerMs { lastProgressMs := 0, progressCount := count, observed := true }
  List.replicate 8 successful ++
    [{ uptimeMs := 100 }, { uptimeMs := 100, control := progress 0 90 }, { uptimeMs := 110 },
      { uptimeMs := 30110, control := progress 7 29900 }, { uptimeMs := 30110 },
      { control := progress 7 29900 }, { control := progress 8 30150 },
      { uptimeMs := 30200, control := progress 8 30150 }, { uptimeMs := 30200 },
      { slotState := .valid }, successful, successful]

theorem pending_confirmation_ready :
    let m := runMain confirmingReadings
    .ready ∈ m.log ∧ m.otaVerificationPending = false ∧ m.log.countP MainEvent.confirms ≤ 1 := by
  have pending : PendingBoot (runMain confirmingReadings).log := by
    unfold PendingBoot
    decide +kernel
  exact ⟨by decide +kernel, by decide +kernel, (pending_confirmation confirmingReadings pending).1⟩

end EspBase

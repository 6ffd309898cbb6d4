import EspBase.Startup.SharedOwner

set_option autoImplicit false

namespace EspBase

open Transition

variable (build : Build)

inductive Party where
  | startup
  | protocol
  | operation (index : Nat)
deriving DecidableEq

def Shared.owner (s : Shared) : StorageOwner := s.control.storageOwner

def Shared.claims (s : Shared) : Party → StorageClaim
  | .startup => s.main.bootClaim
  | .protocol => s.control.otaStorageClaim
  | .operation index => (s.operations index).claim

theorem phased_view (s : Shared) (x : OtaPlace × Control) : (s.phased x).control.otaView = x.2.otaView := by
  unfold Shared.phased
  dsimp only
  split <;> rfl

structure ControlKept (s t : Shared) : Prop where
  sound : OtaSound t.place t.control.otaView
  move : OwnerMove s.owner (s.claims .protocol) t.owner (t.claims .protocol)
  main : t.main = s.main
  operations : t.operations = s.operations
  records : t.records = s.records

theorem ControlKept.phased (s : Shared) (x : OtaPlace × Control) (kept : OtaKept s.control x) :
    ControlKept s (s.phased x) := by
  constructor
  case sound => rw [phased_view]; exact kept.sound
  case move =>
    have owner : (s.phased x).owner = x.2.otaView.owner := congrArg OtaView.owner (phased_view s x)
    have claim : (s.phased x).claims .protocol = x.2.otaView.claim := congrArg OtaView.claim (phased_view s x)
    rw [owner, claim]
    exact kept.move
  case main => rfl
  case operations => rfl
  case records => rfl

theorem ControlKept.untouched (s : Shared) (label : Label) (running : s.control.restarted = false)
    (sound : OtaSound s.place s.control.otaView) (same : OtaUntouched s.control (act build label s.control))
    (rest : (act build label s.control).restarted = true → s.place = .rest) :
    ControlKept s (s.acted build label) := by
  have acts : (s.acted build label).control = act build label s.control := by
    simp [Shared.acted, step, running]
  have view : (s.acted build label).control.otaView =
      { s.control.otaView with restarted := (act build label s.control).restarted } := by
    rw [acts]
    exact same.view
  constructor
  case sound =>
    rw [view]
    refine sound.framed _ _ _ _ (fun _ => rfl) ?_
    intro halted
    rcases same.idle halted with before | idle
    · rw [running] at before
      cases before
    · exact ⟨rest halted, sound.resting _ _ idle⟩
  case move =>
    have owner : (s.acted build label).owner = s.owner := congrArg OtaView.owner view
    have claim : (s.acted build label).claims .protocol = s.claims .protocol := congrArg OtaView.claim view
    rw [owner, claim]
    exact .same
  case main => rfl
  case operations => rfl
  case records => rfl

theorem ControlKept.refl (s : Shared) (sound : OtaSound s.place s.control.otaView) : ControlKept s s :=
  ⟨sound, .same, rfl, rfl, rfl⟩

theorem otaStarting_some (viaMqtt : Bool) (a : LineAnswers) (line : Parsed) (s : Control) (slot : Nat)
    (accepted : Control) (starts : otaStarting build viaMqtt a line s = some (slot, accepted)) :
    accepted.otaView = s.otaView ∧ accepted.otaActive = false := by
  unfold otaStarting at starts
  dsimp only at starts
  split at starts
  · split at starts
    · cases starts
    · split at starts
      next fine =>
        cases starts
        exact ⟨rfl, (otaStartError_none build a _ fine.2).1.ota⟩
      · cases starts
  · cases starts

theorem workerDone_kept (prepared selected : EotaResult) (s : Shared) (running : s.control.restarted = false)
    (sound : OtaSound s.place s.control.otaView) :
    ControlKept s (s.acted build (.workerDone prepared selected)) := by
  have acts : (s.acted build (.workerDone prepared selected)).control = workerDone prepared selected s.control := by
    simp [Shared.acted, step, running, act]
  cases workers : s.control.workers with
  | nil =>
    have same : s.acted build (.workerDone prepared selected) = s := by
      have none : workerDone prepared selected s.control = s.control := by simp [workerDone, workers]
      rw [none] at acts
      simp only [Shared.acted] at acts ⊢
      rw [acts]
    rw [same]
    exact .refl s sound
  | cons request others =>
    obtain ⟨rest, alone⟩ : s.place = .rest ∧ others = [] := by
      rcases sound.working with none | ⟨alone, -, -, rest, -⟩
      · rw [show s.control.workers = [] from none] at workers
        cases workers
      · rw [show s.control.workers = [_] from alone] at workers
        cases workers
        exact ⟨rest, rfl⟩
    have view : (s.acted build (.workerDone prepared selected)).control.otaView =
        { s.control.otaView with done := true, workers := [] } := by
      rw [acts]
      simp [workerDone, workers, alone, Control.otaView]
    constructor
    case sound =>
      rw [view]
      constructor
      case held => exact sound.held
      case unstarted => exact sound.unstarted
      case working => exact .inl rfl
      case creating =>
        intro slot request creating
        rw [show s.place = .create slot request from creating] at rest
        cases rest
      case failing => exact fun _ => rfl
      case halted => exact fun _ => ⟨rest, rfl⟩
    case move =>
      have owner : (s.acted build (.workerDone prepared selected)).owner = s.owner := congrArg OtaView.owner view
      have claim : (s.acted build (.workerDone prepared selected)).claims .protocol = s.claims .protocol :=
        congrArg OtaView.claim view
      rw [owner, claim]
      exact .same
    case main => rfl
    case operations => rfl
    case records => rfl

theorem controlShared_kept (label : SharedLabel) (s : Shared) (sound : OtaSound s.place s.control.otaView) :
    ControlKept s (controlShared build label s) := by
  have refl := ControlKept.refl s sound
  unfold controlShared
  split
  · exact refl
  next running =>
    have running : s.control.restarted = false := by simpa using running
    have silent (label : Label) (same : (act build label s.control).otaView = s.control.otaView) :
        ControlKept s (s.acted build label) := by
      have after : (act build label s.control).restarted = false := (congrArg OtaView.restarted same).trans running
      exact .untouched build s label running sound (untouched_of_view _ _ same) (by simp [after])
    cases label with
    | line viaMqtt a line =>
      dsimp only
      split
      · exact refl
      next rest =>
        have rest : s.place = .rest := not_not.mp rest
        rw [rest] at sound
        split
        next slot accepted starts =>
          obtain ⟨view, idle⟩ := otaStarting_some build viaMqtt a line s.control slot accepted starts
          have halted : accepted.restarted = false := (congrArg OtaView.restarted view).trans running
          have kept := claimOta_kept line.command.ota slot (view ▸ sound) idle halted
          have move := kept.move
          rw [view] at move
          exact .phased s _ ⟨kept.sound, move⟩
        next stays =>
          exact .untouched build s _ running (rest ▸ sound) (line_untouched build viaMqtt a line s.control stays)
            (fun _ => rest)
    | pollOta =>
      dsimp only
      split
      · exact refl
      next rest =>
        rw [not_not.mp rest] at sound
        exact .phased s _ (readOta_kept build sound running)
    | advance a =>
      dsimp only
      split
      · exact refl
      · exact .phased s _ (advanceOta_kept build a s.place sound)
    | pollConfiguration now a =>
      dsimp only
      split
      · exact refl
      · exact silent _ (pollConfiguration_otaView build now a s.control)
    | wifiPoll now a =>
      dsimp only
      split
      · exact refl
      · exact silent _ rfl
    | wifiEvent event => exact silent _ rfl
    | workerProgress received => exact silent _ (workerProgress_otaView received s.control)
    | workerDone prepared selected => exact workerDone_kept build prepared selected s running sound
    | main r => exact refl
    | operation index a => exact refl
    | callback index call => exact refl

-- `app_main` has its claim and has not given it back.
def MainPc.holding : MainPc → Bool
  | .claim | .clearGate | .ready => false
  | _ => true

structure MainKept (m t : AppMain) : Prop where
  move : OwnerMove m.storageOwner m.bootClaim t.storageOwner t.bootClaim
  begun : t.pc ≠ .claim
  held : t.pc.holding = true → t.storageOwner.HeldBy t.bootClaim

theorem mainStep_kept (r : MainReading) (m : AppMain)
    (free : m.pc = .claim → m.storageOwner.activeToken = 0)
    (held : m.pc.holding = true → m.storageOwner.HeldBy m.bootClaim) : MainKept m (mainStep r m) := by
  have move := mainStep_move r m
  generalize mainStep r m = t at move
  have first : ({ nextToken := 1, activeToken := 1 } : StorageOwner).HeldBy { bound := true, token := 1 } :=
    ⟨rfl, Nat.one_ne_zero, by simp [uintMax], rfl⟩
  have stays (t : AppMain) (owner : t.storageOwner = m.storageOwner) (claim : t.bootClaim = m.bootClaim)
      (begun : t.pc ≠ .claim) (place : m.pc.holding = true ∨ t.pc.holding = false) : MainKept m t := by
    constructor
    case move => rw [owner, claim]; exact .same
    case begun => exact begun
    case held =>
      intro holding
      rcases place with place | place
      · rw [owner, claim]
        exact held place
      · rw [place] at holding
        cases holding
  cases move with
  | ended place =>
    refine stays m rfl rfl ?_ ?_
    · rcases place with place | place | place <;> simp [place]
    · rcases place with place | place | place <;> simp [place, MainPc.holding]
  | claimed place =>
    constructor
    case move => exact .takes _ _ (free place) first
    case begun => simp
    case held => exact fun _ => first
  | noted events pc place plain onward =>
    have underway : m.pc.holding = true := by
      cases at_ : m.pc <;> rw [at_] at place <;> first | rfl | cases place
    refine stays _ rfl rfl ?_ (.inl underway)
    intro start
    rw [AppMain.goes_pc] at start
    simp [start, MainPc.underway] at onward
  | uninspected status state place failed => exact stays _ rfl rfl (by simp) (.inl (by rw [place]; rfl))
  | inspected state place => exact stays _ rfl rfl (by simp) (.inl (by rw [place]; rfl))
  | confirmed state place => exact stays _ rfl rfl (by simp) (.inl (by rw [place]; rfl))
  | unconfirmed status state events pc place failed plain onward =>
    refine stays _ rfl rfl ?_ (.inl (by rw [place]; rfl))
    rcases onward with onward | ⟨onward, -⟩ <;> simp [onward]
  | rejected returned events pc place plain onward =>
    refine stays _ rfl rfl ?_ (.inl (by rw [place]; rfl))
    rcases onward with onward | onward <;> simp [onward]
  | released place owned =>
    constructor
    case move => exact .gives owned
    case begun => simp
    case held => simp [MainPc.holding]
  | unreleased place unheld => exact stays _ rfl rfl (by simp) (.inl (by rw [place]; rfl))
  | cleared place pending => exact stays _ rfl rfl (by simp) (.inr rfl)
  | readied place settled => exact stays _ rfl rfl (by simp) (.inr rfl)

def OperationPlace.inside : OperationPlace → Bool
  | .idle | .ended _ => false
  | _ => true

structure OperationSound (owner : StorageOwner) (o : Operation) : Prop where
  held : o.place.inside = true → owner.HeldBy o.claim
  idle : o.place = .idle → o.claim = .empty

theorem operationPhase_move (a : OperationAnswers) (owner : StorageOwner) (o : Operation) :
    OwnerMove owner o.claim (operationPhase a owner o).1 (operationPhase a owner o).2.claim := by
  have claims := storageClaim_move owner o.claim
  have releases := storageRelease_move owner o.claim
  unfold operationPhase
  cases o.place with
  | idle =>
    dsimp only
    split
    · exact claims
    · exact claims
  | observe =>
    dsimp only
    split
    · exact .same
    · exact .same
  | operate first mapped => exact .same
  | observeAgain first answered => exact .same
  | release result => exact releases
  | ended result => exact .same

theorem operationPhase_sound (a : OperationAnswers) (owner : StorageOwner) (o : Operation)
    (sound : OperationSound owner o) : OperationSound (operationPhase a owner o).1 (operationPhase a owner o).2 := by
  have claims := storageClaim_cases owner o.claim
  have held := sound.held
  unfold operationPhase
  cases place : o.place with
  | idle =>
    dsimp only
    split
    · exact ⟨by simp [OperationPlace.inside], by simp⟩
    next claimed =>
      rcases claims with same | ⟨-, -, taken, -⟩
      · rw [same] at claimed
        simp at claimed
      · exact ⟨fun _ => taken, by simp⟩
  | observe =>
    have held := held (by rw [place]; rfl)
    dsimp only
    split
    · exact ⟨fun _ => held, by simp⟩
    · exact ⟨fun _ => held, by simp⟩
  | operate first mapped => exact ⟨fun _ => held (by rw [place]; rfl), by simp⟩
  | observeAgain first answered =>
    have onward (result : SlotsResult) :
        (if result == .uncertain then OperationPlace.ended result else .release result) ≠ .idle := by
      split <;> simp
    exact ⟨fun _ => held (by rw [place]; rfl), fun idle => absurd idle (onward _)⟩
  | release result => exact ⟨by simp [OperationPlace.inside], by simp⟩
  | ended result => exact sound

theorem ownerCall_barred (call : OwnerCall) (owner : StorageOwner) (busy : owner.activeToken ≠ 0) :
    ownerCall call { owner := owner, records := fun _ => .empty } =
      { owner := owner, records := fun _ => .empty } := by
  cases call with
  | claim record => simp [ownerCall, storageClaim_busy owner .empty busy]
  | release record =>
    have refused : storageRelease owner .empty = (false, owner, .empty) := rfl
    simp [ownerCall, refused]
  | copy source target => simp [ownerCall]

structure SharedSound (s : Shared) : Prop where
  leased : Leased s.owner s.claims
  ota : OtaSound s.place s.control.otaView
  starting : s.main.pc = .claim → s.owner.activeToken = 0
  started : s.main.pc.holding = true → s.owner.HeldBy s.main.bootClaim
  operations : ∀ index, OperationSound s.owner (s.operations index)
  records : s.records = fun _ => .empty

structure PartyStep (p : Party) (s t : Shared) : Prop where
  move : OwnerMove s.owner (s.claims p) t.owner (t.claims p)
  others : ∀ q, q ≠ p → t.claims q = s.claims q

section Steps

variable {s t : Shared} {p : Party}

theorem PartyStep.leased (party : PartyStep p s t) (leased : Leased s.owner s.claims) :
    Leased t.owner t.claims := by
  have moved := leased.moved p t.owner (t.claims p) party.move
  have claims : Function.update s.claims p (t.claims p) = t.claims := by
    funext q
    by_cases same : q = p
    · rw [same, Function.update_self]
    · rw [Function.update_of_ne same, party.others q same]
  rw [claims] at moved
  exact moved

theorem PartyStep.undisturbed (party : PartyStep p s t) (leased : Leased s.owner s.claims) (holder : Party)
    (differ : p ≠ holder) (held : s.owner.HeldBy (s.claims holder)) : t.owner = s.owner ∧ t.claims = s.claims := by
  obtain ⟨owner, claim⟩ := leased.barred holder p differ held t.owner (t.claims p) party.move
  refine ⟨owner, ?_⟩
  funext q
  by_cases same : q = p
  · rw [same, claim]
  · exact party.others q same

theorem SharedSound.operations_framed (sound : SharedSound s) (party : PartyStep p s t) (index : Nat)
    (differ : p ≠ .operation index) (same : t.operations index = s.operations index) :
    OperationSound t.owner (t.operations index) := by
  have kept := sound.operations index
  rw [same]
  constructor
  case held =>
    intro inside
    have held := kept.held inside
    rw [(party.undisturbed sound.leased (.operation index) differ held).1]
    exact held
  case idle => exact kept.idle

theorem SharedSound.started_framed (sound : SharedSound s) (party : PartyStep p s t) (differ : p ≠ .startup)
    (same : t.main = s.main) (holding : t.main.pc.holding = true) : t.owner.HeldBy t.main.bootClaim := by
  rw [same] at holding ⊢
  have held := sound.started holding
  rw [(party.undisturbed sound.leased .startup differ held).1]
  exact held

theorem SharedSound.ota_framed (sound : SharedSound s) (party : PartyStep p s t) (differ : p ≠ .protocol)
    (place : t.place = s.place) (view : t.control.otaView = { s.control.otaView with owner := t.owner }) :
    OtaSound t.place t.control.otaView := by
  rw [place, view]
  refine sound.ota.framed _ _ _ _ (fun held => ?_) sound.ota.halted
  exact (party.undisturbed sound.leased .protocol differ held).1

end Steps

theorem mainShared_party (r : MainReading) (s : Shared) (sound : SharedSound s) :
    PartyStep .startup s (mainShared r s) ∧ SharedSound (mainShared r s) := by
  have kept := mainStep_kept r { s.main with
    storageOwner := s.control.storageOwner
    otaVerificationPending := s.control.controlState.otaVerificationPending } sound.starting sound.started
  have party : PartyStep .startup s (mainShared r s) := by
    constructor
    case move => exact kept.move
    case others =>
      intro q differ
      cases q with
      | startup => exact absurd rfl differ
      | protocol => rfl
      | operation index => rfl
  refine ⟨party, ?_⟩
  constructor
  case leased => exact party.leased sound.leased
  case ota => exact sound.ota_framed party (by simp) rfl rfl
  case starting => exact fun start => absurd start kept.begun
  case started => exact kept.held
  case operations => exact fun index => sound.operations_framed party index (by simp) rfl
  case records => exact sound.records

theorem controlShared_party (label : SharedLabel) (s : Shared) (begun : s.main.pc ≠ .claim) (sound : SharedSound s) :
    PartyStep .protocol s (controlShared build label s) ∧ SharedSound (controlShared build label s) := by
  have kept := controlShared_kept build label s sound.ota
  generalize controlShared build label s = t at kept
  have party : PartyStep .protocol s t := by
    constructor
    case move => exact kept.move
    case others =>
      intro q differ
      cases q with
      | startup => exact congrArg AppMain.bootClaim kept.main
      | protocol => exact absurd rfl differ
      | operation index => exact congrArg (fun operations => (operations index).claim) kept.operations
  refine ⟨party, ?_⟩
  constructor
  case leased => exact party.leased sound.leased
  case ota => exact kept.sound
  case starting =>
    intro start
    rw [kept.main] at start
    exact absurd start begun
  case started => exact sound.started_framed party (by simp) kept.main
  case operations =>
    exact fun index => sound.operations_framed party index (by simp) (congrFun kept.operations index)
  case records => exact kept.records.trans sound.records

theorem operationShared_party (index : Nat) (a : OperationAnswers) (s : Shared) (begun : s.main.pc ≠ .claim)
    (sound : SharedSound s) :
    PartyStep (.operation index) s (operationShared index a s) ∧ SharedSound (operationShared index a s) := by
  have move := operationPhase_move a s.owner (s.operations index)
  have phase := operationPhase_sound a s.owner (s.operations index) (sound.operations index)
  have own : (operationShared index a s).operations index = (operationPhase a s.owner (s.operations index)).2 :=
    Function.update_self index _ s.operations
  have other (i : Nat) (differ : i ≠ index) : (operationShared index a s).operations i = s.operations i :=
    Function.update_of_ne differ _ s.operations
  have party : PartyStep (.operation index) s (operationShared index a s) := by
    constructor
    case move =>
      have claim : (operationShared index a s).claims (.operation index) =
          (operationPhase a s.owner (s.operations index)).2.claim := congrArg Operation.claim own
      rw [claim]
      exact move
    case others =>
      intro q differ
      cases q with
      | startup => rfl
      | protocol => rfl
      | operation i =>
        have differ : i ≠ index := fun same => differ (same ▸ rfl)
        exact congrArg Operation.claim (other i differ)
  refine ⟨party, ?_⟩
  constructor
  case leased => exact party.leased sound.leased
  case ota => exact sound.ota_framed party (by simp) rfl rfl
  case starting => exact fun start => absurd start begun
  case started => exact sound.started_framed party (by simp) rfl
  case operations =>
    intro i
    by_cases same : i = index
    · rw [same, own]
      exact phase
    · exact sound.operations_framed party i (fun eq => same (Party.operation.inj eq).symm) (other i same)
  case records => exact sound.records

theorem callbackShared_same (index : Nat) (call : OwnerCall) (s : Shared) (sound : SharedSound s) :
    callbackShared index call s = s := by
  unfold callbackShared
  split
  next operating =>
    have inside : (s.operations index).place.inside = true := by
      unfold Operation.operating at operating
      split at operating
      next place => rw [place]; rfl
      · cases operating
    have busy := HeldBy.busy ((sound.operations index).held inside)
    have barred := ownerCall_barred call s.control.storageOwner busy
    rw [← sound.records] at barred
    rw [barred]
  · rfl

theorem sharedStep_kept (label : SharedLabel) (s : Shared) (sound : SharedSound s) :
    SharedSound (sharedStep build label s) := by
  unfold sharedStep
  split
  · exact (mainShared_party _ s sound).2
  · split
    · exact sound
    next begun =>
      split
      · exact (operationShared_party _ _ s begun sound).2
      · rw [callbackShared_same _ _ s sound]
        exact sound
      · exact (controlShared_party build _ s begun sound).2

theorem boot_sharedSound (b : Boot) : SharedSound b.shared := by
  have empty (p : Party) : b.shared.claims p = .empty := by cases p <;> rfl
  constructor
  case leased =>
    constructor
    case free => exact fun _ => empty
    case held => exact fun busy => absurd rfl busy
  case ota => exact resting_sound _ rfl rfl
  case starting => exact fun _ => rfl
  case started => exact fun holding => absurd holding Bool.false_ne_true
  case operations => exact fun _ => ⟨fun inside => absurd inside Bool.false_ne_true, fun _ => rfl⟩
  case records => rfl

theorem shared_sound (b : Boot) (labels : List SharedLabel) : SharedSound (runShared build b labels) :=
  run_invariant (sharedStep_kept build) labels b.shared (boot_sharedSound b)

/-- The party has ended and keeps its claim. -/
def Shared.Unproven (s : Shared) : Party → Prop
  | .startup => s.main.pc = .stopped ∨ s.main.pc = .rebooted
  | .protocol =>
    s.place = .rest ∧ s.control.otaStorageClaim ≠ .empty ∧
      (s.control.otaActive = false ∨ s.control.restarted = true)
  | .operation index =>
    (∃ result, (s.operations index).place = .ended result) ∧ (s.operations index).claim ≠ .empty

theorem SharedSound.unproven_held {s : Shared} (sound : SharedSound s) (p : Party) (unproven : s.Unproven p) :
    s.owner.HeldBy (s.claims p) := by
  cases p with
  | startup =>
    refine sound.started ?_
    rcases unproven with place | place <;> simp [place, MainPc.holding]
  | protocol => exact (sound.leased.holder .protocol unproven.2.1).1
  | operation index => exact (sound.leased.holder (.operation index) unproven.2).1

theorem unproven_view (s t : Shared) (unproven : s.Unproven .protocol) (idle : s.control.otaActive = false)
    (rest : t.place = .rest)
    (view : t.control.otaView = { s.control.otaView with restarted := t.control.restarted }) :
    t.Unproven .protocol ∧ t.owner = s.owner ∧ t.claims .protocol = s.claims .protocol := by
  have owner : t.owner = s.owner := congrArg OtaView.owner view
  have claim : t.control.otaStorageClaim = s.control.otaStorageClaim := congrArg OtaView.claim view
  have active : t.control.otaActive = s.control.otaActive := congrArg OtaView.active view
  refine ⟨⟨rest, ?_, .inl (active.trans idle)⟩, owner, claim⟩
  rw [claim]
  exact unproven.2.1

theorem controlShared_unproven (label : SharedLabel) (s : Shared) (sound : SharedSound s)
    (unproven : s.Unproven .protocol) :
    (controlShared build label s).Unproven .protocol ∧ (controlShared build label s).owner = s.owner ∧
      (controlShared build label s).claims .protocol = s.claims .protocol := by
  have refl : s.Unproven .protocol ∧ s.owner = s.owner ∧ s.claims .protocol = s.claims .protocol :=
    ⟨unproven, rfl, rfl⟩
  have rest := unproven.1
  have busy := HeldBy.busy (sound.unproven_held .protocol unproven)
  unfold controlShared
  split
  · exact refl
  next running =>
    have running : s.control.restarted = false := by simpa using running
    have idle : s.control.otaActive = false := by simpa [running] using unproven.2.2
    have acted (label : Label) (view : (act build label s.control).otaView =
        { s.control.otaView with restarted := (act build label s.control).restarted }) :
        (s.acted build label).Unproven .protocol ∧ (s.acted build label).owner = s.owner ∧
          (s.acted build label).claims .protocol = s.claims .protocol := by
      refine unproven_view s _ unproven idle rest ?_
      simpa [Shared.acted, step, running] using view
    have silent (label : Label) (same : (act build label s.control).otaView = s.control.otaView) :=
      acted label (untouched_of_view _ _ same).view
    cases label with
    | line viaMqtt a line =>
      dsimp only
      rw [if_neg (not_not.mpr rest)]
      split
      next slot accepted starts =>
        obtain ⟨view, -⟩ := otaStarting_some build viaMqtt a line s.control slot accepted starts
        have owner : accepted.storageOwner = s.owner := congrArg OtaView.owner view
        have refused := storageClaim_busy accepted.storageOwner accepted.otaStorageClaim (owner ▸ busy)
        have claims : claimOta line.command.ota slot accepted =
            (.rest, saveOutcome slot .failed (some "operation_busy") none accepted) := by
          unfold claimOta
          rw [refused]
          rfl
        refine unproven_view s _ unproven idle (by rw [claims]; rfl) ?_
        have after : (s.phased (claimOta line.command.ota slot accepted)).control.otaView = s.control.otaView := by
          rw [phased_view, claims, saveOutcome_otaView, view]
        exact (untouched_of_view s.control _ after).view
      next stays => exact acted _ (line_untouched build viaMqtt a line s.control stays).view
    | pollOta =>
      dsimp only
      rw [if_neg (not_not.mpr rest)]
      have reads : readOta build s.control = (.rest, s.control) := by simp [readOta, idle]
      refine unproven_view s _ unproven idle (by rw [reads]; rfl) ?_
      have after : (s.phased (readOta build s.control)).control.otaView = s.control.otaView := by
        rw [phased_view, reads]
      exact (untouched_of_view s.control _ after).view
    | advance a => simpa only [if_pos rest] using refl
    | pollConfiguration now a =>
      dsimp only
      split
      · exact refl
      · exact silent _ (pollConfiguration_otaView build now a s.control)
    | wifiPoll now a =>
      dsimp only
      split
      · exact refl
      · exact silent _ rfl
    | wifiEvent event => exact silent _ rfl
    | workerProgress received => exact silent _ (workerProgress_otaView received s.control)
    | workerDone prepared selected =>
      have none : s.control.workers = [] := sound.ota.resting _ _ idle
      exact silent _ (by simp [act, workerDone, none])
    | main r => exact refl
    | operation index a => exact refl
    | callback index call => exact refl

/-- The owner and the claims stay as they are after a holder has ended without a proven outcome. -/
structure Blocked (p : Party) (s t : Shared) : Prop where
  unproven : t.Unproven p
  owner : t.owner = s.owner
  claims : t.claims = s.claims

theorem Blocked.own {p : Party} {s t : Shared} (party : PartyStep p s t) (unproven : t.Unproven p)
    (owner : t.owner = s.owner) (claim : t.claims p = s.claims p) : Blocked p s t := by
  constructor
  case unproven => exact unproven
  case owner => exact owner
  case claims =>
    funext q
    by_cases same : q = p
    · rw [same, claim]
    · exact party.others q same

theorem Blocked.other {p q : Party} {s t : Shared} (sound : SharedSound s) (party : PartyStep q s t)
    (differ : q ≠ p) (before : s.Unproven p) (unproven : t.Unproven p) : Blocked p s t := by
  obtain ⟨owner, claims⟩ := party.undisturbed sound.leased p differ (sound.unproven_held p before)
  exact ⟨unproven, owner, claims⟩

theorem mainShared_blocked (r : MainReading) (s : Shared) (sound : SharedSound s) (p : Party)
    (unproven : s.Unproven p) : Blocked p s (mainShared r s) := by
  have party := (mainShared_party r s sound).1
  cases p with
  | startup =>
    have stays : mainStep r { s.main with
        storageOwner := s.control.storageOwner
        otaVerificationPending := s.control.controlState.otaVerificationPending } =
        { s.main with
          storageOwner := s.control.storageOwner
          otaVerificationPending := s.control.controlState.otaVerificationPending } := by
      rcases unproven with place | place <;> simp [mainStep, place]
    refine .own party ?_ ?_ ?_
    · unfold mainShared
      rw [stays]
      exact unproven
    · unfold mainShared
      rw [stays]
      rfl
    · unfold mainShared
      rw [stays]
      rfl
  | protocol => exact .other sound party (by simp) unproven unproven
  | operation index => exact .other sound party (by simp) unproven unproven

theorem operationShared_blocked (index : Nat) (a : OperationAnswers) (s : Shared) (begun : s.main.pc ≠ .claim)
    (sound : SharedSound s) (p : Party) (unproven : s.Unproven p) : Blocked p s (operationShared index a s) := by
  have party := (operationShared_party index a s begun sound).1
  have others (i : Nat) (differ : i ≠ index) : (operationShared index a s).operations i = s.operations i :=
    Function.update_of_ne differ _ s.operations
  cases p with
  | startup => exact .other sound party (by simp) unproven unproven
  | protocol => exact .other sound party (by simp) unproven unproven
  | operation i =>
    by_cases same : i = index
    · obtain ⟨⟨result, place⟩, claimed⟩ := unproven
      have stays : operationPhase a s.control.storageOwner (s.operations index) =
          (s.control.storageOwner, s.operations index) := by
        rw [← same]
        simp [operationPhase, place]
      have unchanged : operationShared index a s = s := by
        unfold operationShared
        simp only [stays, Function.update_eq_self]
      rw [unchanged]
      exact ⟨⟨⟨result, place⟩, claimed⟩, rfl, rfl⟩
    · refine .other sound party (fun eq => same (Party.operation.inj eq).symm) unproven ?_
      simp only [Shared.Unproven, others i same]
      exact unproven

theorem controlShared_blocked (label : SharedLabel) (s : Shared) (begun : s.main.pc ≠ .claim)
    (sound : SharedSound s) (p : Party) (unproven : s.Unproven p) :
    Blocked p s (controlShared build label s) := by
  have kept := controlShared_kept build label s sound.ota
  have party := (controlShared_party build label s begun sound).1
  cases p with
  | startup =>
    refine .other sound party (by simp) unproven ?_
    simp only [Shared.Unproven, kept.main]
    exact unproven
  | protocol =>
    obtain ⟨stays, owner, claim⟩ := controlShared_unproven build label s sound unproven
    exact .own party stays owner claim
  | operation index =>
    refine .other sound party (by simp) unproven ?_
    simp only [Shared.Unproven, kept.operations]
    exact unproven

theorem sharedStep_blocked (label : SharedLabel) (s : Shared) (sound : SharedSound s) (p : Party)
    (unproven : s.Unproven p) : Blocked p s (sharedStep build label s) := by
  unfold sharedStep
  split
  · exact mainShared_blocked _ s sound p unproven
  · split
    · exact ⟨unproven, rfl, rfl⟩
    next begun =>
      split
      · exact operationShared_blocked _ _ s begun sound p unproven
      · rw [callbackShared_same _ _ s sound]
        exact ⟨unproven, rfl, rfl⟩
      · exact controlShared_blocked build _ s begun sound p unproven

theorem run_blocked (more : List SharedLabel) (s : Shared) (sound : SharedSound s) (p : Party)
    (unproven : s.Unproven p) : Blocked p s (run (sharedStep build) more s) := by
  induction more generalizing s with
  | nil => exact ⟨unproven, rfl, rfl⟩
  | cons label rest ih =>
    have first := sharedStep_blocked build label s sound p unproven
    have later := ih (sharedStep build label s) (sharedStep_kept build label s sound) first.unproven
    exact ⟨later.unproven, later.owner.trans first.owner, later.claims.trans first.claims⟩

theorem operating_inside (o : Operation) (operating : o.operating = true) : o.place.inside = true := by
  unfold Operation.operating at operating
  split at operating
  next place => rw [place]; rfl
  · cases operating

theorem unproven_quiet (s : Shared) (sound : SharedSound s) (p : Party) (unproven : s.Unproven p) :
    s.control.workers = [] ∧ ∀ index, (s.operations index).operating = false := by
  have held := sound.unproven_held p unproven
  constructor
  · rcases sound.ota.working with none | ⟨-, active, -, rest, -⟩
    · exact none
    · have own := sound.ota.held (.inr active)
      obtain rfl := sound.leased.alone p .protocol held own
      rcases unproven.2.2 with idle | halted
      · rw [show s.control.otaActive = true from active] at idle
        cases idle
      · exact (sound.ota.halted halted).2
  · intro index
    by_contra operating
    have operating : (s.operations index).operating = true := by simpa using operating
    have own := (sound.operations index).held (operating_inside _ operating)
    obtain rfl := sound.leased.alone p (.operation index) held own
    obtain ⟨⟨result, place⟩, -⟩ := unproven
    simp [Operation.operating, place] at operating

inductive EndsUnproven (s : Shared) : SharedLabel → Party → Prop where
  | startup (r : MainReading)
      (failed : (mainShared r s).main.pc = .stopped ∨ (mainShared r s).main.pc = .rebooted) :
    EndsUnproven s (.main r) .startup
  | registration (a : PhaseAnswers) (slot : Nat) (request : OtaRequest) (place : s.place = .register slot request)
      (uncertain : (otaReceiptRegister build.eota a.register s.control.deviceId request
        s.control.receiptStore).1 = .storageUncertain) : EndsUnproven s (.advance a) .protocol
  | unstarted (a : PhaseAnswers) (slot : Nat) (request : OtaRequest)
      (place : s.place = .recordUnstarted slot request)
      (unrecorded : (otaReceiptRecordFailure build.eota a.failure s.control.deviceId request.operationId
        eotaUpdateResourceFailure s.control.receiptStore).1 ≠ .ok) : EndsUnproven s (.advance a) .protocol
  | failure (a : PhaseAnswers) (place : s.place = .recordFailure)
      (unrecorded : (otaReceiptRecordFailure build.eota a.failure s.control.deviceId
        s.control.otaRequest.operationId s.control.otaResult s.control.receiptStore).1 ≠ .ok) :
    EndsUnproven s (.advance a) .protocol
  | selected (running : s.control.restarted = false) (rest : s.place = .rest) (active : s.control.otaActive = true)
      (done : s.control.otaDone = true)
      (result : s.control.otaResult = eotaUpdateOk ∨ s.control.otaResult = eotaUpdateBootStateUnknown) :
    EndsUnproven s .pollOta .protocol
  | operation (index : Nat) (a : OperationAnswers) (first : FirmwareSet) (answered : SlotsResult)
      (place : (s.operations index).place = .observeAgain first answered)
      (uncertain : answered = .uncertain ∨ a.observed.1 ≠ .ok ∨ first ≠ a.observed.2) :
    EndsUnproven s (.operation index a) (.operation index)

theorem SharedSound.begun {s : Shared} (sound : SharedSound s) (p : Party) (held : s.owner.HeldBy (s.claims p)) :
    s.main.pc ≠ .claim := fun start => HeldBy.busy held (sound.starting start)

theorem phased_unproven (s : Shared) (x : OtaPlace × Control) (rest : x.1 = .rest)
    (claim : x.2.otaView.claim ≠ .empty) (ended : x.2.otaView.active = false ∨ x.2.otaView.restarted = true) :
    (s.phased x).Unproven .protocol := by
  have view := phased_view s x
  have claims : (s.phased x).control.otaStorageClaim = x.2.otaView.claim := congrArg OtaView.claim view
  have active : (s.phased x).control.otaActive = x.2.otaView.active := congrArg OtaView.active view
  have restarted : (s.phased x).control.restarted = x.2.otaView.restarted := congrArg OtaView.restarted view
  simp only [Shared.Unproven, claims, active, restarted]
  exact ⟨rest, claim, ended⟩

theorem sharedStep_advance (a : PhaseAnswers) (s : Shared) (sound : SharedSound s) (elsewhere : s.place ≠ .rest) :
    sharedStep build (.advance a) s = s.phased (advanceOta build a s.place s.control) := by
  have begun := sound.begun .protocol (sound.ota.held (.inl elsewhere))
  have running : s.control.restarted = false := (sound.ota.waiting _ _ elsewhere).2
  simp [sharedStep, controlShared, begun, running, elsewhere]

theorem advance_ends (a : PhaseAnswers) (s : Shared) (sound : SharedSound s) (elsewhere : s.place ≠ .rest)
    (rest : (advanceOta build a s.place s.control).1 = .rest)
    (claim : (advanceOta build a s.place s.control).2.otaView.claim = s.control.otaView.claim)
    (idle : (advanceOta build a s.place s.control).2.otaView.active = false) :
    (sharedStep build (.advance a) s).Unproven .protocol := by
  rw [sharedStep_advance build a s sound elsewhere]
  refine phased_unproven s _ rest ?_ (.inl idle)
  rw [claim]
  exact HeldBy.nonempty (sound.ota.held (.inl elsewhere))

theorem ends_unproven (s : Shared) (sound : SharedSound s) (label : SharedLabel) (p : Party)
    (ends : EndsUnproven build s label p) : (sharedStep build label s).Unproven p := by
  cases ends with
  | startup r failed => exact failed
  | registration a slot request place uncertain =>
    have idle := sound.ota.unstarted (by rw [place]; rfl)
    refine advance_ends build a s sound (by simp [place]) ?_ ?_ ?_
    all_goals simp only [place, advanceOta, registerOta, uncertain, ne_eq, reduceCtorEq, not_false_eq_true, if_true,
      saveOutcome_otaView]
    · rfl
    · exact idle
  | unstarted a slot request place unrecorded =>
    have idle := sound.ota.unstarted (by rw [place]; rfl)
    refine advance_ends build a s sound (by simp [place]) ?_ ?_ ?_
    all_goals simp only [place, advanceOta, recordUnstarted, unrecorded, if_false, saveOutcome_otaView]
    · rfl
    · exact idle
  | failure a place unrecorded =>
    refine advance_ends build a s sound (by simp [place]) ?_ ?_ ?_
    all_goals simp only [place, advanceOta, recordFailure, ne_eq, unrecorded, not_false_eq_true, if_true]
    · rw [cleared_view]
      rfl
    · rw [cleared_view]
      rfl
  | selected running rest active done result =>
    have held := sound.ota.held (.inr active)
    have begun := sound.begun .protocol held
    have reads : sharedStep build .pollOta s = s.phased (readOta build s.control) := by
      simp [sharedStep, controlShared, begun, running, rest]
    rw [reads]
    rcases result with selected | unknown
    · have ends : readOta build s.control = (.rest,
          { saveOutcome s.control.otaSlot .running none none s.control with
            restarted := true
            log := (saveOutcome s.control.otaSlot .running none none s.control).log ++ [.slotSelected] }) := by
        simp [readOta, active, done, selected]
      rw [ends]
      refine phased_unproven s _ rfl ?_ ?_
      · rw [halting_view]
        exact HeldBy.nonempty held
      · rw [halting_view]
        exact .inr rfl
    · have ends : readOta build s.control =
          (.rest, finishOta build s.control.otaResult { s.control with otaBootUncertain := true }) := by
        have differ : eotaUpdateBootStateUnknown ≠ eotaUpdateOk := by decide
        simp [readOta, active, done, unknown, differ]
      rw [ends]
      refine phased_unproven s _ rfl ?_ ?_
      · rw [finishOta_otaView]
        exact HeldBy.nonempty held
      · rw [finishOta_otaView]
        exact .inl rfl
  | operation index a first answered place uncertain =>
    have held := (sound.operations index).held (by rw [place]; rfl)
    have begun := sound.begun (.operation index) held
    have ends : operationPhase a s.control.storageOwner (s.operations index) =
        (s.control.storageOwner, { s.operations index with place := .ended .uncertain }) := by
      rcases uncertain with rfl | changed
      · simp [operationPhase, place]
      · simp [operationPhase, place, changed]
    have own : (sharedStep build (.operation index a) s).operations index =
        { s.operations index with place := .ended .uncertain } := by
      simp [sharedStep, begun, operationShared, ends]
    simp only [Shared.Unproven, own]
    exact ⟨⟨_, rfl⟩, HeldBy.nonempty held⟩

theorem shared_owner (b : Boot) (labels : List SharedLabel) :
    let s := runShared build b labels
    (∀ p q, s.owner.HeldBy (s.claims p) → s.owner.HeldBy (s.claims q) → p = q) ∧
      (∀ request ∈ s.control.workers, s.control.workers = [request] ∧ s.owner.HeldBy (s.claims .protocol) ∧
        s.control.otaView.Prepared request) ∧
      (∀ index, (s.operations index).operating = true → s.owner.HeldBy (s.claims (.operation index))) ∧
      (∀ label p, EndsUnproven build s label p → (sharedStep build label s).Unproven p) ∧
      ∀ p, s.Unproven p → s.owner.HeldBy (s.claims p) ∧ ∀ more,
        let t := run (sharedStep build) more s
        t.owner = s.owner ∧ t.claims = s.claims ∧ t.control.workers = [] ∧
          ∀ index, (t.operations index).operating = false := by
  have sound := shared_sound build b labels
  generalize runShared build b labels = s at sound
  dsimp only
  refine ⟨sound.leased.alone, ?_, ?_, ends_unproven build s sound, ?_⟩
  · intro request working
    rcases sound.ota.working with none | ⟨alone, active, -, -, prepared⟩
    · rw [show s.control.workers = [] from none] at working
      cases working
    · rw [show s.control.workers = [s.control.otaRequest] from alone] at working ⊢
      obtain rfl := List.mem_singleton.mp working
      exact ⟨rfl, sound.ota.held (.inr active), prepared⟩
  · exact fun index operating => (sound.operations index).held (operating_inside _ operating)
  · intro p unproven
    refine ⟨sound.unproven_held p unproven, fun more => ?_⟩
    have blocked := run_blocked build more s sound p unproven
    have later := run_invariant (sharedStep_kept build) more s sound
    exact ⟨blocked.owner, blocked.claims, unproven_quiet _ later p blocked.unproven⟩

end EspBase

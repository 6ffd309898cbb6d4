import EspBase.Container.FirmwareSet
import EspBase.Ota.StorageOwner
import EspBase.Shared.Run

set_option autoImplicit false

namespace EspBase

open Transition

inductive SlotsResult where
  | ok
  | invalid
  | busy
  | uncertain
  | other (code : Nat)
deriving DecidableEq, Repr

inductive OwnerCall where
  | claim (record : Nat)
  | release (record : Nat)
  | copy (source target : Nat)
deriving DecidableEq

-- The owner and the claim records that the operation has of its own.
structure OwnerUse where
  owner : StorageOwner
  records : Nat → StorageClaim

def ownerCall (call : OwnerCall) (use : OwnerUse) : OwnerUse :=
  match call with
  | .claim record =>
    let claimed := storageClaim use.owner (use.records record)
    { owner := claimed.2.1, records := Function.update use.records record claimed.2.2 }
  | .release record =>
    let released := storageRelease use.owner (use.records record)
    { owner := released.2.1, records := Function.update use.records record released.2.2 }
  | .copy source target =>
    { use with records := Function.update use.records target (use.records source) }

inductive BindingEvent where
  | observed (owner : StorageOwner) (answer : FirmwareResult × FirmwareSet)
  | operated (owner : StorageOwner) (set : EcontainerFirmwareSet)
deriving DecidableEq

structure BindingAnswers where
  first : FirmwareResult × FirmwareSet
  second : FirmwareResult × FirmwareSet
  calls : List OwnerCall
  records : Nat → StorageClaim

variable {Context : Type}

structure BindingRun (Context : Type) where
  result : SlotsResult
  owner : StorageOwner
  context : Context
  trace : List BindingEvent

def finishBinding (started : Bool) (claim : StorageClaim) (run : BindingRun Context) : BindingRun Context :=
  if started && run.result == .uncertain then run
  else
    let released := storageRelease run.owner claim
    { run with result := if released.1 then run.result else .uncertain, owner := released.2.1 }

def containerWithFirmwareSet (a : BindingAnswers) (owner : StorageOwner)
    (operation : EcontainerFirmwareSet → Context → SlotsResult × Context) (context : Context) :
    BindingRun Context :=
  let claimed := storageClaim owner .empty
  if !claimed.1 then { result := .busy, owner := claimed.2.1, context, trace := [] }
  else
    let held := claimed.2.1
    match if a.first.1 = .ok then mapFirmwareSet a.first.2 else none with
    | none =>
      finishBinding false claimed.2.2
        { result := .uncertain, owner := held, context, trace := [.observed held a.first] }
    | some mapped =>
      let answered := operation mapped context
      let used := (run ownerCall a.calls { owner := held, records := a.records }).owner
      finishBinding true claimed.2.2
        { result := if a.second.1 ≠ .ok ∨ a.first.2 ≠ a.second.2 then .uncertain else answered.1
          owner := used
          context := answered.2
          trace := [.observed held a.first, .operated held mapped, .observed used a.second] }

def espBaseContainerWithFirmwareSet (a : BindingAnswers) (owner : Option StorageOwner)
    (operation : Option (EcontainerFirmwareSet → Context → SlotsResult × Context)) (context : Context) :
    SlotsResult × Option (BindingRun Context) :=
  match owner, operation with
  | some owner, some operation =>
    let run := containerWithFirmwareSet a owner operation context
    (run.result, some run)
  | _, _ => (.invalid, none)

inductive EcontainerSlotBootDecision where
  | blocked
  | confirmed
  | other (code : Nat)
deriving DecidableEq, Repr

variable {Io Geometry SlotsState : Type} [Zero SlotsState]

structure ReconcileContext (Io Geometry SlotsState : Type) where
  io : Io
  geometry : Geometry
  state : SlotsState
  decision : EcontainerSlotBootDecision

-- `econtainer_slots_reconcile` of the Container component.
abbrev SlotsReconcile (Io Geometry SlotsState : Type) :=
  Io → Geometry → EcontainerFirmwareSet → SlotsState → EcontainerSlotBootDecision →
    SlotsResult × SlotsState × EcontainerSlotBootDecision

def reconcileCallback (econtainerSlotsReconcile : SlotsReconcile Io Geometry SlotsState)
    (set : EcontainerFirmwareSet) (context : ReconcileContext Io Geometry SlotsState) :
    SlotsResult × ReconcileContext Io Geometry SlotsState :=
  let answered :=
    econtainerSlotsReconcile context.io context.geometry set context.state context.decision
  (answered.1, { context with state := answered.2.1, decision := answered.2.2 })

structure ReconcileRun (SlotsState : Type) where
  result : SlotsResult
  state : Option SlotsState
  decision : Option EcontainerSlotBootDecision
  owner : Option StorageOwner
  trace : List BindingEvent

def espBaseContainerReconcile (econtainerSlotsReconcile : SlotsReconcile Io Geometry SlotsState)
    (a : BindingAnswers) (owner : Option StorageOwner) (io : Option Io) (geometry : Option Geometry)
    (state : Option SlotsState) (decision : Option EcontainerSlotBootDecision) : ReconcileRun SlotsState :=
  let decision := decision.map (fun _ => EcontainerSlotBootDecision.blocked)
  let state := state.map (fun _ => (0 : SlotsState))
  match owner, io, geometry, state, decision with
  | some owner, some io, some geometry, some state, some decision =>
    let run := containerWithFirmwareSet a owner (reconcileCallback econtainerSlotsReconcile)
      { io, geometry, state, decision }
    let uncertain := run.result = .uncertain
    { result := run.result
      state := some (if uncertain then 0 else run.context.state)
      decision := some (if uncertain then .blocked else run.context.decision)
      owner := some run.owner
      trace := run.trace }
  | owner, _, _, state, decision => { result := .invalid, state, decision, owner, trace := [] }

structure Foreign (held : StorageOwner) (use : OwnerUse) : Prop where
  owner : use.owner = held
  others : ∀ record, (use.records record).token ≠ held.activeToken

theorem storageClaim_busy (owner : StorageOwner) (claim : StorageClaim) (busy : owner.activeToken ≠ 0) :
    storageClaim owner claim = (false, owner, claim) := by
  rcases storageClaim_cases owner claim with same | ⟨-, free, -⟩
  · exact same
  · exact absurd free busy

theorem storageRelease_other (owner : StorageOwner) (claim : StorageClaim)
    (other : claim.token ≠ owner.activeToken) : storageRelease owner claim = (false, owner, claim) := by
  rcases storageRelease_cases owner claim with ⟨held, -⟩ | ⟨-, same⟩
  · exact absurd held.active.symm other
  · exact same

theorem ownerCall_foreign (held : StorageOwner) (busy : held.activeToken ≠ 0) (call : OwnerCall)
    (use : OwnerUse) (foreign : Foreign held use) : Foreign held (ownerCall call use) := by
  obtain ⟨rfl, others⟩ := foreign
  cases call with
  | claim record =>
    refine ⟨?_, fun other => ?_⟩
    · simp only [ownerCall, storageClaim_busy _ _ busy]
    · simp only [ownerCall, storageClaim_busy _ _ busy, Function.update_eq_self]
      exact others other
  | release record =>
    have failed := storageRelease_other _ _ (others record)
    refine ⟨?_, fun other => ?_⟩
    · simp only [ownerCall, failed]
    · simp only [ownerCall, failed, Function.update_eq_self]
      exact others other
  | copy source target =>
    refine ⟨rfl, fun other => ?_⟩
    by_cases same : other = target
    · simp only [ownerCall, same, Function.update_self]
      exact others source
    · simp only [ownerCall, ne_eq, same, not_false_eq_true, Function.update_of_ne]
      exact others other

theorem ownerCalls_kept (held : StorageOwner) (busy : held.activeToken ≠ 0) (calls : List OwnerCall)
    (use : OwnerUse) (foreign : Foreign held use) : (run ownerCall calls use).owner = held :=
  (run_invariant (ownerCall_foreign held busy) calls use foreign).owner

def BindingEvent.operation : BindingEvent → Bool
  | .operated _ _ => true
  | .observed _ _ => false

-- The owner under the adapter's claim, which has the next token.
def claimedOwner (owner : StorageOwner) : StorageOwner :=
  { nextToken := owner.nextToken + 1, activeToken := owner.nextToken + 1 }

structure BindingRun.Closed {Context : Type} (a : BindingAnswers) (owner : StorageOwner)
    (operation : EcontainerFirmwareSet → Context → SlotsResult × Context) (context : Context)
    (run : BindingRun Context) : Prop where
  trace : run.trace = [] ∨ run.trace = [.observed (claimedOwner owner) a.first] ∨
    ∃ set, run.trace = [.observed (claimedOwner owner) a.first, .operated (claimedOwner owner) set,
      .observed (claimedOwner owner) a.second]
  claimed : run.trace ≠ [] → owner.activeToken = 0
  mapped : ∀ under set, .operated under set ∈ run.trace →
    a.first.1 = .ok ∧ mapFirmwareSet a.first.2 = some set ∧ run.context = (operation set context).2 ∧
      run.result = if a.second.1 = .ok ∧ a.second.2 = a.first.2 then (operation set context).1 else .uncertain
  kept : run.trace.any BindingEvent.operation → run.result = .uncertain → run.owner = claimedOwner owner
  freed : ¬(run.trace.any BindingEvent.operation = true ∧ run.result = .uncertain) →
    run.owner.activeToken = owner.activeToken

theorem storageClaim_empty (owner : StorageOwner) (free : owner.activeToken = 0)
    (room : owner.nextToken < uintMax - 1) :
    storageClaim owner .empty = (true, claimedOwner owner, { bound := true, token := owner.nextToken + 1 }) := by
  have more : ¬owner.nextToken ≥ uintMax - 1 := not_le.mpr room
  simp [storageClaim, StorageClaim.empty, free, more, claimedOwner]

theorem storageClaim_unavailable (owner : StorageOwner)
    (refused : owner.activeToken ≠ 0 ∨ ¬owner.nextToken < uintMax - 1) :
    storageClaim owner .empty = (false, owner, .empty) := by
  by_cases busy : owner.activeToken ≠ 0
  · exact storageClaim_busy owner .empty busy
  · have free := not_not.mp busy
    have spent : owner.nextToken ≥ uintMax - 1 := not_lt.mp (refused.resolve_left busy)
    have same : { owner with activeToken := 0 } = owner := by rw [← free]
    simp [storageClaim, StorageClaim.empty, free, spent, same]

theorem started_closed (a : BindingAnswers) (owner : StorageOwner)
    (operation : EcontainerFirmwareSet → Context → SlotsResult × Context) (context : Context)
    (mapped : EcontainerFirmwareSet) (free : owner.activeToken = 0)
    (released : storageRelease (claimedOwner owner) { bound := true, token := owner.nextToken + 1 } =
      (true, { claimedOwner owner with activeToken := 0 }, .empty))
    (first : a.first.1 = .ok ∧ mapFirmwareSet a.first.2 = some mapped) (verdict : SlotsResult)
    (judged : verdict =
      if a.second.1 = .ok ∧ a.second.2 = a.first.2 then (operation mapped context).1 else .uncertain) :
    BindingRun.Closed a owner operation context
      (finishBinding true { bound := true, token := owner.nextToken + 1 }
        { result := verdict
          owner := claimedOwner owner
          context := (operation mapped context).2
          trace := [.observed (claimedOwner owner) a.first, .operated (claimedOwner owner) mapped,
            .observed (claimedOwner owner) a.second] }) := by
  have only (under : StorageOwner) (other : EcontainerFirmwareSet)
      (ran : BindingEvent.operated under other ∈ [BindingEvent.observed (claimedOwner owner) a.first,
        .operated (claimedOwner owner) mapped, .observed (claimedOwner owner) a.second]) : other = mapped := by
    simpa using And.right (by simpa using ran)
  by_cases uncertain : verdict = .uncertain
  · rw [finishBinding, if_pos (by simp [uncertain])]
    exact
      { trace := .inr (.inr ⟨mapped, rfl⟩)
        claimed := fun _ => free
        mapped := by
          intro under other ran
          rw [only under other ran]
          exact ⟨first.1, first.2, rfl, judged⟩
        kept := fun _ _ => rfl
        freed := by simp [BindingEvent.operation, uncertain] }
  · rw [finishBinding, if_neg (by simp [uncertain]), released]
    exact
      { trace := .inr (.inr ⟨mapped, rfl⟩)
        claimed := fun _ => free
        mapped := by
          intro under other ran
          rw [only under other ran]
          exact ⟨first.1, first.2, rfl, judged⟩
        kept := fun _ result => absurd result uncertain
        freed := fun _ => free.symm }

theorem containerWithFirmwareSet_closed (a : BindingAnswers) (owner : StorageOwner)
    (issued : ∀ record, (a.records record).token ≤ owner.nextToken)
    (operation : EcontainerFirmwareSet → Context → SlotsResult × Context) (context : Context) :
    BindingRun.Closed a owner operation context (containerWithFirmwareSet a owner operation context) := by
  by_cases ready : owner.activeToken = 0 ∧ owner.nextToken < uintMax - 1
  · obtain ⟨free, room⟩ := ready
    have held : (claimedOwner owner).HeldBy { bound := true, token := owner.nextToken + 1 } := by
      have published : owner.nextToken + 1 ≠ uintMax := by omega
      exact ⟨rfl, Nat.succ_ne_zero _, published, rfl⟩
    have busy : (claimedOwner owner).activeToken ≠ 0 := Nat.succ_ne_zero _
    have released := storageRelease_held _ _ held
    have kept := ownerCalls_kept (claimedOwner owner) busy a.calls
      { owner := claimedOwner owner, records := a.records } ⟨rfl, fun record same => ?_⟩
    · unfold containerWithFirmwareSet
      rw [storageClaim_empty owner free room]
      dsimp only
      rw [kept, Bool.not_true, if_neg Bool.false_ne_true]
      split
      next unmapped =>
        rw [finishBinding, Bool.false_and, if_neg Bool.false_ne_true, released]
        exact
          { trace := .inr (.inl rfl)
            claimed := fun _ => free
            mapped := by simp
            kept := by simp [BindingEvent.operation]
            freed := fun _ => free.symm }
      next mapped found =>
        have first : a.first.1 = .ok ∧ mapFirmwareSet a.first.2 = some mapped := by
          split at found
          next ok => exact ⟨ok, found⟩
          next => cases found
        have verdict : (if a.second.1 ≠ .ok ∨ a.first.2 ≠ a.second.2 then SlotsResult.uncertain
            else (operation mapped context).1) =
            if a.second.1 = .ok ∧ a.second.2 = a.first.2 then (operation mapped context).1 else .uncertain := by
          have turned : a.first.2 = a.second.2 ↔ a.second.2 = a.first.2 := eq_comm
          by_cases ok : a.second.1 = .ok <;> by_cases same : a.second.2 = a.first.2 <;>
            simp [ok, turned, same]
        rw [verdict]
        exact started_closed a owner operation context mapped free released first _ rfl
    · have bound := issued record
      rw [same] at bound
      exact absurd bound (by simp [claimedOwner])
  · have refused : owner.activeToken ≠ 0 ∨ ¬owner.nextToken < uintMax - 1 := by
      rwa [not_and_or] at ready
    have same : containerWithFirmwareSet a owner operation context =
        { result := .busy, owner, context, trace := [] } := by
      unfold containerWithFirmwareSet
      rw [storageClaim_unavailable owner refused]
      rfl
    rw [same]
    exact ⟨.inl rfl, fun some_event => absurd rfl some_event, by simp, by simp, fun _ => rfl⟩

theorem finishBinding_same (started : Bool) (claim : StorageClaim) (run : BindingRun Context) :
    (finishBinding started claim run).context = run.context ∧
      (finishBinding started claim run).trace = run.trace := by
  unfold finishBinding
  split <;> exact ⟨rfl, rfl⟩

-- Without the operation nothing is written into its context.
theorem containerWithFirmwareSet_untouched (a : BindingAnswers) (owner : StorageOwner)
    (operation : EcontainerFirmwareSet → Context → SlotsResult × Context) (context : Context)
    (idle : (containerWithFirmwareSet a owner operation context).trace.any BindingEvent.operation = false) :
    (containerWithFirmwareSet a owner operation context).context = context := by
  unfold containerWithFirmwareSet at idle ⊢
  dsimp only at idle ⊢
  split
  · rfl
  next claimed =>
    rw [if_neg claimed] at idle
    split at idle
    next => exact (finishBinding_same _ _ _).1
    next =>
      rw [(finishBinding_same _ _ _).2] at idle
      cases idle

theorem reconcile_blocked (econtainerSlotsReconcile : SlotsReconcile Io Geometry SlotsState)
    (a : BindingAnswers) (owner : Option StorageOwner) (io : Option Io) (geometry : Option Geometry)
    (state : SlotsState) (decision : EcontainerSlotBootDecision)
    (failed : (espBaseContainerReconcile econtainerSlotsReconcile a owner io geometry (some state)
        (some decision)).trace.any BindingEvent.operation = false ∨
      (espBaseContainerReconcile econtainerSlotsReconcile a owner io geometry (some state)
        (some decision)).result = .uncertain) :
    (espBaseContainerReconcile econtainerSlotsReconcile a owner io geometry (some state)
        (some decision)).state = some 0 ∧
      (espBaseContainerReconcile econtainerSlotsReconcile a owner io geometry (some state)
        (some decision)).decision = some .blocked := by
  cases owner with
  | none => exact ⟨rfl, rfl⟩
  | some owner =>
    cases io with
    | none => exact ⟨rfl, rfl⟩
    | some io =>
      cases geometry with
      | none => exact ⟨rfl, rfl⟩
      | some geometry =>
        simp only [espBaseContainerReconcile, Option.map_some] at failed ⊢
        by_cases uncertain : (containerWithFirmwareSet a owner (reconcileCallback econtainerSlotsReconcile)
            { io, geometry, state := 0, decision := .blocked }).result = .uncertain
        · simp [uncertain]
        · have idle := failed.resolve_right uncertain
          rw [containerWithFirmwareSet_untouched a owner _ _ idle]
          simp [uncertain]

theorem container_fails_closed :
    (∀ (Context : Type) (a : BindingAnswers) (owner : StorageOwner)
      (operation : EcontainerFirmwareSet → Context → SlotsResult × Context) (context : Context),
      (∀ record, (a.records record).token ≤ owner.nextToken) →
      ∃ run, espBaseContainerWithFirmwareSet a (some owner) (some operation) context =
          (run.result, some run) ∧
        BindingRun.Closed a owner operation context run) ∧
    (∀ (Io Geometry SlotsState : Type) [Zero SlotsState]
      (econtainerSlotsReconcile : SlotsReconcile Io Geometry SlotsState) (a : BindingAnswers)
      (owner : Option StorageOwner) (io : Option Io) (geometry : Option Geometry) (state : SlotsState)
      (decision : EcontainerSlotBootDecision),
      (espBaseContainerReconcile econtainerSlotsReconcile a owner io geometry (some state)
          (some decision)).trace.any BindingEvent.operation = false ∨
        (espBaseContainerReconcile econtainerSlotsReconcile a owner io geometry (some state)
          (some decision)).result = .uncertain →
      (espBaseContainerReconcile econtainerSlotsReconcile a owner io geometry (some state)
          (some decision)).state = some 0 ∧
        (espBaseContainerReconcile econtainerSlotsReconcile a owner io geometry (some state)
          (some decision)).decision = some .blocked) := by
  constructor
  · intro Context a owner operation context issued
    exact ⟨_, rfl, containerWithFirmwareSet_closed a owner issued operation context⟩
  · intro Io Geometry SlotsState _ econtainerSlotsReconcile a owner io geometry state decision
    exact reconcile_blocked econtainerSlotsReconcile a owner io geometry state decision

-- The set is another one after the operation.
def changedAnswers : BindingAnswers :=
  { first := (.ok, filledFirmwareSet (filledDigest 0xa0) (some (filledDigest 0xb0)))
    second := (.ok, filledFirmwareSet (filledDigest 0xa0) none)
    calls := [.claim 0, .release 0]
    records := fun _ => .empty }

theorem container_fails_closed_changed :
    ∃ run, espBaseContainerWithFirmwareSet changedAnswers (some .initial)
        (some (fun _ calls => (.ok, calls + 1))) 0 = (run.result, some run) ∧
      run.context = 1 ∧ run.owner = { nextToken := 1, activeToken := 1 } := by
  obtain ⟨run, same, closed⟩ := container_fails_closed.1 Nat changedAnswers .initial
    (fun _ calls => (.ok, calls + 1)) 0 (fun _ => Nat.zero_le _)
  have computed : espBaseContainerWithFirmwareSet changedAnswers (some .initial)
      (some (fun _ calls => (.ok, calls + 1))) 0 =
        (.uncertain, some (containerWithFirmwareSet changedAnswers .initial (fun _ calls => (.ok, calls + 1)) 0)) := by
    have judged : (containerWithFirmwareSet changedAnswers .initial
        (fun _ calls => (SlotsResult.ok, calls + 1)) 0).result = .uncertain := by decide +kernel
    rw [espBaseContainerWithFirmwareSet, judged]
  rw [computed, Prod.mk.injEq, Option.some.injEq] at same
  obtain ⟨uncertain, rfl⟩ := same
  exact ⟨_, by rw [computed, ← uncertain], by decide +kernel, closed.kept (by decide +kernel) uncertain.symm⟩

end EspBase

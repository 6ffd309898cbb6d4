import EspBase.Ota.StorageOwner
import EspBase.Shared.Run
import Mathlib.Logic.Function.Basic

set_option autoImplicit false

namespace EspBase

open Transition

inductive OwnerCallKind where
  | claim
  | release
deriving DecidableEq, Repr

/-- Where a call stands; each of the middle ones is before an atomic operation. -/
inductive OwnerPoint where
  | idle
  | reserve (record : StorageClaim)
  | load (record : StorageClaim)
  | loaded (record : StorageClaim) (previous : Nat)
  | publish (record : StorageClaim) (token : Nat)
  | swap (record : StorageClaim)
  | done (kind : OwnerCallKind) (record : StorageClaim) (result : Bool)
deriving DecidableEq

-- Between the exchange with `UINT_MAX` and the next store of the active token.
def OwnerPoint.reserving : OwnerPoint → Bool
  | .load _ | .loaded _ _ | .publish _ _ => true
  | _ => false

structure OwnerSystem where
  owner : StorageOwner
  calls : Nat → OwnerPoint
  given : Nat → StorageClaim
  issued : List Nat
  released : List Nat

def OwnerSystem.initial : OwnerSystem :=
  { owner := .initial, calls := fun _ => .idle, given := fun _ => .empty, issued := [], released := [] }

inductive OwnerLabel where
  | claim (call : Nat) (record : StorageClaim)
  | release (call : Nat) (record : StorageClaim)
  | step (call : Nat)
deriving DecidableEq

def OwnerSystem.at (s : OwnerSystem) (call : Nat) (point : OwnerPoint) : OwnerSystem :=
  { s with calls := Function.update s.calls call point }

-- The checks of the record, which is read before the first atomic operation.
def claimStart (record : StorageClaim) : OwnerPoint :=
  if record.bound || record.token != 0 then .done .claim record false else .reserve record

def releaseStart (record : StorageClaim) : OwnerPoint :=
  if !record.bound || record.token == 0 || record.token == uintMax then .done .release record false
  else .swap record

def atomicStep (call : Nat) (s : OwnerSystem) : OwnerSystem :=
  match s.calls call with
  | .idle | .done _ _ _ => s
  | .reserve record =>
    if s.owner.activeToken = 0 then
      { s.at call (.load record) with owner := { s.owner with activeToken := uintMax } }
    else s.at call (.done .claim record false)
  | .load record => s.at call (.loaded record s.owner.nextToken)
  | .loaded record previous =>
    if previous ≥ uintMax - 1 then
      { s.at call (.done .claim record false) with owner := { s.owner with activeToken := 0 } }
    else
      { s.at call (.publish record (previous + 1)) with owner := { s.owner with nextToken := previous + 1 } }
  | .publish _ token =>
    { s.at call (.done .claim { bound := true, token := token } true) with
      owner := { s.owner with activeToken := token }
      issued := s.issued ++ [token] }
  | .swap record =>
    if s.owner.activeToken = record.token then
      { s.at call (.done .release .empty true) with
        owner := { s.owner with activeToken := 0 }
        released := s.released ++ [record.token] }
    else s.at call (.done .release record false)

def ownerStep (label : OwnerLabel) (s : OwnerSystem) : OwnerSystem :=
  match label with
  | .claim call record =>
    if s.calls call = .idle then
      { s.at call (claimStart record) with given := Function.update s.given call record }
    else s
  | .release call record =>
    if s.calls call = .idle then
      { s.at call (releaseStart record) with given := Function.update s.given call record }
    else s
  | .step call => atomicStep call s

theorem claim_uninterrupted (s : OwnerSystem) (call : Nat) (record : StorageClaim) (idle : s.calls call = .idle) :
    let after := run ownerStep (.claim call record :: List.replicate 4 (.step call)) s
    after.owner = (storageClaim s.owner record).2.1 ∧
      after.calls call = .done .claim (storageClaim s.owner record).2.2 (storageClaim s.owner record).1 := by
  by_cases given : (record.bound || record.token != 0) = true
  · simp [ownerStep, idle, claimStart, atomicStep, OwnerSystem.at, storageClaim, given]
  by_cases free : s.owner.activeToken = 0
  · by_cases spent : s.owner.nextToken ≥ uintMax - 1 <;>
      simp [ownerStep, idle, claimStart, atomicStep, OwnerSystem.at, storageClaim, given, free, spent]
  · simp [ownerStep, idle, claimStart, atomicStep, OwnerSystem.at, storageClaim, given, free]

theorem release_uninterrupted (s : OwnerSystem) (call : Nat) (record : StorageClaim) (idle : s.calls call = .idle) :
    let after := run ownerStep [.release call record, .step call] s
    after.owner = (storageRelease s.owner record).2.1 ∧
      after.calls call = .done .release (storageRelease s.owner record).2.2 (storageRelease s.owner record).1 := by
  by_cases given : (!record.bound || record.token == 0 || record.token == uintMax) = true
  · simp [ownerStep, idle, releaseStart, atomicStep, OwnerSystem.at, storageRelease, given]
  · by_cases held : s.owner.activeToken = record.token <;>
      simp [ownerStep, idle, releaseStart, atomicStep, OwnerSystem.at, storageRelease, given, held]

structure OwnerInv (s : OwnerSystem) : Prop where
  reserved : s.owner.activeToken = uintMax ↔ ∃ i, (s.calls i).reserving = true
  alone : ∀ i j, (s.calls i).reserving = true → (s.calls j).reserving = true → i = j
  loaded : ∀ i record previous, s.calls i = .loaded record previous → previous = s.owner.nextToken
  stored : ∀ i record token, s.calls i = .publish record token →
    token = s.owner.nextToken ∧ 0 < token ∧ ∀ t ∈ s.issued, t < token
  below : s.owner.nextToken ≤ uintMax - 1
  bounded : ∀ t ∈ s.issued, 0 < t ∧ t ≤ s.owner.nextToken
  increasing : s.issued.Pairwise (· < ·)
  live : s.owner.activeToken ≠ 0 → s.owner.activeToken ≠ uintMax →
    s.owner.activeToken = s.owner.nextToken ∧ s.owner.activeToken ∈ s.issued ∧
      s.owner.activeToken ∉ s.released
  settled : ∀ t ∈ s.issued, t ∉ s.released → s.owner.activeToken = t
  once : s.released.Nodup ∧ ∀ t ∈ s.released, t ∈ s.issued
  swapping : ∀ i record, s.calls i = .swap record → record.token ≠ 0 ∧ record.token ≠ uintMax
  handed : ∀ i record, s.calls i = .done .claim record true → record.token ∈ s.issued
  apart : ∀ i j first second, s.calls i = .done .claim first true → s.calls j = .done .claim second true →
    first.token = second.token → i = j
  kept : ∀ i record, (s.calls i = .reserve record ∨ s.calls i = .load record ∨
    (∃ previous, s.calls i = .loaded record previous) ∨ s.calls i = .done .claim record false) →
    s.given i = record

theorem initial_ownerInv : OwnerInv .initial := by
  constructor <;> simp [OwnerSystem.initial, StorageOwner.initial, OwnerPoint.reserving, uintMax]

attribute [local grind] OwnerPoint.reserving
attribute [local grind =] uintMax

-- What a call has to bring along where only its own place changes.
structure Moves (s : OwnerSystem) (call : Nat) (point : OwnerPoint) (record : StorageClaim) : Prop where
  reserving : point.reserving = (s.calls call).reserving
  loaded : ∀ other previous, point = .loaded other previous → previous = s.owner.nextToken
  unwritten : ∀ other token, point ≠ .publish other token
  ungranted : ∀ other, point ≠ .done .claim other true
  swapping : ∀ other, point = .swap other → other.token ≠ 0 ∧ other.token ≠ uintMax
  kept : ∀ other, (point = .reserve other ∨ point = .load other ∨ (∃ previous, point = .loaded other previous) ∨
    point = .done .claim other false) → record = other

theorem OwnerInv.moved {s : OwnerSystem} (inv : OwnerInv s) (call : Nat) (point : OwnerPoint)
    (record : StorageClaim) (moves : Moves s call point record) :
    OwnerInv { s.at call point with given := Function.update s.given call record } := by
  obtain ⟨reserved, alone, loaded, stored, below, bounded, increasing, live, settled, once, swapping, handed,
    apart, kept⟩ := inv
  obtain ⟨same, next, unwritten, ungranted, swaps, given⟩ := moves
  dsimp only [OwnerSystem.at]
  constructor <;> simp only [Function.update_apply] <;> grind

theorem OwnerInv.stepped {s : OwnerSystem} (inv : OwnerInv s) (call : Nat) (point : OwnerPoint)
    (moves : Moves s call point (s.given call)) : OwnerInv (s.at call point) := by
  have moved := inv.moved call point (s.given call) moves
  rwa [Function.update_eq_self] at moved

theorem OwnerInv.reserves {s : OwnerSystem} (inv : OwnerInv s) (call : Nat) (record : StorageClaim)
    (point : s.calls call = .reserve record) (free : s.owner.activeToken = 0) :
    OwnerInv { s.at call (.load record) with owner := { s.owner with activeToken := uintMax } } := by
  obtain ⟨reserved, alone, loaded, stored, below, bounded, increasing, live, settled, once, swapping, handed,
    apart, kept⟩ := inv
  -- Every issued token has been released, and no other call reserves.
  dsimp only [OwnerSystem.at]
  constructor <;> simp only [Function.update_apply] <;> grind

theorem OwnerInv.gives_up {s : OwnerSystem} (inv : OwnerInv s) (call : Nat) (record : StorageClaim)
    (previous : Nat) (point : s.calls call = .loaded record previous) :
    OwnerInv { s.at call (.done .claim record false) with owner := { s.owner with activeToken := 0 } } := by
  obtain ⟨reserved, alone, loaded, stored, below, bounded, increasing, live, settled, once, swapping, handed,
    apart, kept⟩ := inv
  dsimp only [OwnerSystem.at]
  constructor <;> simp only [Function.update_apply] <;> grind

theorem OwnerInv.stores {s : OwnerSystem} (inv : OwnerInv s) (call : Nat) (record : StorageClaim)
    (previous : Nat) (point : s.calls call = .loaded record previous) (room : ¬previous ≥ uintMax - 1) :
    OwnerInv { s.at call (.publish record (previous + 1)) with
      owner := { s.owner with nextToken := previous + 1 } } := by
  obtain ⟨reserved, alone, loaded, stored, below, bounded, increasing, live, settled, once, swapping, handed,
    apart, kept⟩ := inv
  -- No other call has loaded or stored a token: it would reserve too.
  dsimp only [OwnerSystem.at]
  constructor <;> simp only [Function.update_apply] <;> grind

theorem OwnerInv.publishes {s : OwnerSystem} (inv : OwnerInv s) (call : Nat) (record : StorageClaim)
    (token : Nat) (point : s.calls call = .publish record token) :
    OwnerInv { s.at call (.done .claim { bound := true, token := token } true) with
      owner := { s.owner with activeToken := token }
      issued := s.issued ++ [token] } := by
  obtain ⟨reserved, alone, loaded, stored, below, bounded, increasing, live, settled, once, swapping, handed,
    apart, kept⟩ := inv
  dsimp only [OwnerSystem.at]
  constructor <;> simp only [Function.update_apply] <;> grind

theorem OwnerInv.releases {s : OwnerSystem} (inv : OwnerInv s) (call : Nat) (record : StorageClaim)
    (point : s.calls call = .swap record) (held : s.owner.activeToken = record.token) :
    OwnerInv { s.at call (.done .release .empty true) with
      owner := { s.owner with activeToken := 0 }
      released := s.released ++ [record.token] } := by
  obtain ⟨reserved, alone, loaded, stored, below, bounded, increasing, live, settled, once, swapping, handed,
    apart, kept⟩ := inv
  -- A token that is neither 0 nor the reserved value is the live one.
  dsimp only [OwnerSystem.at]
  constructor <;> simp only [Function.update_apply] <;> grind

theorem atomicStep_inv (call : Nat) (s : OwnerSystem) (inv : OwnerInv s) : OwnerInv (atomicStep call s) := by
  unfold atomicStep
  cases point : s.calls call with
  | idle | done => exact inv
  | reserve record =>
    have given := inv.kept call record (.inl point)
    dsimp only
    split
    next free => exact inv.reserves call record point free
    next busy => exact inv.stepped call _ (by constructor <;> simp [point, OwnerPoint.reserving, given])
  | load record =>
    have given := inv.kept call record (.inr (.inl point))
    exact inv.stepped call _ (by constructor <;> simp [point, OwnerPoint.reserving, given])
  | loaded record previous =>
    dsimp only
    split
    next spent => exact inv.gives_up call record previous point
    next room => exact inv.stores call record previous point room
  | publish record token => exact inv.publishes call record token point
  | swap record =>
    dsimp only
    split
    next held => exact inv.releases call record point held
    next other => exact inv.stepped call _ (by constructor <;> simp [point, OwnerPoint.reserving])

theorem claimStart_moves (s : OwnerSystem) (call : Nat) (record : StorageClaim) (idle : s.calls call = .idle) :
    Moves s call (claimStart record) record := by
  unfold claimStart
  split <;> constructor <;> simp [idle, OwnerPoint.reserving]

theorem releaseStart_moves (s : OwnerSystem) (call : Nat) (record : StorageClaim) (idle : s.calls call = .idle) :
    Moves s call (releaseStart record) record := by
  unfold releaseStart
  split
  · constructor <;> simp [idle, OwnerPoint.reserving]
  next checked =>
    simp only [Bool.or_eq_true, Bool.not_eq_true', beq_iff_eq, not_or] at checked
    constructor <;> simp [idle, OwnerPoint.reserving, checked]

theorem ownerStep_inv (label : OwnerLabel) (s : OwnerSystem) (inv : OwnerInv s) : OwnerInv (ownerStep label s) := by
  cases label with
  | step call => exact atomicStep_inv call s inv
  | claim call record =>
    dsimp only [ownerStep]
    split
    next idle => exact inv.moved call _ record (claimStart_moves s call record idle)
    next => exact inv
  | release call record =>
    dsimp only [ownerStep]
    split
    next idle => exact inv.moved call _ record (releaseStart_moves s call record idle)
    next => exact inv

theorem owner_inv (labels : List OwnerLabel) : OwnerInv (run ownerStep labels .initial) :=
  run_invariant ownerStep_inv labels .initial initial_ownerInv

theorem release_live (call : Nat) (s : OwnerSystem) (inv : OwnerInv s) (record after : StorageClaim)
    (before : s.calls call = .swap record)
    (succeeded : (atomicStep call s).calls call = .done .release after true) :
    s.owner.activeToken = record.token ∧ record.token ∈ s.issued ∧ record.token ∉ s.released ∧
      (atomicStep call s).owner.activeToken = 0 := by
  obtain ⟨nonzero, plain⟩ := inv.swapping call record before
  unfold atomicStep at succeeded ⊢
  simp only [before, OwnerSystem.at] at succeeded ⊢
  split at succeeded
  next held =>
    obtain ⟨-, issued, fresh⟩ := inv.live (held ▸ nonzero) (held ▸ plain)
    rw [if_pos held]
    exact ⟨held, held ▸ issued, held ▸ fresh, rfl⟩
  next => simp at succeeded

theorem release_stale (call : Nat) (s : OwnerSystem) (inv : OwnerInv s) (record : StorageClaim)
    (before : s.calls call = .swap record) (stale : record.token ∈ s.released) :
    atomicStep call s = s.at call (.done .release record false) := by
  obtain ⟨nonzero, plain⟩ := inv.swapping call record before
  have other : ¬s.owner.activeToken = record.token := by
    intro held
    exact (inv.live (held ▸ nonzero) (held ▸ plain)).2.2 (held ▸ stale)
  simp only [atomicStep, before, if_neg other]

def OwnerLabel.call : OwnerLabel → Nat
  | .claim call _ | .release call _ | .step call => call

theorem atomicStep_other (call other : Nat) (s : OwnerSystem) (differ : other ≠ call) :
    (atomicStep call s).calls other = s.calls other := by
  unfold atomicStep
  cases s.calls call with
  | idle | done => rfl
  | load | publish => simp [OwnerSystem.at, differ]
  | reserve | loaded | swap =>
    dsimp only [OwnerSystem.at]
    split <;> simp [differ]

theorem ownerStep_other (label : OwnerLabel) (call : Nat) (s : OwnerSystem) (differ : call ≠ label.call) :
    (ownerStep label s).calls call = s.calls call := by
  cases label with
  | step started => exact atomicStep_other started call s differ
  | claim started | release started =>
    dsimp only [ownerStep, OwnerSystem.at]
    split
    · exact Function.update_of_ne differ _ _
    · rfl

-- A call that has written the next token, and so succeeds.
def OwnerPoint.writing : OwnerPoint → Bool
  | .publish _ _ | .done .claim _ true => true
  | _ => false

theorem nextToken_written (call : Nat) (s : OwnerSystem)
    (written : (atomicStep call s).owner.nextToken ≠ s.owner.nextToken) :
    ((atomicStep call s).calls call).writing = true := by
  unfold atomicStep at written ⊢
  cases point : s.calls call with
  | loaded record previous =>
    simp only [point, OwnerSystem.at] at written ⊢
    split at written
    · exact absurd rfl written
    next room =>
      rw [if_neg room]
      simp [OwnerPoint.writing]
  | idle | done => exact absurd (by rw [point]) written
  | load | publish => exact absurd (by simp only [point, OwnerSystem.at]) written
  | reserve | swap =>
    simp only [point, OwnerSystem.at] at written
    split at written <;> exact absurd rfl written

theorem writing_kept (label : OwnerLabel) (call : Nat) (s : OwnerSystem)
    (writing : (s.calls call).writing = true) : ((ownerStep label s).calls call).writing = true := by
  by_cases differ : call = label.call
  · subst differ
    cases point : s.calls label.call with
    | publish record token =>
      cases label with
      | step started =>
        have here : s.calls started = .publish record token := point
        simp [ownerStep, atomicStep, here, OwnerSystem.at, OwnerLabel.call, OwnerPoint.writing]
      | claim started other | release started other =>
        have here : s.calls started = .publish record token := point
        simp [ownerStep, here, OwnerLabel.call, OwnerPoint.writing]
    | done kind record result =>
      rw [point] at writing
      cases label with
      | step started =>
        have here : s.calls started = .done kind record result := point
        simpa [ownerStep, atomicStep, here, OwnerLabel.call] using writing
      | claim started other | release started other =>
        have here : s.calls started = .done kind record result := point
        simpa [ownerStep, here, OwnerLabel.call] using writing
    | idle | reserve | load | loaded | swap =>
      rw [point] at writing
      cases writing
  · rw [ownerStep_other label call s differ]
    exact writing

theorem failed_claim_unwritten (earlier later : List OwnerLabel) (s : OwnerSystem) (call : Nat)
    (record : StorageClaim)
    (failed : (run ownerStep (earlier ++ .step call :: later) s).calls call = .done .claim record false) :
    (run ownerStep (earlier ++ [.step call]) s).owner.nextToken = (run ownerStep earlier s).owner.nextToken := by
  by_contra written
  rw [run_concat] at written
  have writing := nextToken_written call (run ownerStep earlier s) written
  have lasting := run_invariant (fun label s kept => writing_kept label call s kept) later
    (ownerStep (.step call) (run ownerStep earlier s)) writing
  rw [run_append, run_cons] at failed
  rw [failed] at lasting
  cases lasting

-- Once the last token is back nothing else can be issued.
structure Exhausted (issued : List Nat) (granted : Nat → StorageClaim → Prop) (s : OwnerSystem) : Prop where
  spent : s.owner.nextToken = uintMax - 1
  active : s.owner.activeToken = 0 ∨ s.owner.activeToken = uintMax
  quiet : ∀ i record token, s.calls i ≠ .publish record token
  issued : s.issued = issued
  granted : ∀ i record, s.calls i = .done .claim record true → granted i record

theorem exhausted_start (s : OwnerSystem) (inv : OwnerInv s) (last : uintMax - 1 ∈ s.released) :
    Exhausted s.issued (fun i record => s.calls i = .done .claim record true) s := by
  have issued := inv.once.2 _ last
  have spent : s.owner.nextToken = uintMax - 1 := Nat.le_antisymm inv.below (inv.bounded _ issued).2
  refine ⟨spent, ?_, fun i record token publishing => ?_, rfl, fun i record held => held⟩
  · by_contra neither
    rw [not_or] at neither
    obtain ⟨same, -, fresh⟩ := inv.live neither.1 neither.2
    rw [same, spent] at fresh
    exact fresh last
  · obtain ⟨same, -, above⟩ := inv.stored i record token publishing
    have := above _ issued
    omega

theorem exhausted_kept (issued : List Nat) (granted : Nat → StorageClaim → Prop) (label : OwnerLabel)
    (s : OwnerSystem) (inv : OwnerInv s) (exhausted : Exhausted issued granted s) :
    Exhausted issued granted (ownerStep label s) := by
  obtain ⟨spent, active, quiet, same, held⟩ := exhausted
  have loaded := inv.loaded
  cases label with
  | claim call record | release call record =>
    dsimp only [ownerStep, OwnerSystem.at, claimStart, releaseStart]
    split
    next => constructor <;> simp only [Function.update_apply] <;> grind
    next => exact ⟨spent, active, quiet, same, held⟩
  | step call =>
    dsimp only [ownerStep]
    unfold atomicStep
    cases point : s.calls call with
    | idle | done => exact ⟨spent, active, quiet, same, held⟩
    | reserve | loaded | swap =>
      dsimp only [OwnerSystem.at]
      split <;> constructor <;> simp only [Function.update_apply] <;> grind
    | load =>
      dsimp only [OwnerSystem.at]
      constructor <;> simp only [Function.update_apply] <;> grind
    | publish record token => exact absurd point (quiet call record token)

theorem exhausted_run (earlier later : List OwnerLabel)
    (last : uintMax - 1 ∈ (run ownerStep earlier .initial).released) :
    let before := run ownerStep earlier .initial
    let after := run ownerStep later before
    after.issued = before.issued ∧
      (∀ i record, after.calls i = .done .claim record true → before.calls i = .done .claim record true) ∧
      ((∀ i, (after.calls i).reserving = false) → after.owner.activeToken = 0) := by
  intro before after
  have inv := owner_inv earlier
  have kept : OwnerInv after ∧
      Exhausted before.issued (fun i record => before.calls i = .done .claim record true) after :=
    @run_invariant _ _ ownerStep
      (fun s => OwnerInv s ∧
        Exhausted before.issued (fun i record => before.calls i = .done .claim record true) s)
      (fun label s held => ⟨ownerStep_inv label s held.1, exhausted_kept _ _ label s held.1 held.2⟩)
      later before ⟨inv, exhausted_start before inv last⟩
  obtain ⟨afterInv, exhausted⟩ := kept
  refine ⟨exhausted.issued, exhausted.granted, fun quiet => ?_⟩
  rcases exhausted.active with free | reserved
  · exact free
  · obtain ⟨i, reserving⟩ := afterInv.reserved.mp reserved
    rw [quiet i] at reserving
    cases reserving

/-- What any interleaving of claims and releases keeps to. -/
theorem owner_exclusion (labels : List OwnerLabel) :
    let s := run ownerStep labels .initial
    (∀ token ∈ s.issued, token ∉ s.released → s.owner.activeToken = token) ∧
    (s.issued.Pairwise (· < ·) ∧ (∀ token ∈ s.issued, token ≠ 0 ∧ token ≠ uintMax) ∧
      (∀ call record, s.calls call = .done .claim record true → record.token ∈ s.issued) ∧
      ∀ call other first second, s.calls call = .done .claim first true →
        s.calls other = .done .claim second true → first.token = second.token → call = other) ∧
    (∀ call record after, s.calls call = .swap record →
      (atomicStep call s).calls call = .done .release after true →
      s.owner.activeToken = record.token ∧ record.token ∈ s.issued ∧ record.token ∉ s.released) ∧
    (∀ call record, s.calls call = .swap record → record.token ∈ s.released →
      atomicStep call s = s.at call (.done .release record false)) ∧
    (∀ call record, s.calls call = .done .claim record false →
      s.given call = record ∧
      (∀ earlier later, labels = earlier ++ .step call :: later →
        (run ownerStep (earlier ++ [.step call]) .initial).owner.nextToken =
          (run ownerStep earlier .initial).owner.nextToken) ∧
      (s.owner.activeToken = uintMax → ∃ other, other ≠ call ∧ (s.calls other).reserving = true)) ∧
    (∀ later, uintMax - 1 ∈ s.released →
      let after := run ownerStep later s
      after.issued = s.issued ∧
        (∀ call record, after.calls call = .done .claim record true → s.calls call = .done .claim record true) ∧
        ((∀ call, (after.calls call).reserving = false) → after.owner.activeToken = 0)) := by
  intro s
  have inv : OwnerInv s := owner_inv labels
  refine ⟨inv.settled, ⟨inv.increasing, fun token member => ?_, inv.handed, inv.apart⟩, ?_, ?_, ?_, ?_⟩
  · obtain ⟨nonzero, small⟩ := inv.bounded token member
    have below := inv.below
    unfold uintMax at below ⊢
    omega
  · intro call record after before succeeded
    obtain ⟨held, issued, fresh, -⟩ := release_live call s inv record after before succeeded
    exact ⟨held, issued, fresh⟩
  · exact fun call record before stale => release_stale call s inv record before stale
  · intro call record failed
    refine ⟨inv.kept call record (.inr (.inr (.inr failed))), ?_, fun reserved => ?_⟩
    · rintro earlier later rfl
      exact failed_claim_unwritten earlier later .initial call record failed
    · obtain ⟨other, reserving⟩ := inv.reserved.mp reserved
      refine ⟨other, ?_, reserving⟩
      rintro rfl
      rw [failed] at reserving
      cases reserving
  · exact fun later last => exhausted_run labels later last

def firstClaim : StorageClaim := { bound := true, token := 1 }

-- The first claim is released, the second is handed out, and the record of the first comes again.
def claimedTwice : List OwnerLabel :=
  [.claim 0 .empty, .step 0, .step 0, .step 0, .step 0, .release 1 firstClaim, .step 1, .claim 2 .empty, .step 2,
    .step 2, .step 2, .step 2, .release 3 firstClaim]

theorem owner_exclusion_stale :
    let s := run ownerStep claimedTwice .initial
    s.owner.activeToken = 2 ∧ atomicStep 3 s = s.at 3 (.done .release firstClaim false) := by
  obtain ⟨live, -, -, stale, -⟩ := owner_exclusion claimedTwice
  exact ⟨live 2 (by decide) (by decide), stale 3 firstClaim (by decide) (by decide)⟩

end EspBase

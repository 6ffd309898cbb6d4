import EspBase.Container.Binding

set_option autoImplicit false

namespace EspBase

open Transition

inductive OperationPlace where
  | idle
  | observe
  | operate (first : FirmwareSet) (mapped : EcontainerFirmwareSet)
  | observeAgain (first : FirmwareSet) (answered : SlotsResult)
  | release (result : SlotsResult)
  | ended (result : SlotsResult)
deriving DecidableEq

structure Operation where
  place : OperationPlace
  claim : StorageClaim
deriving DecidableEq

def Operation.initial : Operation := { place := .idle, claim := .empty }

structure OperationAnswers where
  observed : FirmwareResult × FirmwareSet
  answered : SlotsResult

def operationPhase (a : OperationAnswers) (owner : StorageOwner) (o : Operation) : StorageOwner × Operation :=
  match o.place with
  | .idle =>
    let claimed := storageClaim owner o.claim
    if !claimed.1 then (claimed.2.1, { place := .ended .busy, claim := claimed.2.2 })
    else (claimed.2.1, { place := .observe, claim := claimed.2.2 })
  | .observe =>
    match if a.observed.1 = .ok then mapFirmwareSet a.observed.2 else none with
    | none => (owner, { o with place := .release .uncertain })
    | some mapped => (owner, { o with place := .operate a.observed.2 mapped })
  | .operate first _ => (owner, { o with place := .observeAgain first a.answered })
  | .observeAgain first answered =>
    let result := if a.observed.1 ≠ .ok ∨ first ≠ a.observed.2 then .uncertain else answered
    (owner, { o with place := if result == .uncertain then .ended result else .release result })
  | .release result =>
    let released := storageRelease owner o.claim
    (released.2.1,
      { place := .ended (if released.1 then result else .uncertain), claim := released.2.2 })
  | .ended _ => (owner, o)

def operated (a : BindingAnswers) (answer : EcontainerFirmwareSet → SlotsResult) (owner : StorageOwner)
    (o : Operation) : StorageOwner × SlotsResult :=
  match o.place with
  | .operate _ mapped => ((run ownerCall a.calls { owner := owner, records := a.records }).owner, answer mapped)
  | _ => (owner, .uncertain)

def undisturbed (a : BindingAnswers) (answer : EcontainerFirmwareSet → SlotsResult) (owner : StorageOwner) :
    StorageOwner × Operation :=
  let quiet : OperationAnswers := { observed := a.first, answered := .uncertain }
  let claimed := operationPhase quiet owner .initial
  let observed := operationPhase quiet claimed.1 claimed.2
  let used := operated a answer observed.1 observed.2
  let answered := operationPhase { observed := a.second, answered := used.2 } used.1 observed.2
  let again := operationPhase { observed := a.second, answered := used.2 } answered.1 answered.2
  operationPhase quiet again.1 again.2

variable {Context : Type}

theorem operationPhase_ended (a : OperationAnswers) (owner : StorageOwner) (result : SlotsResult)
    (claim : StorageClaim) :
    operationPhase a owner { place := .ended result, claim } = (owner, { place := .ended result, claim }) := rfl

theorem undisturbed_binding (a : BindingAnswers) (owner : StorageOwner)
    (operation : EcontainerFirmwareSet → Context → SlotsResult × Context) (context : Context) :
    (undisturbed a (fun mapped => (operation mapped context).1) owner).1 =
        (containerWithFirmwareSet a owner operation context).owner ∧
      (undisturbed a (fun mapped => (operation mapped context).1) owner).2.place =
        .ended (containerWithFirmwareSet a owner operation context).result := by
  unfold undisturbed containerWithFirmwareSet
  cases got : (storageClaim owner .empty).1 with
  | false => simp [operationPhase, Operation.initial, operated, got]
  | true =>
    cases found : (if a.first.1 = .ok then mapFirmwareSet a.first.2 else none) with
    | none => simp [operationPhase, Operation.initial, operated, got, found, finishBinding]
    | some mapped =>
      simp only [operationPhase, Operation.initial, operated, got, found, finishBinding, Bool.not_true,
        Bool.false_eq_true, if_false, Bool.true_and]
      generalize (if a.second.1 ≠ .ok ∨ a.first.2 ≠ a.second.2 then SlotsResult.uncertain
        else (operation mapped context).1) = result
      cases uncertain : result == .uncertain with
      | true => simp
      | false => simp

end EspBase

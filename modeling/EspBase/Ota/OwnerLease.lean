import EspBase.Ota.StorageOwner
import Mathlib.Logic.Function.Basic

set_option autoImplicit false

/-!
# One owner between several parties

Every party has one claim record, which it alone passes to the owner.
-/

namespace EspBase

inductive OwnerMove (owner : StorageOwner) (claim : StorageClaim) : StorageOwner → StorageClaim → Prop where
  | same : OwnerMove owner claim owner claim
  | takes (after : StorageOwner) (taken : StorageClaim) (free : owner.activeToken = 0)
      (held : after.HeldBy taken) : OwnerMove owner claim after taken
  | gives (held : owner.HeldBy claim) : OwnerMove owner claim { owner with activeToken := 0 } .empty

theorem storageClaim_move (owner : StorageOwner) (claim : StorageClaim) :
    OwnerMove owner claim (storageClaim owner claim).2.1 (storageClaim owner claim).2.2 := by
  rcases storageClaim_cases owner claim with same | ⟨-, free, held, -⟩
  · rw [same]
    exact .same
  · exact .takes _ _ free held

theorem storageRelease_move (owner : StorageOwner) (claim : StorageClaim) :
    OwnerMove owner claim (storageRelease owner claim).2.1 (storageRelease owner claim).2.2 := by
  rcases storageRelease_cases owner claim with ⟨held, released⟩ | ⟨-, same⟩
  · rw [released]
    exact .gives held
  · rw [same]
    exact .same

theorem empty_unheld (owner : StorageOwner) : ¬owner.HeldBy .empty := fun held => held.issued rfl

theorem HeldBy.busy {owner : StorageOwner} {claim : StorageClaim} (held : owner.HeldBy claim) :
    owner.activeToken ≠ 0 := held.active ▸ held.issued

theorem HeldBy.nonempty {owner : StorageOwner} {claim : StorageClaim} (held : owner.HeldBy claim) :
    claim ≠ .empty := by
  intro empty
  rw [empty] at held
  exact empty_unheld owner held

theorem OwnerMove.busy {owner after : StorageOwner} {taken : StorageClaim}
    (move : OwnerMove owner .empty after taken) (busy : owner.activeToken ≠ 0) :
    after = owner ∧ taken = .empty := by
  cases move with
  | same => exact ⟨rfl, rfl⟩
  | takes _ _ free => exact absurd free busy
  | gives held => exact absurd held (empty_unheld owner)

variable {Party : Type}

/-- A free owner leaves every claim empty; otherwise one party holds it, and the others hold nothing. -/
structure Leased (owner : StorageOwner) (claims : Party → StorageClaim) : Prop where
  free : owner.activeToken = 0 → ∀ p, claims p = .empty
  held : owner.activeToken ≠ 0 → ∃ p, owner.HeldBy (claims p) ∧ ∀ q, q ≠ p → claims q = .empty

variable {owner : StorageOwner} {claims : Party → StorageClaim}

theorem Leased.holder (leased : Leased owner claims) (p : Party) (claimed : claims p ≠ .empty) :
    owner.HeldBy (claims p) ∧ ∀ q, q ≠ p → claims q = .empty := by
  have busy : owner.activeToken ≠ 0 := fun free => claimed (leased.free free p)
  obtain ⟨holder, held, others⟩ := leased.held busy
  by_cases same : p = holder
  · rw [same]
    exact ⟨held, others⟩
  · exact absurd (others p same) claimed

theorem Leased.alone (leased : Leased owner claims) (p q : Party) (first : owner.HeldBy (claims p))
    (second : owner.HeldBy (claims q)) : p = q := by
  by_contra differ
  have empty := (leased.holder q (HeldBy.nonempty second)).2 p differ
  exact HeldBy.nonempty first empty

theorem Leased.barred (leased : Leased owner claims) (p q : Party) (differ : q ≠ p)
    (held : owner.HeldBy (claims p)) (after : StorageOwner) (claim : StorageClaim)
    (move : OwnerMove owner (claims q) after claim) : after = owner ∧ claim = claims q := by
  have empty := (leased.holder p (HeldBy.nonempty held)).2 q differ
  rw [empty] at move ⊢
  exact move.busy (HeldBy.busy held)

variable [DecidableEq Party]

theorem Leased.moved (leased : Leased owner claims) (p : Party) (after : StorageOwner)
    (claim : StorageClaim) (move : OwnerMove owner (claims p) after claim) :
    Leased after (Function.update claims p claim) := by
  cases move with
  | same =>
    rw [Function.update_eq_self]
    exact leased
  | takes _ _ free held =>
    constructor
    case free => exact fun idle => absurd idle (HeldBy.busy held)
    case held =>
      intro _
      refine ⟨p, by simpa using held, fun q differ => ?_⟩
      rw [Function.update_of_ne differ]
      exact leased.free free q
  | gives held =>
    have others := (leased.holder p (HeldBy.nonempty held)).2
    constructor
    case free =>
      intro _ q
      by_cases same : q = p
      · rw [same, Function.update_self]
      · rw [Function.update_of_ne same]
        exact others q same
    case held => exact fun busy => absurd rfl busy

end EspBase

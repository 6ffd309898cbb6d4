import EspBase.Platform

set_option autoImplicit false

/-!
# The storage owner and its claims

One owner covers the app slots, otadata and the product packages; a claim is a
token that the owner has issued.
-/

namespace EspBase

def uintMax : Nat := 0xffffffff

structure StorageOwner where
  nextToken : Nat
  activeToken : Nat
deriving DecidableEq

def StorageOwner.initial : StorageOwner := { nextToken := 0, activeToken := 0 }

structure StorageClaim where
  bound : Bool
  token : Nat
deriving DecidableEq

def StorageClaim.empty : StorageClaim := { bound := false, token := 0 }

def storageClaim (owner : StorageOwner) (claim : StorageClaim) :
    Bool × StorageOwner × StorageClaim :=
  if claim.bound || claim.token != 0 then (false, owner, claim)
  else if owner.activeToken ≠ 0 then (false, owner, claim)
  else if owner.nextToken ≥ uintMax - 1 then (false, { owner with activeToken := 0 }, claim)
  else
    let token := owner.nextToken + 1
    (true, { nextToken := token, activeToken := token }, { bound := true, token := token })

def storageRelease (owner : StorageOwner) (claim : StorageClaim) :
    Bool × StorageOwner × StorageClaim :=
  if !claim.bound || claim.token == 0 || claim.token == uintMax then (false, owner, claim)
  else if owner.activeToken ≠ claim.token then (false, owner, claim)
  else (true, { owner with activeToken := 0 }, .empty)

structure StorageOwner.HeldBy (owner : StorageOwner) (claim : StorageClaim) : Prop where
  bound : claim.bound
  issued : claim.token ≠ 0
  published : claim.token ≠ uintMax
  active : owner.activeToken = claim.token

theorem storageClaim_cases (owner : StorageOwner) (claim : StorageClaim) :
    storageClaim owner claim = (false, owner, claim) ∨
      ((storageClaim owner claim).1 = true ∧ owner.activeToken = 0 ∧
        (storageClaim owner claim).2.1.HeldBy (storageClaim owner claim).2.2 ∧
        (storageClaim owner claim).2.2.token = owner.nextToken + 1) := by
  unfold storageClaim
  split
  · exact .inl rfl
  split
  · exact .inl rfl
  next free =>
    have free : owner.activeToken = 0 := not_not.mp free
    split
    · left
      rw [← free]
    next room =>
      have small : owner.nextToken + 1 ≠ uintMax := by omega
      exact .inr ⟨rfl, free, ⟨rfl, by simp, small, rfl⟩, rfl⟩

theorem storageRelease_held (owner : StorageOwner) (claim : StorageClaim)
    (held : owner.HeldBy claim) :
    storageRelease owner claim = (true, { owner with activeToken := 0 }, .empty) := by
  simp [storageRelease, held.bound, held.issued, held.published, held.active]

theorem storageRelease_cases (owner : StorageOwner) (claim : StorageClaim) :
    (owner.HeldBy claim ∧
        storageRelease owner claim = (true, { owner with activeToken := 0 }, .empty)) ∨
      (¬owner.HeldBy claim ∧ storageRelease owner claim = (false, owner, claim)) := by
  by_cases held : owner.HeldBy claim
  · exact .inl ⟨held, storageRelease_held owner claim held⟩
  · refine .inr ⟨held, ?_⟩
    unfold storageRelease
    split
    · rfl
    next fields =>
      split
      · rfl
      next same =>
        simp only [Bool.or_eq_true, Bool.not_eq_true', beq_iff_eq, not_or, Bool.not_eq_false] at fields
        exact absurd ⟨fields.1.1, fields.1.2, fields.2, not_not.mp same⟩ held

end EspBase

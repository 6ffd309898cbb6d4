import EspBase.Platform

set_option autoImplicit false

namespace EspBase

def requestSlots : Nat := 32
def requestWindowMs : Nat := 30000

structure Request where
  requestId : CString
  deviceId : CString
  bootId : CString
  expiresAtMs : Nat
  fingerprint : Digest
deriving DecidableEq

-- The used part of the request table; `count` is its length.
structure Guard where
  requests : List Request
  bounded : requests.length ≤ requestSlots
deriving DecidableEq

def Guard.empty : Guard := { requests := [], bounded := by decide }

inductive Admission where
  | accept
  | replay
  | badIdentity
  | wrongDevice
  | wrongBoot
  | expired
  | badWindow
  | requestConflict
  | queueFull
deriving DecidableEq, Repr

def isUuid (value : CString) : Bool :=
  (List.range 36).all (uuidByte value) && value.at 36 == 0 && value.at 14 == 0x34 &&
    uuidVariant (value.at 19)

def previousRequest (requestId : CString) : Nat → List Request → Option (Nat × Request)
  | _, [] => none
  | slot, previous :: rest =>
    if previous.requestId = requestId then some (slot, previous)
    else previousRequest requestId (slot + 1) rest

def ebaseAdmit (g : Guard) (r : Request) (device boot : CString) (now : Nat) : Admission × Nat × Guard :=
  if !isUuid r.requestId || !isUuid r.deviceId || !isUuid r.bootId then (.badIdentity, 0, g)
  else if device ≠ r.deviceId then (.wrongDevice, 0, g)
  else if boot ≠ r.bootId then (.wrongBoot, 0, g)
  else
    match previousRequest r.requestId 0 g.requests with
    | some (slot, previous) =>
      if previous.expiresAtMs ≠ r.expiresAtMs ∨ previous.fingerprint ≠ r.fingerprint then
        (.requestConflict, 0, g)
      else (.replay, slot, g)
    | none =>
      if r.expiresAtMs ≤ now then (.expired, 0, g)
      else if r.expiresAtMs - now > requestWindowMs then (.badWindow, 0, g)
      else if room : g.requests.length < requestSlots then
        (.accept, g.requests.length,
          { requests := g.requests ++ [r], bounded := by rw [List.length_append]; exact room })
      else (.queueFull, 0, g)

theorem previousRequest_some (requestId : CString) (offset slot : Nat) (requests : List Request)
    (previous : Request) (found : previousRequest requestId offset requests = some (slot, previous)) :
    offset ≤ slot ∧ requests[slot - offset]? = some previous ∧ previous.requestId = requestId := by
  induction requests generalizing offset with
  | nil => cases found
  | cons head rest ih =>
    unfold previousRequest at found
    split at found
    next same =>
      cases found
      simp [same]
    next other =>
      obtain ⟨after, held, same⟩ := ih (offset + 1) found
      refine ⟨by omega, ?_, same⟩
      rw [show slot - offset = slot - (offset + 1) + 1 by omega, List.getElem?_cons_succ]
      exact held

theorem previousRequest_none (requestId : CString) (offset : Nat) (requests : List Request) :
    previousRequest requestId offset requests = none ↔
      ∀ previous ∈ requests, previous.requestId ≠ requestId := by
  induction requests generalizing offset with
  | nil => simp [previousRequest]
  | cons head rest ih =>
    by_cases same : head.requestId = requestId
    · simp [previousRequest, same]
    · simp [previousRequest, same, ih]

theorem previousRequest_here (requests : List Request) (slot : Nat) (held : Request)
    (distinct : (requests.map Request.requestId).Nodup) (here : requests[slot]? = some held)
    (offset : Nat) :
    previousRequest held.requestId offset requests = some (offset + slot, held) := by
  induction requests generalizing slot offset with
  | nil => simp at here
  | cons head rest ih =>
    rw [List.map_cons, List.nodup_cons] at distinct
    cases slot with
    | zero =>
      obtain rfl : head = held := by simpa using here
      simp [previousRequest]
    | succ slot =>
      rw [List.getElem?_cons_succ] at here
      have member : held.requestId ∈ rest.map Request.requestId :=
        List.mem_map_of_mem (List.mem_of_getElem? here)
      have other : head.requestId ≠ held.requestId := fun same => distinct.1 (same ▸ member)
      simp only [previousRequest, other, if_false]
      rw [ih slot distinct.2 here]
      congr 2
      omega

theorem ebaseAdmit_cases (g : Guard) (r : Request) (device boot : CString) (now : Nat) :
    ((ebaseAdmit g r device boot now).1 ≠ .accept ∧ (ebaseAdmit g r device boot now).2.2 = g) ∨
      ((ebaseAdmit g r device boot now).1 = .accept ∧
        (ebaseAdmit g r device boot now).2.1 = g.requests.length ∧
        (ebaseAdmit g r device boot now).2.2.requests = g.requests ++ [r] ∧
        (r.deviceId = device ∧ r.bootId = boot ∧ isUuid r.requestId ∧ isUuid device ∧ isUuid boot) ∧
        ∀ previous ∈ g.requests, previous.requestId ≠ r.requestId) := by
  unfold ebaseAdmit
  split
  · exact .inl ⟨by simp, rfl⟩
  next uuids =>
  split
  · exact .inl ⟨by simp, rfl⟩
  next device_same =>
    split
    · exact .inl ⟨by simp, rfl⟩
    next boot_same =>
      split
      next slot previous found =>
        split
        · exact .inl ⟨by simp, rfl⟩
        · exact .inl ⟨by simp, rfl⟩
      next unseen =>
        split
        · exact .inl ⟨by simp, rfl⟩
        split
        · exact .inl ⟨by simp, rfl⟩
        split
        · obtain rfl := not_not.mp device_same
          obtain rfl := not_not.mp boot_same
          simp only [Bool.or_eq_true, Bool.not_eq_true', not_or, Bool.not_eq_false] at uuids
          exact .inr ⟨rfl, rfl, rfl, ⟨rfl, rfl, uuids.1.1, uuids.1.2, uuids.2⟩,
            (previousRequest_none _ _ _).mp unseen⟩
        · exact .inl ⟨by simp, rfl⟩

theorem ebaseAdmit_replay (g : Guard) (r : Request) (device boot : CString) (now : Nat)
    (replayed : (ebaseAdmit g r device boot now).1 = .replay) :
    ∃ held, g.requests[(ebaseAdmit g r device boot now).2.1]? = some held ∧
      held.requestId = r.requestId ∧ held.expiresAtMs = r.expiresAtMs ∧
      held.fingerprint = r.fingerprint := by
  revert replayed
  unfold ebaseAdmit
  split
  · simp
  split
  · simp
  split
  · simp
  split
  next slot previous found =>
    split
    · simp
    next same =>
      intro _
      obtain ⟨-, here, id⟩ := previousRequest_some _ _ _ _ _ found
      simp only [not_or, not_not] at same
      exact ⟨previous, here, id, same.1, same.2⟩
  next =>
    split_ifs <;> simp

-- A repeat of an admitted request that is addressed here is a replay at any time.
theorem ebaseAdmit_repeat (g : Guard) (held r : Request) (slot : Nat) (device boot : CString) (now : Nat)
    (distinct : (g.requests.map Request.requestId).Nodup) (here : g.requests[slot]? = some held)
    (id : r.requestId = held.requestId) (deadline : r.expiresAtMs = held.expiresAtMs)
    (fingerprint : r.fingerprint = held.fingerprint) (device_same : r.deviceId = device)
    (boot_same : r.bootId = boot) (request_uuid : isUuid r.requestId) (device_uuid : isUuid device)
    (boot_uuid : isUuid boot) : ebaseAdmit g r device boot now = (.replay, slot, g) := by
  have found := previousRequest_here g.requests slot held distinct here 0
  rw [Nat.zero_add, ← id] at found
  simp [ebaseAdmit, request_uuid, device_uuid, boot_uuid, device_same, boot_same, found, deadline,
    fingerprint]

end EspBase

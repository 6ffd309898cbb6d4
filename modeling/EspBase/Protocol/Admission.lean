import EspBase.Protocol.Guard
import EspBase.Shared.Run

set_option autoImplicit false

/-!
# The law of the admission table

A call carries 64-bit times; a run is any sequence of calls on an empty table.
-/

namespace EspBase

open Transition

structure AdmitCall where
  requestId : CString
  deviceId : CString
  bootId : CString
  expiresAtMs : UInt64
  fingerprint : Digest
  now : UInt64

def AdmitCall.request (c : AdmitCall) : Request :=
  { requestId := c.requestId
    deviceId := c.deviceId
    bootId := c.bootId
    expiresAtMs := c.expiresAtMs.toNat
    fingerprint := c.fingerprint }

/-- `ebase_admit` on machine words: the deadline is subtracted from only after the ordering check. -/
def admitCall (device boot : CString) (c : AdmitCall) (g : Guard) : Admission × Nat × Guard :=
  if !isUuid c.requestId || !isUuid c.deviceId || !isUuid c.bootId then (.badIdentity, 0, g)
  else if device ≠ c.deviceId then (.wrongDevice, 0, g)
  else if boot ≠ c.bootId then (.wrongBoot, 0, g)
  else
    match previousRequest c.requestId 0 g.requests with
    | some (slot, previous) =>
      if previous.expiresAtMs ≠ c.expiresAtMs.toNat ∨ previous.fingerprint ≠ c.fingerprint then
        (.requestConflict, 0, g)
      else (.replay, slot, g)
    | none =>
      if c.expiresAtMs ≤ c.now then (.expired, 0, g)
      else if c.expiresAtMs - c.now > 30000 then (.badWindow, 0, g)
      else if room : g.requests.length < requestSlots then
        (.accept, g.requests.length,
          { requests := g.requests ++ [c.request]
            bounded := by rw [List.length_append]; exact room })
      else (.queueFull, 0, g)

theorem window_exact (deadline now : UInt64) (later : now < deadline) :
    (deadline - now).toNat = deadline.toNat - now.toNat :=
  UInt64.toNat_sub_of_le _ _ (UInt64.le_of_lt later)

theorem admitCall_exact (device boot : CString) (c : AdmitCall) (g : Guard) :
    admitCall device boot c g = ebaseAdmit g c.request device boot c.now.toNat := by
  have order : c.expiresAtMs ≤ c.now ↔ c.expiresAtMs.toNat ≤ c.now.toNat := UInt64.le_iff_toNat_le
  simp only [admitCall, ebaseAdmit, AdmitCall.request, order]
  by_cases early : c.expiresAtMs.toNat ≤ c.now.toNat
  · simp only [early, if_true]
    rfl
  · have window : c.expiresAtMs - c.now > 30000 ↔
        c.expiresAtMs.toNat - c.now.toNat > requestWindowMs := by
      have exact := window_exact c.expiresAtMs c.now
        (UInt64.lt_iff_toNat_lt.mpr (Nat.not_le.mp early))
      rw [gt_iff_lt, UInt64.lt_iff_toNat_lt, exact]
      rfl
    simp only [early, if_false, window]
    rfl

def admitStep (device boot : CString) (c : AdmitCall) (g : Guard) : Guard :=
  (admitCall device boot c g).2.2

abbrev guardAfter (device boot : CString) (calls : List AdmitCall) : Guard :=
  run (admitStep device boot) calls .empty

def DistinctRequests (g : Guard) : Prop := (g.requests.map Request.requestId).Nodup

theorem admitStep_cases (device boot : CString) (c : AdmitCall) (g : Guard) :
    ((admitCall device boot c g).1 ≠ .accept ∧ admitStep device boot c g = g) ∨
      ((admitCall device boot c g).1 = .accept ∧
        (admitCall device boot c g).2.1 = g.requests.length ∧
        (admitStep device boot c g).requests = g.requests ++ [c.request] ∧
        ∀ previous ∈ g.requests, previous.requestId ≠ c.requestId) := by
  simp only [admitStep, admitCall_exact]
  rcases ebaseAdmit_cases g c.request device boot c.now.toNat with refused | ⟨taken, slot, grown, -, fresh⟩
  · exact .inl refused
  · exact .inr ⟨taken, slot, grown, fresh⟩

theorem admitStep_distinct (device boot : CString) (c : AdmitCall) (g : Guard)
    (distinct : DistinctRequests g) : DistinctRequests (admitStep device boot c g) := by
  rcases admitStep_cases device boot c g with ⟨-, same⟩ | ⟨-, -, grown, fresh⟩
  · rwa [same]
  · rw [DistinctRequests, grown, List.map_append, List.nodup_append]
    refine ⟨distinct, by simp, ?_⟩
    intro id old new member
    obtain ⟨previous, held, rfl⟩ := List.mem_map.mp old
    have here : new = c.requestId := by simpa [AdmitCall.request] using member
    rw [here]
    exact fresh previous held

theorem admitStep_grows (device boot : CString) (c : AdmitCall) (g : Guard) :
    g.requests <+: (admitStep device boot c g).requests := by
  rcases admitStep_cases device boot c g with ⟨-, same⟩ | ⟨-, -, grown, -⟩
  · simp [same]
  · rw [grown]
    exact List.prefix_append _ _

theorem guard_distinct (device boot : CString) (calls : List AdmitCall) (g : Guard)
    (distinct : DistinctRequests g) : DistinctRequests (run (admitStep device boot) calls g) :=
  run_invariant (admitStep_distinct device boot) calls g distinct

theorem guard_grows (device boot : CString) (calls : List AdmitCall) (g : Guard) :
    g.requests <+: (run (admitStep device boot) calls g).requests := by
  induction calls generalizing g with
  | nil => exact List.prefix_refl _
  | cons c rest ih => exact (admitStep_grows device boot c g).trans (ih _)

structure Admissible (device boot : CString) (c : AdmitCall) (g : Guard) : Prop where
  formed : isUuid c.requestId = true ∧ isUuid c.deviceId = true ∧ isUuid c.bootId = true
  device : c.deviceId = device
  boot : c.bootId = boot
  fresh : ∀ previous ∈ g.requests, previous.requestId ≠ c.requestId
  later : (c.now.toNat : Int) < c.expiresAtMs.toNat
  window : (c.expiresAtMs.toNat : Int) - c.now.toNat ≤ 30000
  room : g.requests.length < 32

theorem admitCall_accept (device boot : CString) (c : AdmitCall) (g : Guard) :
    (admitCall device boot c g).1 = .accept ↔ Admissible device boot c g := by
  rw [admitCall_exact]
  constructor
  · intro accepted
    revert accepted
    unfold ebaseAdmit
    split
    · simp
    next formed =>
    split
    · simp
    next device_same =>
    split
    · simp
    next boot_same =>
    split
    · split <;> simp
    next unseen =>
    split
    · simp
    next early =>
    split
    · simp
    next narrow =>
    split
    next room =>
      intro _
      simp only [Bool.or_eq_true, Bool.not_eq_true', not_or, Bool.not_eq_false] at formed
      simp only [AdmitCall.request, requestWindowMs] at early narrow
      have order : (c.now.toNat : Int) < c.expiresAtMs.toNat := by omega
      exact ⟨⟨formed.1.1, formed.1.2, formed.2⟩, (not_not.mp device_same).symm,
        (not_not.mp boot_same).symm, (previousRequest_none _ _ _).mp unseen, order, by omega, room⟩
    · simp
  · intro admissible
    have unseen := (previousRequest_none c.requestId 0 g.requests).mpr admissible.fresh
    have early : ¬c.expiresAtMs.toNat ≤ c.now.toNat := by
      have order := admissible.later
      omega
    have narrow : ¬c.expiresAtMs.toNat - c.now.toNat > requestWindowMs := by
      have window := admissible.window
      simp only [requestWindowMs]
      omega
    have room : g.requests.length < requestSlots := admissible.room
    simp [ebaseAdmit, AdmitCall.request, admissible.formed, ← admissible.device, ← admissible.boot,
      unseen, early, narrow, room]

theorem admitCall_repeat (device boot : CString) (first again : AdmitCall) (g : Guard) (slot : Nat)
    (distinct : DistinctRequests g) (held : g.requests[slot]? = some first.request)
    (formed : isUuid first.requestId = true ∧ isUuid device = true ∧ isUuid boot = true)
    (id : again.requestId = first.requestId) (device_same : again.deviceId = device)
    (boot_same : again.bootId = boot) :
    admitCall device boot again g =
      if again.expiresAtMs = first.expiresAtMs ∧ again.fingerprint = first.fingerprint then
        (.replay, slot, g)
      else (.requestConflict, 0, g) := by
  have found := previousRequest_here g.requests slot first.request distinct held 0
  have here : previousRequest again.requestId 0 g.requests = some (slot, first.request) := by
    simpa [AdmitCall.request, id] using found
  have deadline : first.expiresAtMs.toNat = again.expiresAtMs.toNat ↔
      again.expiresAtMs = first.expiresAtMs := by
    rw [UInt64.toNat_inj]
    exact eq_comm
  have print : first.fingerprint = again.fingerprint ↔ again.fingerprint = first.fingerprint := eq_comm
  by_cases same : again.expiresAtMs = first.expiresAtMs ∧ again.fingerprint = first.fingerprint
  · simp [admitCall, AdmitCall.request, id, device_same, boot_same, formed, id ▸ here, same]
  · have other : ¬again.expiresAtMs = first.expiresAtMs ∨ ¬again.fingerprint = first.fingerprint :=
      not_and_or.mp same
    simp [admitCall, AdmitCall.request, id, device_same, boot_same, formed, id ▸ here, same, other,
      deadline, print]

theorem admission_law (device boot : CString) (calls : List AdmitCall) :
    let g := guardAfter device boot calls
    g.requests.length ≤ 32 ∧ (g.requests.map Request.requestId).Nodup ∧
    (∀ later, g.requests <+: (guardAfter device boot (calls ++ later)).requests) ∧
    (∀ c, ((admitCall device boot c g).1 = .accept ↔ Admissible device boot c g) ∧
      ((admitCall device boot c g).1 ≠ .accept → (admitCall device boot c g).2.2 = g) ∧
      ((admitCall device boot c g).1 = .accept →
        (admitCall device boot c g).2.1 = g.requests.length ∧
        (admitCall device boot c g).2.2.requests = g.requests ++ [c.request] ∧
        ∀ later again, again.requestId = c.requestId → again.deviceId = device →
          again.bootId = boot →
          let after := guardAfter device boot (calls ++ c :: later)
          admitCall device boot again after =
            if again.expiresAtMs = c.expiresAtMs ∧ again.fingerprint = c.fingerprint then
              (.replay, (admitCall device boot c g).2.1, after)
            else (.requestConflict, 0, after))) := by
  have distinct : DistinctRequests (guardAfter device boot calls) :=
    guard_distinct device boot calls .empty List.nodup_nil
  refine ⟨(guardAfter device boot calls).bounded, distinct, ?_, ?_⟩
  · intro later
    rw [guardAfter, guardAfter, run_append]
    exact guard_grows device boot later _
  · intro c
    refine ⟨admitCall_accept device boot c _, ?_, ?_⟩
    · intro refused
      rcases admitStep_cases device boot c (guardAfter device boot calls) with ⟨-, same⟩ | ⟨taken, -⟩
      · exact same
      · exact absurd taken refused
    · intro accepted
      rcases admitStep_cases device boot c (guardAfter device boot calls) with
        ⟨refused, -⟩ | ⟨-, slot, grown, -⟩
      · exact absurd accepted refused
      · refine ⟨slot, grown, ?_⟩
        intro later again id device_same boot_same
        have admissible := (admitCall_accept device boot c _).mp accepted
        have next : guardAfter device boot (calls ++ c :: later) =
            run (admitStep device boot) later (admitStep device boot c (guardAfter device boot calls)) := by
          rw [guardAfter, run_append]
          rfl
        have kept := guard_grows device boot later
          (admitStep device boot c (guardAfter device boot calls))
        rw [← next, grown] at kept
        have held : (guardAfter device boot (calls ++ c :: later)).requests[
            (guardAfter device boot calls).requests.length]? = some c.request := by
          obtain ⟨rest, whole⟩ := kept
          rw [← whole]
          simp
        rw [slot]
        exact admitCall_repeat device boot c again _ _
          (guard_distinct device boot _ .empty List.nodup_nil) held
          ⟨admissible.formed.1, admissible.device ▸ admissible.formed.2.1,
            admissible.boot ▸ admissible.formed.2.2⟩ id device_same boot_same

end EspBase

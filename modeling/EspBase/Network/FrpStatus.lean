import EspBase.Protocol.Control

set_option autoImplicit false

namespace EspBase

def frpStatusReplaySlots : Nat := 8

-- An entry that was never used has expired at every time and holds no status.
structure FrpStatusSeen where
  requestId : CString
  expiresAtMs : Nat
  status : Option StatusSnapshot
deriving DecidableEq

def FrpStatusSeen.zero : FrpStatusSeen := { requestId := .empty, expiresAtMs := 0, status := none }

def frpStatusUnseen : List FrpStatusSeen := List.replicate frpStatusReplaySlots .zero

structure ParsedStatus where
  error : Option String
  request : Request
deriving DecidableEq

structure FrpStatusAnswers where
  parsed : ParsedStatus
  now : Nat
  snapshot : SnapshotAnswers
deriving DecidableEq

def seenStatus (now : Nat) (requestId : CString) :
    Nat → Option Nat → List FrpStatusSeen → Option Nat × Option FrpStatusSeen
  | _, empty, [] => (empty, none)
  | index, empty, entry :: rest =>
    if entry.expiresAtMs ≤ now then
      seenStatus now requestId (index + 1) (if empty.isNone then some index else empty) rest
    else if entry.requestId = requestId then (empty, some entry)
    else seenStatus now requestId (index + 1) empty rest

def frpStatusError (request : Request) (now : Nat) (empty : Option Nat)
    (found : Option FrpStatusSeen) (s : Control) : Option (Nat × ResultState × String) :=
  if found.any (fun entry => request.deviceId != s.deviceId || request.bootId != s.bootId ||
      request.expiresAtMs != entry.expiresAtMs) then some (409, .failed, "request_conflict")
  else if request.deviceId ≠ s.deviceId then some (409, .failed, "wrong_device")
  else if request.bootId ≠ s.bootId then some (409, .failed, "wrong_boot")
  else if request.expiresAtMs ≤ now then some (409, .expired, "expired")
  else if request.expiresAtMs - now > requestWindowMs then some (400, .failed, "invalid_deadline")
  else if found.isNone && empty.isNone then some (400, .failed, "capacity_exceeded")
  else none

structure FrpStatusReply where
  http : Nat
  response : List UInt8
  seen : List FrpStatusSeen
deriving DecidableEq

def frpStatusReply (capacity http : Nat) (requestId : Option CString) (state : ResultState)
    (error : Option String) (status : Option StatusSnapshot) (s : Control)
    (seen : List FrpStatusSeen) : FrpStatusReply :=
  match formatResultJson capacity s.deviceId s.bootId requestId (some state) error status with
  | none => { http := 500, response := [], seen := seen }
  | some response => { http := http, response := response, seen := seen }

variable (build : Build)

def handleFrpStatus (a : FrpStatusAnswers) (capacity : Nat) (s : Control)
    (seen : List FrpStatusSeen) : FrpStatusReply :=
  let request := a.parsed.request
  match a.parsed.error with
  | some error => frpStatusReply capacity 400 none .failed (some error) none s seen
  | none =>
    let (empty, found) := seenStatus a.now request.requestId 0 none seen
    match frpStatusError request a.now empty found s with
    | some (http, state, error) =>
      frpStatusReply capacity http (some request.requestId) state (some error) none s seen
    | none =>
      match found, empty with
      | some entry, _ =>
        frpStatusReply capacity 200 (some request.requestId) .succeeded none entry.status s seen
      | none, some slot =>
        let status := snapshot build a.snapshot s
        frpStatusReply capacity 200 (some request.requestId) .succeeded none (some status) s
          (seen.set slot ⟨request.requestId, request.expiresAtMs, some status⟩)
      | none, none => frpStatusReply capacity 400 (some request.requestId) .failed
          (some "capacity_exceeded") none s seen

end EspBase

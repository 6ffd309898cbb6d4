import EspBase.Protocol.Guard

set_option autoImplicit false

/-!
# Management keys and tags

HMAC-SHA-256 itself is a parameter: only whether a tag is the one of a key and a
request matters here.
-/

namespace EspBase

abbrev ManagementKey := Vector UInt8 32

def wipedKey : ManagementKey := Vector.replicate 32 0

def managementTagBytes : Nat := 32
def managementRequestBytes : Nat := 4096
def mqttFrameBytes : Nat := 4096

-- `psa_mac_verify` can also fail for want of resources.
structure PsaAnswers where
  imported : Bool := true
  verified : Bool := true
  destroyed : Bool := true
deriving DecidableEq

variable (hmacSha256 : ManagementKey → List UInt8 → Digest)

def managementAuthenticate (a : PsaAnswers) (key : ManagementKey) (tag request : List UInt8) : Bool :=
  if request.length = 0 ∨ request.length > managementRequestBytes then false
  else if !a.imported then false
  else (a.verified && (hmacSha256 key request).toList == tag) && a.destroyed

def lowerHexDigit (value : UInt8) : Option UInt8 :=
  if 0x30 ≤ value ∧ value ≤ 0x39 then some (value - 0x30)
  else if 0x61 ≤ value ∧ value ≤ 0x66 then some (value - 0x61 + 10)
  else none

def hexTag : Nat → List UInt8 → Option (List UInt8)
  | 0, _ => some []
  | count + 1, high :: low :: rest =>
    match lowerHexDigit high, lowerHexDigit low, hexTag count rest with
    | some high, some low, some tag => some (((high <<< 4) ||| low) :: tag)
    | _, _, _ => none
  | _ + 1, _ => none

inductive MqttChannel where
  | command
  | result
  | reported
  | status
deriving DecidableEq, Repr

def MqttChannel.name : MqttChannel → String
  | .command => "command"
  | .result => "result"
  | .reported => "reported"
  | .status => "status"

def mqttTopicBytes : Nat := 64

def mqttTopic (deviceId : CString) (channel : MqttChannel) : Option (List UInt8) :=
  if !isUuid deviceId then none
  else
    let topic := bytesOf "esp-base/" ++ deviceId.bytes ++ bytesOf "/" ++ bytesOf channel.name
    if topic.length < mqttTopicBytes then some topic else none

structure EmqttMessage where
  topic : CString
  qos : UInt8
  retain : Bool
  payload : List UInt8
deriving DecidableEq

def mqttFrame (deviceId : CString) (message : EmqttMessage) : Option (List UInt8 × List UInt8) :=
  if message.qos ≠ 1 ∨ message.retain ∨ message.payload.length ≤ 65 ∨
      message.payload.length > mqttFrameBytes then none
  else if mqttTopic deviceId .command ≠ some message.topic.bytes ∨
      message.payload.getD 64 0 ≠ 0x0a then none
  else (hexTag managementTagBytes message.payload).map (·, message.payload.drop 65)

def mqttVerifiedRequest (a : PsaAnswers) (key : ManagementKey) (deviceId : CString)
    (message : EmqttMessage) : Option (List UInt8) :=
  match mqttFrame deviceId message with
  | none => none
  | some (tag, request) =>
    if managementAuthenticate hmacSha256 a key tag request then some request else none

def Authentic (key : ManagementKey) (tag request : List UInt8) : Prop :=
  tag = (hmacSha256 key request).toList

theorem managementAuthenticate_authentic (a : PsaAnswers) (key : ManagementKey)
    (tag request : List UInt8) (passed : managementAuthenticate hmacSha256 a key tag request) :
    Authentic hmacSha256 key tag request := by
  unfold managementAuthenticate at passed
  split at passed
  · cases passed
  split at passed
  · cases passed
  · simp only [Bool.and_eq_true, beq_iff_eq] at passed
    exact passed.1.2.symm

theorem mqttFrame_parts (deviceId : CString) (message : EmqttMessage) (tag request : List UInt8)
    (framed : mqttFrame deviceId message = some (tag, request)) :
    hexTag managementTagBytes message.payload = some tag ∧ request = message.payload.drop 65 := by
  unfold mqttFrame at framed
  split at framed
  · cases framed
  split at framed
  · cases framed
  · obtain ⟨_, spelled, same⟩ := Option.map_eq_some_iff.mp framed
    cases same
    exact ⟨spelled, rfl⟩

theorem mqttVerifiedRequest_authentic (a : PsaAnswers) (key : ManagementKey) (deviceId : CString)
    (message : EmqttMessage) (request : List UInt8)
    (verified : mqttVerifiedRequest hmacSha256 a key deviceId message = some request) :
    ∃ tag, mqttFrame deviceId message = some (tag, request) ∧
      Authentic hmacSha256 key tag request := by
  unfold mqttVerifiedRequest at verified
  split at verified
  · cases verified
  next tag framed found =>
    split at verified
    next passed =>
      obtain rfl := Option.some.inj verified
      exact ⟨tag, found, managementAuthenticate_authentic hmacSha256 a key tag framed passed⟩
    next => cases verified

end EspBase

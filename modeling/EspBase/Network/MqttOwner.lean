import EspBase.Config.Data
import EspBase.Network.Authentication

set_option autoImplicit false

/-!
# The MQTT owner

`esp-mqtt` is outside: its results and its events are answers. Of a
publication only whether it was accepted is read here.
-/

namespace EspBase

def mqttOnlineBytes : Nat := 192
def mqttRetryMs : Nat := 5000
def mqttPollEvents : Nat := 8

structure MqttOwner where
  runtime : Bool
  configured : Bool
  started : Bool
  ready : Bool
  failed : Bool
  networkReady : Bool
  managementKey : ManagementKey
  deviceId : CString
  retryAfterMs : Nat
deriving DecidableEq

def MqttOwner.initial : MqttOwner :=
  { runtime := false
    configured := false
    started := false
    ready := false
    failed := false
    networkReady := false
    managementKey := wipedKey
    deviceId := .empty
    retryAfterMs := 0 }

structure NetworkBuild where
  hmacSha256 : ManagementKey → List UInt8 → Digest
  willPayloadBytes : Nat

variable (net : NetworkBuild)

def presenceJson (deviceId bootId : CString) (state : String) : List UInt8 :=
  bytesOf "\x7b\"protocol_version\":1,\"device_id\":\"" ++ deviceId.bytes ++
    bytesOf "\",\"boot_id\":\"" ++ bootId.bytes ++ bytesOf "\",\"state\":\"" ++ bytesOf state ++
    bytesOf "\"\x7d"

-- Every topic and both presence texts fit their arrays.
def mqttTextsFit (deviceId bootId : CString) : Bool :=
  [MqttChannel.command, .result, .reported, .status].all
      (fun channel => (mqttTopic deviceId channel).isSome) &&
    (presenceJson deviceId bootId "offline").length < net.willPayloadBytes &&
    (presenceJson deviceId bootId "online").length < mqttOnlineBytes

-- `handle`: whether `emqtt_create` left a runtime behind.
structure MqttConfigureAnswers where
  destroy : EspErr := .ok
  create : EspErr := .ok
  handle : Bool := true
deriving DecidableEq

def mqttOwnerConfigure (a : MqttConfigureAnswers) (config : MqttConfig) (deviceId bootId : CString)
    (m : MqttOwner) : EspErr × MqttOwner :=
  let m := { m with ready := false, networkReady := false }
  if m.runtime && a.destroy != .ok then
    (a.destroy, { m with failed := true, configured := false, managementKey := wipedKey })
  else
    let m := { m with
      runtime := false
      started := false
      failed := false
      configured := false
      retryAfterMs := 0
      managementKey := wipedKey
      deviceId := .empty }
    if !config.configured then (.ok, m)
    else if !mqttTextsFit net deviceId bootId then (.invalidArg, { m with failed := true })
    else
      let m := { m with
        managementKey := config.managementKey, deviceId := deviceId, runtime := a.handle }
      if a.create ≠ .ok then (a.create, { m with managementKey := wipedKey, failed := true })
      else (.ok, { m with configured := true })

structure MqttOpenAnswers where
  stop : EspErr := .ok
  start : EspErr := .ok
deriving DecidableEq

def mqttOwnerOpen (a : MqttOpenAnswers) (now : Nat) (networkReady trustedTimeReady : Bool)
    (m : MqttOwner) : Bool × MqttOwner :=
  if !m.configured || !m.runtime || m.failed then (false, m)
  else
    let m := { m with networkReady := networkReady && trustedTimeReady }
    if !m.networkReady then
      let m := { m with ready := false }
      if m.started then
        if a.stop ≠ .ok then (false, { m with failed := true })
        else (false, { m with started := false })
      else (false, m)
    else if !m.started then
      if now < m.retryAfterMs then (false, m)
      else if a.start ≠ .ok then (false, { m with retryAfterMs := now + mqttRetryMs })
      else (true, { m with started := true })
    else (true, m)

inductive EmqttEvent where
  | ready
  | disconnected
  | deleted
  | error
  | message (message : EmqttMessage)
  | other
deriving DecidableEq

-- `stateReady` and `stateFailed`: what `emqtt_state` says when it is asked for either.
structure MqttEventAnswers where
  enqueue : EspErr := .ok
  stop : EspErr := .ok
  stateReady : Bool := true
  stateFailed : Bool := false
  psa : PsaAnswers := {}
deriving DecidableEq

def closeSession (stop : EspErr) (now : Nat) (m : MqttOwner) : MqttOwner :=
  if stop ≠ .ok then { m with failed := true }
  else { m with started := false, retryAfterMs := now + mqttRetryMs }

def mqttOwnerEvent (a : MqttEventAnswers) (now : Nat) (event : EmqttEvent) (m : MqttOwner) :
    Bool × Option (List UInt8) × MqttOwner :=
  match event with
  | .ready =>
    let m := { m with ready := a.enqueue == .ok }
    (true, none, if a.enqueue ≠ .ok then closeSession a.stop now m else m)
  | .disconnected => (true, none, { m with ready := false })
  | .deleted => (false, none, closeSession a.stop now { m with ready := false })
  | .error =>
    let m := { m with ready := m.ready && a.stateReady }
    (true, none, if a.stateFailed then closeSession a.stop now m else m)
  | .message message =>
    if m.ready then
      (true, mqttVerifiedRequest net.hmacSha256 a.psa m.managementKey m.deviceId message, m)
    else (true, none, m)
  | .other => (true, none, m)

theorem mqttOwnerConfigure_key (a : MqttConfigureAnswers) (config : MqttConfig)
    (deviceId bootId : CString) (m : MqttOwner)
    (usable : (mqttOwnerConfigure net a config deviceId bootId m).2.configured = true) :
    (mqttOwnerConfigure net a config deviceId bootId m).2.managementKey = config.managementKey := by
  revert usable
  simp only [mqttOwnerConfigure]
  split_ifs <;> simp

theorem mqttOwnerOpen_kept (a : MqttOpenAnswers) (now : Nat) (networkReady trustedTimeReady : Bool)
    (m : MqttOwner) :
    (mqttOwnerOpen a now networkReady trustedTimeReady m).2.configured = m.configured ∧
      (mqttOwnerOpen a now networkReady trustedTimeReady m).2.managementKey = m.managementKey := by
  simp only [mqttOwnerOpen]
  split_ifs <;> exact ⟨rfl, rfl⟩

theorem mqttOwnerOpen_usable (a : MqttOpenAnswers) (now : Nat)
    (networkReady trustedTimeReady : Bool) (m : MqttOwner)
    (entered : (mqttOwnerOpen a now networkReady trustedTimeReady m).1 = true) :
    m.configured = true := by
  unfold mqttOwnerOpen at entered
  split at entered
  · cases entered
  next passed => simp_all

theorem mqttOwnerEvent_kept (a : MqttEventAnswers) (now : Nat) (event : EmqttEvent) (m : MqttOwner) :
    (mqttOwnerEvent net a now event m).2.2.configured = m.configured ∧
      (mqttOwnerEvent net a now event m).2.2.managementKey = m.managementKey := by
  cases event with
  | ready => simp only [mqttOwnerEvent, closeSession]; split_ifs <;> exact ⟨rfl, rfl⟩
  | deleted => simp only [mqttOwnerEvent, closeSession]; split_ifs <;> exact ⟨rfl, rfl⟩
  | error => simp only [mqttOwnerEvent, closeSession]; split_ifs <;> exact ⟨rfl, rfl⟩
  | message message => simp only [mqttOwnerEvent]; split_ifs <;> exact ⟨rfl, rfl⟩
  | _ => exact ⟨rfl, rfl⟩

theorem mqttOwnerEvent_authentic (a : MqttEventAnswers) (now : Nat) (event : EmqttEvent)
    (m : MqttOwner) (request : List UInt8)
    (called : (mqttOwnerEvent net a now event m).2.1 = some request) :
    ∃ message tag, event = .message message ∧
      hexTag managementTagBytes message.payload = some tag ∧ request = message.payload.drop 65 ∧
      Authentic net.hmacSha256 m.managementKey tag request := by
  cases event with
  | message message =>
    simp only [mqttOwnerEvent] at called
    split at called
    · obtain ⟨tag, framed, authentic⟩ := mqttVerifiedRequest_authentic net.hmacSha256 a.psa
        m.managementKey m.deviceId message request called
      obtain ⟨spelled, rest⟩ := mqttFrame_parts m.deviceId message tag request framed
      exact ⟨message, tag, rfl, spelled, rest, authentic⟩
    · cases called
  | _ => cases called

end EspBase

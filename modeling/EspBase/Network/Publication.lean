import EspBase.Network.Revocation
import EspBase.Protocol.Authority

set_option autoImplicit false

/-!
# What the MQTT owner publishes

`reply` hands a text to `esp_base_mqtt_owner_result` and drops what it returns.
-/

namespace EspBase

open Transition

-- `stateReady`: `emqtt_state` says `EMQTT_READY`. `enqueue`: the answer of `emqtt_enqueue`.
structure PublishAnswers where
  stateReady : Bool := true
  enqueue : EspErr := .ok

def mqttOwnerReady (a : PublishAnswers) (m : MqttOwner) : Bool :=
  m.configured && m.runtime && m.started && m.ready && m.networkReady && !m.failed && a.stateReady

-- `payloadMax` is `EMQTT_PAYLOAD_MAX`.
def publish (payloadMax : Nat) (a : PublishAnswers) (json : List UInt8) (m : MqttOwner) : Bool :=
  mqttOwnerReady a m && !json.isEmpty && decide (json.length ≤ payloadMax) && a.enqueue == .ok

def Event.mqtt : Event → Option (List UInt8)
  | .sent true text => some text
  | _ => none

def mqttTexts (log : List Event) : List (List UInt8) := log.filterMap Event.mqtt

theorem mqttTexts_append (log more : List Event) : mqttTexts (log ++ more) = mqttTexts log ++ mqttTexts more :=
  List.filterMap_append

section Session

variable (build : Build) (net : NetworkBuild) (payloadMax : Nat) (answers : Nat → PublishAnswers)

def publications (m : MqttOwner) : Nat → List (List UInt8) → List (List UInt8 × Bool)
  | _, [] => []
  | n, text :: rest => (text, publish payloadMax (answers n) text m) :: publications m (n + 1) rest

structure Session where
  task : ControlTask
  published : List (List UInt8 × Bool)

theorem publications_texts (m : MqttOwner) (n : Nat) (texts : List (List UInt8)) :
    (publications payloadMax answers m n texts).map Prod.fst = texts := by
  induction texts generalizing n with
  | nil => rfl
  | cons text rest ih => simp [publications, ih]

theorem publications_append (m : MqttOwner) (n : Nat) (first second : List (List UInt8)) :
    publications payloadMax answers m n (first ++ second) =
      publications payloadMax answers m n first ++
        publications payloadMax answers m (n + first.length) second := by
  induction first generalizing n with
  | nil => rfl
  | cons text rest ih =>
    have later := ih (n + 1)
    simp only [publications, List.cons_append, later, List.length_cons]
    congr 3
    omega

theorem publications_length (m : MqttOwner) (n : Nat) (texts : List (List UInt8)) :
    (publications payloadMax answers m n texts).length = texts.length := by
  rw [← publications_texts payloadMax answers m n texts, List.length_map, publications_texts]

theorem taskStep_owner (label : TaskLabel) (t : ControlTask)
    (grown : (taskStep build net label t).control.log ≠ t.control.log) :
    (taskStep build net label t).mqtt = t.mqtt := by
  revert grown
  unfold taskStep
  split
  · exact fun _ => rfl
  unfold taskAct
  split
  · split
    · exact fun _ => rfl
    · exact fun _ => rfl
  · exact fun _ => rfl
  · exact fun _ => rfl
  · exact fun _ => rfl
  · split
    · exact fun _ => rfl
    · intro grown
      refine absurd ?_ grown
      unfold configureMqtt
      split <;> rfl
  · exact fun grown => absurd rfl grown
  next event a line answers left here =>
    intro grown
    change (handleMqttEvent build net event a line answers t).2.mqtt = t.mqtt
    change (handleMqttEvent build net event a line answers t).2.control.log ≠ t.control.log at grown
    have owner : (handleMqttEvent build net event a line answers t).2.mqtt =
        (mqttOwnerEvent net a t.now event t.mqtt).2.2 := by
      unfold handleMqttEvent
      dsimp only
      split <;> rfl
    rw [owner]
    cases event with
    | message message =>
      simp only [mqttOwnerEvent]
      split <;> rfl
    | ready => simp [handleMqttEvent, mqttOwnerEvent] at grown
    | disconnected => simp [handleMqttEvent, mqttOwnerEvent] at grown
    | deleted => simp [handleMqttEvent, mqttOwnerEvent] at grown
    | error => simp [handleMqttEvent, mqttOwnerEvent] at grown
    | other => simp [handleMqttEvent, mqttOwnerEvent] at grown
  · exact fun grown => absurd rfl grown
  next destroyed here => exact fun grown => absurd (congrArg Control.log (configureFrp_control destroyed t)) grown
  next a answers here => exact fun grown => absurd (congrArg Control.log (pollFrpListener_control build net a answers t)) grown
  · exact fun grown => absurd rfl grown
  · exact fun _ => rfl
  · exact fun grown => absurd rfl grown
  · exact fun _ => rfl

end Session

end EspBase

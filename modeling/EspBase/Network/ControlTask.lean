import EspBase.Network.FrpListener
import EspBase.Network.FrpOwner
import EspBase.Network.FrpStatus
import EspBase.Network.MqttOwner
import EspBase.Protocol.System

set_option autoImplicit false

/-!
# The passes of the control task

A pass makes its calls in the order of `control_task`; `place` is the next one.
Between any two calls the tasks around it may act.
-/

namespace EspBase

open Transition

inductive Place where
  | wifi
  | configuration
  | ota
  | mqttConfigure
  | mqttPoll
  | mqttEvents (left : Nat)
  | frpConfigure
  | frpListener
  | frpOwner
  | lines
deriving DecidableEq

inductive Call where
  | mqtt (event : EmqttEvent) (request : List UInt8)
  | frp (request : FrpRequest)
deriving DecidableEq

structure ControlTask where
  control : Control
  place : Place
  now : Nat
  mqtt : MqttOwner
  mqttRevision : Option UInt32
  listener : FrpListener
  frp : FrpOwner
  frpRevision : Option UInt32
  frpStatusSeen : List FrpStatusSeen
  calls : List Call

inductive TaskLabel where
  | around (label : Label)
  | wifiPoll (now : Nat) (a : WifiPollAnswers)
  | pollConfiguration (a : ConfigurationAnswers)
  | pollOta (a : FailureAnswers)
  | mqttConfigure (a : MqttConfigureAnswers)
  | mqttPoll (timeReady : Bool) (a : MqttOpenAnswers)
  | mqttEvent (event : EmqttEvent) (a : MqttEventAnswers) (line : Parsed) (answers : LineAnswers)
  | mqttDrained
  | frpConfigure (destroyed : EfrpResult)
  | frpListenerPoll (a : FrpPollAnswers) (status : FrpStatusAnswers)
  | frpOwnerPoll (timeReady : Bool) (a : FrpOwnerAnswers)
  | line (a : LineAnswers) (line : Parsed)
  | passEnd

-- What the other tasks do, as against the calls of the control task itself.
def Label.around : Label → Bool
  | .wifiEvent _ | .workerProgress _ | .workerDone _ _ | .slotConfirmed | .otherClaim
  | .otherRelease _ => true
  | _ => false

variable (build : Build) (net : NetworkBuild)

-- The revision is noted whether or not the owner could be configured.
def configureMqtt (a : MqttConfigureAnswers) (t : ControlTask) : ControlTask :=
  if t.mqttRevision = some t.control.config.revision then t
  else
    { t with
      mqtt := (mqttOwnerConfigure net a t.control.config.mqtt t.control.deviceId
        t.control.bootId t.mqtt).2
      mqttRevision := some t.control.config.revision }

def handleMqttEvent (event : EmqttEvent) (a : MqttEventAnswers) (line : Parsed)
    (answers : LineAnswers) (t : ControlTask) : Bool × ControlTask :=
  let (more, called, mqtt) := mqttOwnerEvent net a t.now event t.mqtt
  match called with
  | none => (more, { t with mqtt := mqtt })
  | some request =>
    (more, { t with
      mqtt := mqtt
      control := step build (.line true answers line) t.control
      calls := t.calls ++ [.mqtt event request] })

-- The old endpoint is closed before the old worker is asked to stop.
def configureFrp (destroyed : EfrpResult) (t : ControlTask) : ControlTask :=
  if t.frpRevision = some t.control.config.revision then t
  else
    let t := { t with listener := frpListenerConfigure none t.listener }
    match frpOwnerConfigure destroyed t.control.config.frp t.control.deviceId t.frp with
    | (.ok, frp) =>
      { t with
        frp := frp
        listener := frpListenerConfigure (some t.control.config.frp) t.listener
        frpRevision := some t.control.config.revision }
    | (_, frp) => { t with frp := frp }

def pollFrpListener (a : FrpPollAnswers) (status : FrpStatusAnswers) (t : ControlTask) :
    ControlTask :=
  let reply := handleFrpStatus build status frpResponseBytes t.control t.frpStatusSeen
  match frpListenerPoll net.hmacSha256 a t.now (fun _ => (reply.http, reply.response)) t.listener with
  | (some request, listener) =>
    { t with
      listener := listener
      frpStatusSeen := reply.seen
      calls := t.calls ++ [.frp request] }
  | (none, listener) => { t with listener := listener }

def TaskLabel.network : TaskLabel → Bool
  | .mqttEvent .. | .frpListenerPoll .. => true
  | _ => false

/-- One call of the pass, or one action around it; a label that is not next does nothing. -/
def taskAct (label : TaskLabel) (t : ControlTask) : ControlTask :=
  match label, t.place with
  | .around label, _ => if label.around then { t with control := step build label t.control } else t
  | .wifiPoll now a, .wifi =>
    { t with control := step build (.wifiPoll now a) t.control, now := now, place := .configuration }
  | .pollConfiguration a, .configuration =>
    { t with control := step build (.pollConfiguration t.now a) t.control, place := .ota }
  | .pollOta a, .ota => { t with control := step build (.pollOta a) t.control, place := .mqttConfigure }
  | .mqttConfigure a, .mqttConfigure =>
    if t.control.controlState.otaVerificationPending then { t with place := .lines }
    else { configureMqtt net a t with place := .mqttPoll }
  | .mqttPoll timeReady a, .mqttPoll =>
    let (entered, mqtt) := mqttOwnerOpen a t.now (wifiReady t.control.wifi) timeReady t.mqtt
    { t with mqtt := mqtt, place := if entered then .mqttEvents mqttPollEvents else .frpConfigure }
  | .mqttEvent event a line answers, .mqttEvents (left + 1) =>
    let (more, t) := handleMqttEvent build net event a line answers t
    { t with place := if more then .mqttEvents left else .frpConfigure }
  | .mqttDrained, .mqttEvents _ => { t with place := .frpConfigure }
  | .frpConfigure destroyed, .frpConfigure =>
    { configureFrp destroyed t with place := .frpListener }
  | .frpListenerPoll a status, .frpListener =>
    { pollFrpListener build net a status t with place := .frpOwner }
  | .frpOwnerPoll timeReady a, .frpOwner =>
    { t with
      frp := frpOwnerPoll a t.now (wifiReady t.control.wifi) timeReady (frpListenerReady t.listener)
        t.frp
      place := .lines }
  | .line a line, .lines => { t with control := step build (.line false a line) t.control }
  | .passEnd, .lines => { t with place := .wifi }
  | _, _ => t

-- `esp_restart` does not return.
def taskStep (label : TaskLabel) (t : ControlTask) : ControlTask :=
  if t.control.restarted then t else taskAct build net label t

def Boot.task (b : Boot) : ControlTask :=
  { control := b.control
    place := .wifi
    now := 0
    mqtt := .initial
    mqttRevision := none
    listener := .initial
    frp := .initial
    frpRevision := none
    frpStatusSeen := frpStatusUnseen
    calls := [] }

abbrev runTask (b : Boot) (labels : List TaskLabel) : ControlTask :=
  run (taskStep build net) labels b.task

end EspBase

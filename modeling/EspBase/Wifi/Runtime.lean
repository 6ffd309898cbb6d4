import EspBase.Config.Validity
import Mathlib.Algebra.Group.Nat.Defs

set_option autoImplicit false

/-!
# The Wi-Fi station runtime

Each function takes the driver's answers for the calls it makes.
-/

namespace EspBase

inductive WifiState where
  | unconfigured
  | connecting
  | connected
  | disconnected
  | failed
deriving DecidableEq, Repr

def WifiState.text : WifiState → String
  | .unconfigured => "unconfigured"
  | .connecting => "connecting"
  | .connected => "connected"
  | .disconnected => "disconnected"
  | .failed => "failed"

inductive WifiEvent where
  | started
  | stopped
  | associated
  | disconnected
  | gotAddress
  | lostAddress
deriving DecidableEq, Repr

def wifiQueueLength : Nat := 16
def wifiStopMs : Nat := 2000

structure WifiRuntime where
  config : WifiConfig
  initialized : Bool
  active : Bool
  stopping : Bool
  associated : Bool
  ready : Bool
  connecting : Bool
  overflow : Bool
  retryAt : Nat
  stopDeadline : Nat
  failures : Nat
  state : WifiState
  events : List WifiEvent

def WifiRuntime.initial : WifiRuntime :=
  { config := .zero, initialized := false, active := false, stopping := false
    associated := false, ready := false, connecting := false, overflow := false
    retryAt := 0, stopDeadline := 0, failures := 0, state := .unconfigured, events := [] }

-- `event_received`: a full queue loses the event and records the loss.
def eventReceived (event : WifiEvent) (w : WifiRuntime) : WifiRuntime :=
  if !w.initialized then w
  else if w.events.length < wifiQueueLength then { w with events := w.events ++ [event] }
  else { w with overflow := true }

def WifiRuntime.unproven (w : WifiRuntime) : WifiRuntime :=
  { w with ready := false, associated := false, connecting := false }

def wifiFailed (w : WifiRuntime) : WifiRuntime :=
  { w.unproven with state := .failed, retryAt := 0 }

structure StartAnswers where
  setConfig : EspErr := .ok
  start : EspErr := .ok
deriving DecidableEq

def startSelected (a : StartAnswers) (w : WifiRuntime) : EspErr × WifiRuntime :=
  let w := { w.unproven with retryAt := 0 }
  if !w.config.configured then (.ok, { w with state := .unconfigured })
  else
    let error := if a.setConfig = .ok then a.start else a.setConfig
    if error ≠ .ok then (error, wifiFailed w)
    else (.ok, { w with active := true, state := .connecting })

structure ApplyAnswers where
  stop : EspErr := .ok
  start : StartAnswers := {}
deriving DecidableEq

def wifiApply (a : ApplyAnswers) (config : WifiConfig) (now : Nat) (w : WifiRuntime) :
    EspErr × WifiRuntime :=
  if !w.initialized then (.invalidState, w)
  else if !wifiConfigValid config then (.invalidArg, w)
  else
    let w := { w.unproven with config := config, retryAt := 0, failures := 0 }
    -- The latest selection starts when the stop in progress completes.
    if w.stopping then (.ok, w)
    else if !w.active then startSelected a.start w
    else
      let w := { w with stopping := true, stopDeadline := now + wifiStopMs, state := .connecting }
      if a.stop = .wifiNotStarted then
        startSelected a.start { w with stopping := false, active := false }
      else if a.stop ≠ .ok then (a.stop, wifiFailed { w with stopping := false })
      else (.ok, w)

def scheduleRetry (now random : Nat) (w : WifiRuntime) : WifiRuntime :=
  let failures := if w.failures < 5 then w.failures + 1 else w.failures
  let delay := 1000 * 2 ^ (failures - 1)
  { w.unproven with
    state := .disconnected
    failures := failures
    retryAt := now + delay + random % 500 }

inductive AuthMode where
  | wpa2Psk
  | wpaWpa2Psk
  | wpa3Psk
  | wpa2Wpa3Psk
  | other (code : Nat)
deriving DecidableEq

def AuthMode.personal : AuthMode → Bool
  | .other _ => false
  | _ => true

structure ApRecord where
  ssid : Vector UInt8 33
  authmode : AuthMode
deriving DecidableEq

structure EventAnswers where
  start : StartAnswers := {}
  disconnect : EspErr := .ok
  random : Nat := 0
  apInfo : Option ApRecord := none
  netifUp : Bool := false
  address : Option UInt32 := none

-- The bytes before a NUL in the first 32, or all 32.
def ApRecord.matches (ap : ApRecord) (config : WifiConfig) : Bool :=
  let wanted := textOf config.ssid.toList
  let actual := textOf (ap.ssid.toList.take 32)
  actual.length == wanted.length && ap.ssid.toList.take wanted.length == wanted

def EventAnswers.proves (a : EventAnswers) (config : WifiConfig) : Bool :=
  match a.apInfo, a.address with
  | some ap, some address =>
    a.netifUp && address != 0 && ap.matches config && ap.authmode.personal
  | _, _ => false

def handleEvent (now : Nat) (event : WifiEvent) (a : EventAnswers) (w : WifiRuntime) :
    WifiRuntime :=
  if event = .stopped then
    let w := { w.unproven with active := false, stopping := false }
    if w.state = .failed then w else (startSelected a.start w).2
  else if !w.active || w.stopping || w.state == .failed then w
  else
    match event with
    | .started => { w with retryAt := now }
    | .associated => { w with associated := true }
    | .disconnected => scheduleRetry now a.random w
    | .lostAddress =>
      let w := { w with ready := false }
      if a.disconnect ≠ .ok then scheduleRetry now a.random w else w
    | .gotAddress =>
      if w.associated && a.proves w.config then
        { w with ready := true, connecting := false, retryAt := 0, failures := 0,
                 state := .connected }
      else w
    | .stopped => w

def drainEvents (now : Nat) (answers : Nat → EventAnswers) : Nat → List WifiEvent →
    WifiRuntime → WifiRuntime
  | _, [], w => w
  | index, event :: rest, w =>
    drainEvents now answers (index + 1) rest (handleEvent now event (answers index) w)

/-- `arrivals` reach the queue while it is drained; `lost` ones found it full. -/
structure WifiPollAnswers where
  arrivals : List WifiEvent := []
  lost : Bool := false
  events : Nat → EventAnswers := fun _ => {}
  connect : EspErr := .ok
  random : Nat := 0

def connectWhenDue (now : Nat) (a : WifiPollAnswers) (w : WifiRuntime) : WifiRuntime :=
  if w.active && !w.stopping && w.retryAt != 0 && w.retryAt ≤ now && !w.connecting then
    let w := { w with retryAt := 0 }
    if a.connect = .ok then { w with connecting := true, state := .connecting }
    else scheduleRetry now a.random w
  else w

def wifiPoll (now : Nat) (a : WifiPollAnswers) (w : WifiRuntime) : WifiRuntime :=
  if !w.initialized then w
  else if w.overflow then wifiFailed { w with overflow := false }
  else
    let drained := drainEvents now a.events 0 (w.events ++ a.arrivals) { w with events := [] }
    let w := { drained with overflow := a.lost }
    if w.stopping && w.stopDeadline ≤ now then wifiFailed w else connectWhenDue now a w

def wifiReady (w : WifiRuntime) : Bool := w.ready && !w.stopping

structure WifiStartAnswers where
  netifInit : EspErr := .ok
  eventLoop : EspErr := .ok
  queue : Bool := true
  netif : Bool := true
  wifiInit : EspErr := .ok
  setStorage : EspErr := .ok
  setMode : EspErr := .ok
  wifiHandler : EspErr := .ok
  ipHandler : EspErr := .ok
  apply : ApplyAnswers := {}

def WifiStartAnswers.failure (a : WifiStartAnswers) : EspErr :=
  if a.netifInit ≠ .ok then a.netifInit
  else if a.eventLoop ≠ .ok then a.eventLoop
  else if !a.queue || !a.netif then .noMem
  else if a.wifiInit ≠ .ok then a.wifiInit
  else if a.setStorage ≠ .ok then a.setStorage
  else if a.setMode ≠ .ok then a.setMode
  else if a.wifiHandler ≠ .ok then a.wifiHandler
  else a.ipHandler

def wifiStart (a : WifiStartAnswers) (config : WifiConfig) (now : Nat) (w : WifiRuntime) :
    EspErr × WifiRuntime :=
  if w.initialized then (.invalidState, w)
  else if a.failure ≠ .ok then (a.failure, wifiFailed w)
  else wifiApply a.apply config now { w with initialized := true }

end EspBase

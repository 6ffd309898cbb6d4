import EspBase.Network.MqttOwner
import EspBase.Shared.Run

set_option autoImplicit false

/-!
# What reaches the MQTT command handler

A run is any sequence of `configure` and `poll` calls; a poll handles its events
one by one. A stop that succeeds discards what the runtime has queued, so no event
comes until the next start.
-/

namespace EspBase

open Transition

structure MqttPass where
  left : Nat
  now : Nat
  networkReady : Bool
  timeReady : Bool
deriving DecidableEq

inductive MqttAction where
  | configured (config : MqttConfig) (deviceId : CString)
  | started
  | stopped (result : EspErr)
  | online (accepted : Bool)
  | disconnected
  | deleted
  | called (owner : MqttOwner) (pass : MqttPass) (message : EmqttMessage) (request : List UInt8)

structure MqttRun where
  owner : MqttOwner
  loop : Option MqttPass
  log : List MqttAction

def MqttRun.initial : MqttRun := { owner := .initial, loop := none, log := [] }

inductive MqttLabel where
  | configure (a : MqttConfigureAnswers) (config : MqttConfig) (deviceId bootId : CString)
  | poll (a : MqttOpenAnswers) (now : Nat) (networkReady timeReady : Bool)
  | event (a : MqttEventAnswers) (event : EmqttEvent)
  | drained

variable (net : NetworkBuild)

def mqttOpenActions (a : MqttOpenAnswers) (now : Nat) (networkReady timeReady : Bool)
    (m : MqttOwner) : List MqttAction :=
  if !m.configured || !m.runtime || m.failed then []
  else if !(networkReady && timeReady) then
    if m.started then [.stopped a.stop] else []
  else if m.started || now < m.retryAfterMs || a.start != .ok then []
  else [.started]

def mqttEventActions (a : MqttEventAnswers) (pass : MqttPass) (event : EmqttEvent)
    (m : MqttOwner) : List MqttAction :=
  match event with
  | .ready => if a.enqueue = .ok then [.online true] else [.online false, .stopped a.stop]
  | .disconnected => [.disconnected]
  | .deleted => [.deleted, .stopped a.stop]
  | .error => if a.stateFailed then [.stopped a.stop] else []
  | .message message =>
    match (mqttOwnerEvent net a pass.now event m).2.1 with
    | some request => [.called m pass message request]
    | none => []
  | .other => []

def pollEvent (a : MqttEventAnswers) (event : EmqttEvent) (pass : MqttPass) (r : MqttRun) : MqttRun :=
  let (more, _, owner) := mqttOwnerEvent net a pass.now event r.owner
  { owner := owner
    loop := if more && pass.left != 1 then some { pass with left := pass.left - 1 } else none
    log := r.log ++ mqttEventActions net a pass event r.owner }

/-- A call that is not possible there does nothing: one task makes them all. -/
def mqttStep (label : MqttLabel) (r : MqttRun) : MqttRun :=
  match label, r.loop with
  | .configure a config deviceId bootId, none =>
    { r with
      owner := (mqttOwnerConfigure net a config deviceId bootId r.owner).2
      log := r.log ++ [.configured config deviceId] }
  | .poll a now networkReady timeReady, none =>
    let (entered, owner) := mqttOwnerOpen a now networkReady timeReady r.owner
    { owner := owner
      loop := if entered then
          some { left := mqttPollEvents, now := now, networkReady := networkReady, timeReady := timeReady }
        else none
      log := r.log ++ mqttOpenActions a now networkReady timeReady r.owner }
  | .event a event, some pass => if r.owner.started then pollEvent net a event pass r else r
  | .drained, some _ => { r with loop := none }
  | _, _ => r

abbrev runMqtt (labels : List MqttLabel) : MqttRun := run (mqttStep net) labels .initial

/-- What a READY has to come after. -/
def MqttAction.ends : MqttAction → Bool
  | .configured .. | .started | .stopped _ | .disconnected | .deleted => true
  | _ => false

/-- An accepted online publication, and nothing after it that starts or ends a session. -/
def SessionProven (log : List MqttAction) : Prop :=
  ∃ earlier later, log = earlier ++ .online true :: later ∧ ∀ action ∈ later, action.ends = false

def MqttAction.configuration : MqttAction → Option (MqttConfig × CString)
  | .configured config deviceId => some (config, deviceId)
  | _ => none

def configuredAs (log : List MqttAction) : Option (MqttConfig × CString) :=
  (log.filterMap MqttAction.configuration).getLast?

structure CommandFrame (key : ManagementKey) (deviceId : CString) (message : EmqttMessage)
    (request : List UInt8) : Prop where
  topic : mqttTopic deviceId .command = some message.topic.bytes
  qos : message.qos = 1
  fresh : message.retain = false
  frame : ∃ tag, hexTag managementTagBytes message.payload = some tag ∧
    message.payload.getD 64 0 = 0x0a ∧ request = message.payload.drop 65 ∧
    Authentic net.hmacSha256 key tag request

structure Dispatched (log : List MqttAction) (owner : MqttOwner) (pass : MqttPass)
    (message : EmqttMessage) (request : List UInt8) : Prop where
  usable : owner.configured = true ∧ owner.started = true ∧ owner.failed = false
  gates : pass.networkReady = true ∧ pass.timeReady = true
  session : SessionProven log
  genuine : ∃ config deviceId, configuredAs log = some (config, deviceId) ∧
    config.configured = true ∧ CommandFrame net config.managementKey deviceId message request

/-- Every call of the handler in the log was right at its place. -/
def FailsClosed (r : MqttRun) : Prop :=
  ∀ earlier owner pass message request later,
    r.log = earlier ++ .called owner pass message request :: later →
      Dispatched net earlier owner pass message request

def MessagesOnlyCall (r : MqttRun) : Prop :=
  ∀ (a : MqttEventAnswers) (message : EmqttMessage),
    (mqttStep net (.event a (.message message)) r).log = r.log ∨
      ∃ pass request, (mqttStep net (.event a (.message message)) r).log =
        r.log ++ [.called r.owner pass message request]

/-- The two branches that leave `s_ready` set in a session that is over. -/
def MqttLabel.misleads (label : MqttLabel) (r : MqttRun) : Bool :=
  match label with
  | .event a .ready => r.owner.failed && a.enqueue == .ok
  | .event a .error => r.owner.ready && a.stateReady && a.stateFailed
  | _ => false

structure MqttSession (r : MqttRun) : Prop where
  ready : r.owner.ready = true → r.owner.configured = true ∧ r.owner.started = true ∧
    r.owner.failed = false ∧ SessionProven r.log
  keyed : r.owner.configured = true → ∃ config deviceId, configuredAs r.log = some (config, deviceId) ∧
    config.configured = true ∧ r.owner.managementKey = config.managementKey ∧
    r.owner.deviceId = deviceId
  looping : ∀ pass, r.loop = some pass → r.owner.configured = true ∧ pass.networkReady = true ∧
    pass.timeReady = true
  calls : FailsClosed net r

theorem sessionProven_online (log : List MqttAction) : SessionProven (log ++ [.online true]) :=
  ⟨log, [], rfl, by simp⟩

theorem SessionProven.append {log actions : List MqttAction} (proven : SessionProven log)
    (quiet : ∀ action ∈ actions, action.ends = false) : SessionProven (log ++ actions) := by
  obtain ⟨earlier, later, rfl, still⟩ := proven
  refine ⟨earlier, later ++ actions, by simp, fun action member => ?_⟩
  rcases List.mem_append.mp member with old | new
  · exact still action old
  · exact quiet action new

theorem configuredAs_append (log actions : List MqttAction)
    (none : actions.filterMap MqttAction.configuration = []) :
    configuredAs (log ++ actions) = configuredAs log := by
  simp [configuredAs, none]

theorem FailsClosed.append {r : MqttRun} {actions : List MqttAction} (calls : FailsClosed net r)
    (owner : MqttOwner) (loop : Option MqttPass)
    (right : ∀ owner pass message request, .called owner pass message request ∈ actions →
      actions = [.called owner pass message request] ∧
        Dispatched net r.log owner pass message request) :
    FailsClosed net { owner := owner, loop := loop, log := r.log ++ actions } := by
  intro earlier owner pass message request later split
  rcases List.append_eq_append_iff.mp split with ⟨middle, rfl, rest⟩ | ⟨middle, same, rest⟩
  · have member : .called owner pass message request ∈ actions := by rw [rest]; simp
    obtain ⟨only, dispatched⟩ := right owner pass message request member
    have alone : middle = [] := by
      cases middle with
      | nil => rfl
      | cons head tail =>
        rw [only] at rest
        simp at rest
    simpa [alone] using dispatched
  · cases middle with
    | nil =>
      have member : .called owner pass message request ∈ actions := by
        simp only [List.nil_append] at rest
        rw [← rest]
        simp
      obtain ⟨-, dispatched⟩ := right owner pass message request member
      have here : earlier = r.log := by simpa using same.symm
      rwa [here]
    | cons head tail =>
      simp only [List.cons_append, List.cons.injEq] at rest
      obtain ⟨rfl, -⟩ := rest
      exact calls earlier owner pass message request tail same

theorem mqttFrame_command (deviceId : CString) (message : EmqttMessage) (tag request : List UInt8)
    (framed : mqttFrame deviceId message = some (tag, request)) :
    mqttTopic deviceId .command = some message.topic.bytes ∧ message.qos = 1 ∧
      message.retain = false ∧ message.payload.getD 64 0 = 0x0a := by
  simp only [mqttFrame, Option.ite_none_left_eq_some, not_or, ne_eq, Decidable.not_not,
    Bool.not_eq_true] at framed
  obtain ⟨⟨qos, fresh, -⟩, ⟨topic, line⟩, -⟩ := framed
  exact ⟨topic, qos, fresh, line⟩

theorem mqttOwnerEvent_frame (a : MqttEventAnswers) (now : Nat) (message : EmqttMessage)
    (m : MqttOwner) (request : List UInt8)
    (called : (mqttOwnerEvent net a now (.message message) m).2.1 = some request) :
    m.ready = true ∧ CommandFrame net m.managementKey m.deviceId message request := by
  simp only [mqttOwnerEvent] at called
  split at called
  next ready =>
    obtain ⟨tag, framed, authentic⟩ := mqttVerifiedRequest_authentic net.hmacSha256 a.psa
      m.managementKey m.deviceId message request called
    obtain ⟨topic, qos, fresh, line⟩ := mqttFrame_command m.deviceId message tag request framed
    obtain ⟨spelled, rest⟩ := mqttFrame_parts m.deviceId message tag request framed
    exact ⟨ready, topic, qos, fresh, tag, spelled, line, rest, authentic⟩
  next => cases called

theorem configure_session (a : MqttConfigureAnswers) (config : MqttConfig)
    (deviceId bootId : CString) (r : MqttRun) (session : MqttSession net r) (idle : r.loop = none) :
    MqttSession net
      { r with
        owner := (mqttOwnerConfigure net a config deviceId bootId r.owner).2
        log := r.log ++ [.configured config deviceId] } := by
  constructor
  · intro ready
    have closed : (mqttOwnerConfigure net a config deviceId bootId r.owner).2.ready = false := by
      simp only [mqttOwnerConfigure]
      split_ifs <;> rfl
    simp [closed] at ready
  · intro usable
    refine ⟨config, deviceId, by simp [configuredAs, MqttAction.configuration], ?_⟩
    revert usable
    simp only [mqttOwnerConfigure]
    split_ifs <;> simp_all
  · intro pass looping
    simp [idle] at looping
  · exact session.calls.append net _ _ (by simp)

theorem mqttOwnerOpen_cases (a : MqttOpenAnswers) (now : Nat) (networkReady timeReady : Bool)
    (m : MqttOwner) :
    let opened := mqttOwnerOpen a now networkReady timeReady m
    let actions := mqttOpenActions a now networkReady timeReady m
    (opened.2.ready = false ∧ opened.1 = false) ∨
      (opened.2.ready = m.ready ∧ opened.2.configured = m.configured ∧
        opened.2.started = m.started ∧ opened.2.failed = m.failed ∧ actions = [] ∧
        (opened.1 = true → m.configured = true ∧ networkReady = true ∧ timeReady = true)) ∨
      (opened.2.ready = m.ready ∧ m.started = false ∧ m.configured = true ∧
        networkReady = true ∧ timeReady = true) := by
  simp only [mqttOwnerOpen, mqttOpenActions]
  by_cases shut : (!m.configured || !m.runtime || m.failed) = true
  · simp [shut]
  · obtain ⟨⟨usable, alive⟩, working⟩ :
        (m.configured = true ∧ m.runtime = true) ∧ m.failed = false := by simpa using shut
    by_cases gates : (networkReady && timeReady) = true
    · have both : networkReady = true ∧ timeReady = true := by simpa using gates
      by_cases started : m.started = true
      · simp [usable, alive, working, both, started]
      · simp only [Bool.not_eq_true] at started
        by_cases early : now < m.retryAfterMs
        · simp [usable, alive, working, both, started, early]
        · by_cases began : a.start = .ok
          · simp [usable, alive, working, both, started, early, began]
          · simp [usable, alive, working, both, started, early, began]
    · simp only [Bool.not_eq_true] at gates
      by_cases started : m.started = true
      · by_cases stopped : a.stop = .ok
        · simp [usable, alive, working, gates, started, stopped]
        · simp [usable, alive, working, gates, started, stopped]
      · simp [usable, alive, working, gates, started]

theorem mqttOpenActions_plain (a : MqttOpenAnswers) (now : Nat) (networkReady timeReady : Bool)
    (m : MqttOwner) :
    ∀ action ∈ mqttOpenActions a now networkReady timeReady m,
      action = .started ∨ action = .stopped a.stop := by
  simp only [mqttOpenActions]
  split_ifs <;> simp

theorem poll_session (a : MqttOpenAnswers) (now : Nat) (networkReady timeReady : Bool) (r : MqttRun)
    (session : MqttSession net r) :
    MqttSession net
      { owner := (mqttOwnerOpen a now networkReady timeReady r.owner).2
        loop := if (mqttOwnerOpen a now networkReady timeReady r.owner).1 then
            some ⟨mqttPollEvents, now, networkReady, timeReady⟩
          else none
        log := r.log ++ mqttOpenActions a now networkReady timeReady r.owner } := by
  have plain := mqttOpenActions_plain a now networkReady timeReady r.owner
  have none : (mqttOpenActions a now networkReady timeReady r.owner).filterMap
      MqttAction.configuration = [] := by
    rw [List.filterMap_eq_nil_iff]
    intro action member
    rcases plain action member with rfl | rfl <;> rfl
  have kept := mqttOwnerOpen_kept a now networkReady timeReady r.owner
  have opened := mqttOwnerOpen_cases a now networkReady timeReady r.owner
  simp only at opened
  constructor
  · intro ready
    rcases opened with ⟨closed, -⟩ | ⟨same, configured, started, failed, quiet, -⟩ | ⟨same, idle, -⟩
    · exact absurd (closed.symm.trans ready) (by decide)
    · simpa [configured, started, failed, quiet] using session.ready (same.symm.trans ready)
    · have live := (session.ready (same.symm.trans ready)).2.1
      exact absurd (idle.symm.trans live) (by decide)
  · intro usable
    rw [configuredAs_append _ _ none]
    obtain ⟨config, deviceId, held, present, key, device⟩ := session.keyed (kept.1.symm.trans usable)
    refine ⟨config, deviceId, held, present, kept.2.trans key, ?_⟩
    rw [← device]
    simp only [mqttOwnerOpen]
    split_ifs <;> rfl
  · intro pass looping
    simp only [Option.ite_none_right_eq_some, Option.some.injEq] at looping
    obtain ⟨entered, rfl⟩ := looping
    rcases opened with ⟨-, left⟩ | ⟨-, configured, -, -, -, gates⟩ | ⟨-, -, usable, gates⟩
    · exact absurd (left.symm.trans entered) (by decide)
    · exact ⟨configured.trans (gates entered).1, (gates entered).2⟩
    · exact ⟨kept.1.trans usable, gates⟩
  · refine session.calls.append net _ _ ?_
    intro owner pass message request member
    rcases plain _ member with same | same <;> cases same

theorem mqttEventActions_unconfigured (a : MqttEventAnswers) (pass : MqttPass) (event : EmqttEvent)
    (m : MqttOwner) :
    (mqttEventActions net a pass event m).filterMap MqttAction.configuration = [] := by
  cases event with
  | message message => simp only [mqttEventActions]; split <;> rfl
  | ready => simp only [mqttEventActions]; split <;> rfl
  | error => simp only [mqttEventActions]; split <;> rfl
  | _ => rfl

theorem mqttOwnerEvent_device (a : MqttEventAnswers) (now : Nat) (event : EmqttEvent) (m : MqttOwner) :
    (mqttOwnerEvent net a now event m).2.2.deviceId = m.deviceId := by
  cases event with
  | ready => simp only [mqttOwnerEvent, closeSession]; split_ifs <;> rfl
  | deleted => simp only [mqttOwnerEvent, closeSession]; split_ifs <;> rfl
  | error => simp only [mqttOwnerEvent, closeSession]; split_ifs <;> rfl
  | message message => simp only [mqttOwnerEvent]; split_ifs <;> rfl
  | _ => rfl

/-- Outside the two misleading branches, `s_ready` is left set only by an accepted READY or by what
ends no session. -/
theorem mqttOwnerEvent_ready (a : MqttEventAnswers) (pass : MqttPass) (event : EmqttEvent)
    (r : MqttRun) (session : MqttSession net r) (looping : r.loop = some pass)
    (live : r.owner.started = true) (honest : (MqttLabel.event a event).misleads r = false)
    (ready : (mqttOwnerEvent net a pass.now event r.owner).2.2.ready = true) :
    let owner := (mqttOwnerEvent net a pass.now event r.owner).2.2
    owner.started = true ∧ owner.failed = false ∧
      SessionProven (r.log ++ mqttEventActions net a pass event r.owner) := by
  have usable := (session.looping pass looping).1
  cases event with
  | ready =>
    by_cases accepted : a.enqueue = .ok
    · have working : r.owner.failed = false := by simpa [MqttLabel.misleads, accepted] using honest
      simp [mqttOwnerEvent, mqttEventActions, accepted, live, working, sessionProven_online]
    · exfalso
      revert ready
      simp only [mqttOwnerEvent, closeSession]
      split_ifs <;> simp_all
  | disconnected => simp [mqttOwnerEvent] at ready
  | deleted =>
    exfalso
    revert ready
    simp only [mqttOwnerEvent, closeSession]
    split_ifs <;> simp
  | error =>
    by_cases lost : a.stateFailed = true
    · have unready : r.owner.ready = true → a.stateReady = false := by
        simpa [MqttLabel.misleads, lost] using honest
      exfalso
      revert ready
      simp only [mqttOwnerEvent, lost, closeSession]
      split_ifs <;> simp_all
    · have held : r.owner.ready = true := by
        simp only [mqttOwnerEvent, lost] at ready
        simp_all
      simpa [mqttOwnerEvent, mqttEventActions, lost] using (session.ready held).2
  | message message =>
    have held : r.owner.ready = true := by
      simp only [mqttOwnerEvent] at ready
      split at ready <;> simp_all
    obtain ⟨-, started, failed, proven⟩ := session.ready held
    have quiet : ∀ action ∈ mqttEventActions net a pass (.message message) r.owner,
        action.ends = false := by
      simp only [mqttEventActions]
      split
      · simp [MqttAction.ends]
      · simp
    refine ⟨?_, ?_, proven.append quiet⟩
    · simpa [mqttOwnerEvent, held] using started
    · simpa [mqttOwnerEvent, held] using failed
  | other =>
    have held : r.owner.ready = true := by simpa [mqttOwnerEvent] using ready
    simpa [mqttOwnerEvent, mqttEventActions] using (session.ready held).2

theorem event_session (a : MqttEventAnswers) (event : EmqttEvent) (pass : MqttPass) (r : MqttRun)
    (session : MqttSession net r) (looping : r.loop = some pass) (live : r.owner.started = true)
    (honest : (MqttLabel.event a event).misleads r = false) :
    MqttSession net (pollEvent net a event pass r) := by
  have kept := mqttOwnerEvent_kept net a pass.now event r.owner
  have none := mqttEventActions_unconfigured net a pass event r.owner
  obtain ⟨usable, gates⟩ := session.looping pass looping
  constructor
  · intro ready
    exact ⟨kept.1.trans usable,
      mqttOwnerEvent_ready net a pass event r session looping live honest ready⟩
  · intro _
    obtain ⟨config, deviceId, held, present, key, device⟩ := session.keyed usable
    refine ⟨config, deviceId, ?_, present, kept.2.trans key, ?_⟩
    · exact (configuredAs_append _ _ none).trans held
    · exact (mqttOwnerEvent_device net a pass.now event r.owner).trans device
  · intro next more
    simp only [pollEvent, Option.ite_none_right_eq_some, Option.some.injEq] at more
    obtain ⟨-, rfl⟩ := more
    exact ⟨kept.1.trans usable, gates⟩
  · refine session.calls.append net _ _ ?_
    intro owner here message request member
    cases event with
    | message received =>
      simp only [mqttEventActions] at member ⊢
      split at member
      next found called =>
        simp only [List.mem_singleton, MqttAction.called.injEq] at member
        obtain ⟨rfl, rfl, rfl, rfl⟩ := member
        obtain ⟨ready, frame⟩ := mqttOwnerEvent_frame net a _ _ r.owner _ called
        obtain ⟨-, started, failed, proven⟩ := session.ready ready
        obtain ⟨config, deviceId, held, present, key, device⟩ := session.keyed usable
        exact ⟨rfl, ⟨usable, started, failed⟩, gates, proven, config, deviceId, held, present,
          key ▸ device ▸ frame⟩
      next => simp at member
    | ready => simp only [mqttEventActions] at member; split at member <;> simp at member
    | error => simp only [mqttEventActions] at member; split at member <;> simp at member
    | _ => simp [mqttEventActions] at member

theorem mqttStep_session (label : MqttLabel) (r : MqttRun) (honest : label.misleads r = false)
    (session : MqttSession net r) : MqttSession net (mqttStep net label r) := by
  cases label with
  | configure a config deviceId bootId =>
    cases place : r.loop with
    | none => simpa [mqttStep, place] using configure_session net a config deviceId bootId r session place
    | some pass => simpa [mqttStep, place] using session
  | poll a now networkReady timeReady =>
    cases place : r.loop with
    | none => simpa [mqttStep, place] using poll_session net a now networkReady timeReady r session
    | some pass => simpa [mqttStep, place] using session
  | event a event =>
    cases place : r.loop with
    | none => simpa [mqttStep, place] using session
    | some pass =>
      by_cases live : r.owner.started = true
      · simpa [mqttStep, place, live] using event_session net a event pass r session place live honest
      · simpa [mqttStep, place, live] using session
  | drained =>
    cases place : r.loop with
    | none => simpa [mqttStep, place] using session
    | some pass =>
      simp only [mqttStep, place]
      exact ⟨session.ready, session.keyed, by simp, session.calls⟩

theorem mqttSession_initial : MqttSession net .initial :=
  ⟨by simp [MqttRun.initial, MqttOwner.initial], by simp [MqttRun.initial, MqttOwner.initial],
    by simp [MqttRun.initial], by intro earlier owner pass message request later split; simp [MqttRun.initial] at split⟩

theorem message_called (a : MqttEventAnswers) (message : EmqttMessage) (pass : MqttPass)
    (request : List UInt8) (r : MqttRun) (place : r.loop = some pass) (live : r.owner.started = true)
    (called : (mqttOwnerEvent net a pass.now (.message message) r.owner).2.1 = some request) :
    (mqttStep net (.event a (.message message)) r).log =
      r.log ++ [.called r.owner pass message request] := by
  simp [mqttStep, place, live, pollEvent, mqttEventActions, called]

theorem message_calls (r : MqttRun) : MessagesOnlyCall net r := by
  intro a message
  cases place : r.loop with
  | none => simp [mqttStep, place]
  | some pass =>
    by_cases live : r.owner.started = true
    · cases called : (mqttOwnerEvent net a pass.now (.message message) r.owner).2.1 with
      | some request =>
        exact .inr ⟨pass, request, message_called net a message pass request r place live called⟩
      | none => simp [mqttStep, place, live, pollEvent, mqttEventActions, called]
    · simp [mqttStep, place, live]

/-- In every run that takes neither misleading branch, the handler is called only in a proven session
of the configured broker, and a message does nothing else. -/
theorem dispatch_fails_closed (labels : List MqttLabel)
    (honest : Along (mqttStep net) (fun label r => label.misleads r = false) labels .initial) :
    FailsClosed net (runMqtt net labels) ∧ MessagesOnlyCall net (runMqtt net labels) := by
  have session := @run_invariant_along _ _ _ (fun r : MqttRun => MqttSession net r) _
    (mqttStep_session net) labels .initial honest (mqttSession_initial net)
  exact ⟨session.calls, message_calls net _⟩

def brokerDevice : CString := CString.ofBytes (bytesOf "22222222-2222-4222-8222-222222222222")

def brokerNet : NetworkBuild := { hmacSha256 := fun key _ => key, willPayloadBytes := 192 }

def brokerConfig : MqttConfig :=
  { MqttConfig.zero with configured := true, managementKey := Vector.replicate 32 0xaa }

def brokerMessage : EmqttMessage :=
  { topic := CString.ofBytes (bytesOf "esp-base/22222222-2222-4222-8222-222222222222/command")
    qos := 1
    retain := false
    payload := List.replicate 64 0x61 ++ bytesOf "\n\x7b\x7d" }

def brokerOpened : List MqttLabel :=
  [.configure {} brokerConfig brokerDevice brokerDevice, .poll {} 0 true true]

def brokerReady : List MqttLabel := brokerOpened ++ [.event {} .ready]

-- A proven session, and the authentic command that it receives.
def brokerServed : List MqttLabel := brokerReady ++ [.event {} (.message brokerMessage)]

theorem dispatch_fails_closed_session :
    FailsClosed brokerNet (runMqtt brokerNet brokerServed) ∧
      MessagesOnlyCall brokerNet (runMqtt brokerNet brokerServed) ∧
      (runMqtt brokerNet brokerServed).log = (runMqtt brokerNet brokerReady).log ++
        [.called (runMqtt brokerNet brokerReady).owner ⟨7, 0, true, true⟩ brokerMessage (bytesOf "\x7b\x7d")] := by
  obtain ⟨closed, only⟩ := dispatch_fails_closed brokerNet brokerServed (by decide +kernel)
  refine ⟨closed, only, ?_⟩
  have called := message_called brokerNet {} brokerMessage ⟨7, 0, true, true⟩ (bytesOf "\x7b\x7d")
    (runMqtt brokerNet brokerReady) (by decide +kernel) (by decide +kernel) (by decide +kernel)
  rwa [brokerServed, runMqtt, run_concat]

-- The publication and the stop fail; another READY of the same batch is accepted.
def brokerFailing : List MqttLabel :=
  brokerOpened ++
    [.event { enqueue := .timeout, stop := .timeout } .ready, .event {} .ready]

theorem failed_owner_dispatches :
    ¬∀ (net : NetworkBuild) (labels : List MqttLabel), FailsClosed net (runMqtt net labels) := by
  intro claim
  have called := message_called brokerNet {} brokerMessage ⟨6, 0, true, true⟩ (bytesOf "\x7b\x7d")
    (runMqtt brokerNet brokerFailing) (by decide +kernel) (by decide +kernel) (by decide +kernel)
  have logged := claim brokerNet (brokerFailing ++ [.event {} (.message brokerMessage)])
  rw [runMqtt, run_concat] at logged
  have working := (logged _ _ _ _ _ [] called).usable.2.2
  exact absurd working (by decide +kernel)

end EspBase

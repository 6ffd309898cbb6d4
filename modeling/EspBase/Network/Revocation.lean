import EspBase.Network.ControlTask
import EspBase.Protocol.Trials
import EspBase.Shared.VersionedCache
import EspBase.Wifi.Runs

set_option autoImplicit false

namespace EspBase

open Transition VersionedCache

variable (build : Build) (net : NetworkBuild)

def configVersion (s : Control) : Nat := s.config.revision.toNat
def mqttKey (s : Control) : ManagementKey := s.config.mqtt.managementKey
def frpKey (s : Control) : ManagementKey := s.config.frp.managementKey

theorem effect_config (s t : Control) (effect : Effect build s t) (mirrored : Mirrored s)
    (certain : s.trialActive = true → s.configUncertain = false) :
    t.config = s.config ∨
      (s.trialActive = true ∧ t.trialActive = false ∧ configVersion s < configVersion t) := by
  have replaced (faults : ConfigCommitFaults) (result : Except EspErr RemoteConfig)
      (stored : BlobCell) (config : RemoteConfig) (active : s.trialActive = true)
      (wrote : remoteConfigCommitVerified faults s.candidate s.candidate.revision s.configStore =
        (result, stored)) (durable : durableConfig stored = some config) :
      config = s.config ∨ s.config.revision.toNat < config.revision.toNat := by
    have advances := remoteConfigCommitVerified_advances faults s.candidate s.candidate.revision
      s.configStore
    rw [wrote] at advances
    obtain ⟨next, after, same | ⟨-, one⟩⟩ := advances.revision (mirrored (certain active))
    · exact .inl (Option.some.inj (durable.symm.trans after) |>.trans same)
    · obtain rfl := Option.some.inj (durable.symm.trans after)
      exact .inr (by omega)
  cases effect with
  | committed now faults config stored a active ready early wrote =>
    simp only [saveOutcome_eq, configVersion]
    have durable := (remoteConfigCommitVerified_ok _ _ _ _ _ _ wrote).2
    rcases replaced faults _ stored config active wrote durable with same | grown
    · exact .inl same
    · exact .inr ⟨active, rfl, grown⟩
  | commitReloaded now faults stored reload config a error wifi active ready early wrote loaded =>
    simp only [saveOutcome_eq, configVersion]
    rcases replaced faults _ stored config active wrote (remoteConfigLoad_ok _ _ _ loaded) with
      same | grown
    · exact .inl same
    · exact .inr ⟨active, rfl, grown⟩
  | _ => exact .inl (by simp [saveOutcome_eq])

theorem step_config (label : Label) (s : Control) (usb : s.replyMqtt = false)
    (exclusive : Exclusive s) (mirrored : Mirrored s) :
    (step build label s).config = s.config ∨
      ((∃ now a, label = .pollConfiguration now a) ∧
        configVersion s < configVersion (step build label s)) := by
  obtain ⟨viaMqtt, t, effect, same⟩ := step_effect build label s usb
  have certain (active : s.trialActive = true) := (exclusive.certain (.inr active)).1
  rcases effect_config build _ t effect mirrored certain with kept | ⟨active, ended, grown⟩
  · exact .inl (by rw [same]; exact kept)
  rcases step_busy build label s active exclusive.apart with polled | still
  · rw [same]
    exact .inr ⟨polled, grown⟩
  · rw [same] at still
    exact absurd (ended.symm.trans still) (by decide)

theorem configureMqtt_control (a : MqttConfigureAnswers) (t : ControlTask) :
    (configureMqtt net a t).control = t.control := by
  unfold configureMqtt
  split <;> rfl

theorem configureFrp_control (destroyed : EfrpResult) (t : ControlTask) :
    (configureFrp destroyed t).control = t.control := by
  unfold configureFrp
  split
  · rfl
  · simp only
    split <;> rfl

theorem pollFrpListener_control (a : FrpPollAnswers) (status : FrpStatusAnswers) (t : ControlTask) :
    (pollFrpListener build net a status t).control = t.control := by
  simp only [pollFrpListener]
  split <;> rfl

theorem handleMqttEvent_control (event : EmqttEvent) (a : MqttEventAnswers) (line : Parsed)
    (answers : LineAnswers) (t : ControlTask) :
    (handleMqttEvent build net event a line answers t).2.control = t.control ∨
      (handleMqttEvent build net event a line answers t).2.control =
        step build (.line true answers line) t.control := by
  simp only [handleMqttEvent]
  split
  · exact .inl rfl
  · exact .inr rfl

theorem taskAct_control (label : TaskLabel) (t : ControlTask) :
    (taskAct build net label t).control = t.control ∨
      ∃ next, (taskAct build net label t).control = step build next t.control := by
  unfold taskAct
  split
  next label =>
    split
    · exact .inr ⟨label, rfl⟩
    · exact .inl rfl
  next now a here => exact .inr ⟨.wifiPoll now a, rfl⟩
  next a here => exact .inr ⟨.pollConfiguration t.now a, rfl⟩
  next a here => exact .inr ⟨.pollOta a, rfl⟩
  next a here =>
    split
    · exact .inl rfl
    · exact .inl (configureMqtt_control net a t)
  next => exact .inl rfl
  next event a line answers left here =>
    rcases handleMqttEvent_control build net event a line answers t with same | called
    · exact .inl same
    · exact .inr ⟨.line true answers line, called⟩
  next => exact .inl rfl
  next destroyed here => exact .inl (configureFrp_control destroyed t)
  next a status here => exact .inl (pollFrpListener_control build net a status t)
  next => exact .inl rfl
  next a line here => exact .inr ⟨.line false a line, rfl⟩
  next => exact .inl rfl
  next => exact .inl rfl

theorem runTask_control (b : Boot) (labels : List TaskLabel) :
    ∃ taken, (runTask build net b labels).control = runBoot build b taken := by
  refine @run_invariant _ _ _ (fun t => ∃ taken, t.control = runBoot build b taken) ?_ labels b.task
    ⟨[], rfl⟩
  rintro label t ⟨taken, same⟩
  unfold taskStep
  split
  · exact ⟨taken, same⟩
  rcases taskAct_control build net label t with kept | ⟨next, moved⟩
  · exact ⟨taken, kept.trans same⟩
  · refine ⟨taken ++ [next], ?_⟩
    rw [moved, same, runBoot, runBoot, run_concat]

structure Copies (t : ControlTask) : Prop where
  mqtt : Trusted mqttKey configVersion t.control (t.mqtt.configured = true)
    (t.mqttRevision.map UInt32.toNat) t.mqtt.managementKey
  frp : Trusted frpKey configVersion t.control (t.listener.configured = true)
    (t.frpRevision.map UInt32.toNat) t.listener.key
  closed : t.listener.Closed

-- Between the comparison of revisions and the polls that rely on it, they stay equal.
def Refreshed (t : ControlTask) : Prop :=
  match t.place with
  | .mqttPoll => t.mqttRevision = some t.control.config.revision
  | .mqttEvents _ =>
    t.mqttRevision = some t.control.config.revision ∧ t.mqtt.configured = true
  | .frpListener =>
    t.listener.configured = true → t.frpRevision = some t.control.config.revision
  | _ => True

theorem configureMqtt_copies (a : MqttConfigureAnswers) (t : ControlTask) (copies : Copies t) :
    Copies (configureMqtt net a t) := by
  unfold configureMqtt
  split
  · exact copies
  · refine ⟨?_, copies.frp, copies.closed⟩
    exact Trusted.refreshed (mqttOwnerConfigure_key net a t.control.config.mqtt t.control.deviceId
      t.control.bootId t.mqtt)

theorem configureMqtt_fresh (a : MqttConfigureAnswers) (t : ControlTask) :
    (configureMqtt net a t).mqttRevision = some (configureMqtt net a t).control.config.revision := by
  unfold configureMqtt
  split
  next same => exact same
  next => rfl

theorem configureMqtt_calls (a : MqttConfigureAnswers) (t : ControlTask) :
    (configureMqtt net a t).calls = t.calls := by
  unfold configureMqtt
  split <;> rfl

theorem configureFrp_calls (destroyed : EfrpResult) (t : ControlTask) :
    (configureFrp destroyed t).calls = t.calls := by
  unfold configureFrp
  split
  · rfl
  · simp only
    split <;> rfl

theorem configureFrp_copies (destroyed : EfrpResult) (t : ControlTask) (copies : Copies t) :
    Copies (configureFrp destroyed t) ∧
      ((configureFrp destroyed t).listener.configured = true →
        (configureFrp destroyed t).frpRevision =
          some (configureFrp destroyed t).control.config.revision) := by
  unfold configureFrp
  split
  next same => exact ⟨copies, fun _ => same⟩
  have off := frpListenerConfigure_closed t.listener
  have closed := frpListenerConfigure_listening none t.listener copies.closed
  simp only
  split
  next frp stopped =>
    refine ⟨⟨copies.mqtt, ?_, frpListenerConfigure_listening _ _ closed⟩, fun _ => rfl⟩
    exact Trusted.refreshed (frpListenerConfigure_key t.control.config.frp _)
  next error frp _ running =>
    have revoked : ¬(frpListenerConfigure none t.listener).configured = true := by simp [off]
    exact ⟨⟨copies.mqtt, copies.frp.revoked _ revoked, closed⟩, fun on => absurd on revoked⟩

def Call.Authentic (config : RemoteConfig) : Call → Prop
  | .mqtt event request =>
    ∃ message tag, event = .message message ∧
      hexTag managementTagBytes message.payload = some tag ∧ request = message.payload.drop 65 ∧
      EspBase.Authentic net.hmacSha256 config.mqtt.managementKey tag request
  | .frp request =>
    EspBase.Authentic net.hmacSha256 config.frp.managementKey request.tag request.body

theorem Copies.moved {t : ControlTask} (copies : Copies t) (s : Control)
    (moved : s.config = t.control.config ∨ configVersion t.control < configVersion s) :
    Copies { t with control := s } := by
  refine ⟨copies.mqtt.kept ?_, copies.frp.kept ?_, copies.closed⟩
  · exact moved.imp_left fun same => by simp [mqttKey, configVersion, same]
  · exact moved.imp_left fun same => by simp [frpKey, configVersion, same]

theorem Refreshed.moved {t : ControlTask} (fresh : Refreshed t) (s : Control)
    (same : s.config = t.control.config) : Refreshed { t with control := s } := by
  simpa only [Refreshed, same] using fresh

theorem Copies.mqttKey {t : ControlTask} (copies : Copies t)
    (fresh : t.mqttRevision = some t.control.config.revision) (usable : t.mqtt.configured = true) :
    t.mqtt.managementKey = t.control.config.mqtt.managementKey :=
  copies.mqtt.current usable (by rw [fresh]; rfl)

theorem Copies.frpKey {t : ControlTask} (copies : Copies t)
    (fresh : t.frpRevision = some t.control.config.revision)
    (usable : t.listener.configured = true) :
    t.listener.key = t.control.config.frp.managementKey :=
  copies.frp.current usable (by rw [fresh]; rfl)

def CallsAuthentic (label : TaskLabel) (t u : ControlTask) : Prop :=
  (u.calls = t.calls ∧
      (label.network = true → u.control = t.control ∧ u.frpStatusSeen = t.frpStatusSeen)) ∨
    ∃ call, u.calls = t.calls ++ [call] ∧ call.Authentic net t.control.config

theorem handleMqttEvent_keys (event : EmqttEvent) (a : MqttEventAnswers) (line : Parsed)
    (answers : LineAnswers) (t : ControlTask) (copies : Copies t)
    (fresh : t.mqttRevision = some t.control.config.revision) (usable : t.mqtt.configured = true)
    (kept : (step build (.line true answers line) t.control).config = t.control.config) :
    let u := (handleMqttEvent build net event a line answers t).2
    Copies u ∧ (u.mqttRevision = some u.control.config.revision ∧ u.mqtt.configured = true) ∧
      CallsAuthentic net (.mqttEvent event a line answers) t u := by
  have authentic := mqttOwnerEvent_authentic net a t.now event t.mqtt
  obtain ⟨configured, key⟩ := mqttOwnerEvent_kept net a t.now event t.mqtt
  obtain ⟨⟨more, called, mqtt⟩, owned⟩ : ∃ owned, mqttOwnerEvent net a t.now event t.mqtt = owned :=
    ⟨_, rfl⟩
  rw [owned] at authentic configured key
  simp only [handleMqttEvent, owned]
  have held : Trusted EspBase.mqttKey configVersion t.control (mqtt.configured = true)
      (t.mqttRevision.map UInt32.toNat) mqtt.managementKey := by
    rw [configured, key]
    exact copies.mqtt
  have updated : Copies { t with mqtt := mqtt } := ⟨held, copies.frp, copies.closed⟩
  cases called with
  | none => exact ⟨updated, ⟨fresh, configured.trans usable⟩, .inl ⟨rfl, fun _ => ⟨rfl, rfl⟩⟩⟩
  | some request =>
    have moved := updated.moved _ (.inl kept)
    refine ⟨⟨moved.mqtt, moved.frp, moved.closed⟩, ⟨by rw [kept]; exact fresh, configured.trans usable⟩, ?_⟩
    obtain ⟨message, tag, came, spelled, rest, proven⟩ := authentic request rfl
    refine .inr ⟨.mqtt event request, rfl, message, tag, came, spelled, rest, ?_⟩
    rwa [copies.mqttKey fresh usable] at proven

theorem pollFrpListener_keys (a : FrpPollAnswers) (status : FrpStatusAnswers) (t : ControlTask)
    (copies : Copies t)
    (fresh : t.listener.configured = true → t.frpRevision = some t.control.config.revision) :
    let u := pollFrpListener build net a status t
    Copies u ∧ CallsAuthentic net (.frpListenerPoll a status) t u := by
  simp only [pollFrpListener]
  generalize handleFrpStatus build status frpResponseBytes t.control t.frpStatusSeen = reply
  have spec := frpListenerPoll_spec net.hmacSha256 a t.now (fun _ => (reply.http, reply.response))
    t.listener copies.closed
  obtain ⟨⟨called, listener⟩, polled⟩ : ∃ polled, frpListenerPoll net.hmacSha256 a t.now
    (fun _ => (reply.http, reply.response)) t.listener = polled := ⟨_, rfl⟩
  rw [polled] at spec
  obtain ⟨keeps, authentic⟩ := spec
  simp only [polled]
  have held : Trusted EspBase.frpKey configVersion t.control (listener.configured = true)
      (t.frpRevision.map UInt32.toNat) listener.key := by
    rw [keeps.configured, keeps.key]
    exact copies.frp
  cases called with
  | none =>
    exact ⟨⟨copies.mqtt, held, keeps.closed copies.closed⟩, .inl ⟨rfl, fun _ => ⟨rfl, rfl⟩⟩⟩
  | some request =>
    refine ⟨⟨copies.mqtt, held, keeps.closed copies.closed⟩, .inr ⟨.frp request, rfl, ?_⟩⟩
    obtain ⟨configured, proven⟩ := authentic request rfl
    rwa [copies.frpKey (fresh configured) configured] at proven

theorem CallsAuthentic.silent {label : TaskLabel} {t u : ControlTask} (same : u.calls = t.calls)
    (inside : label.network = false) : CallsAuthentic net label t u :=
  .inl ⟨same, fun network => by simp [inside] at network⟩

theorem taskAct_keys (label : TaskLabel) (t u : ControlTask) (usb : t.control.replyMqtt = false)
    (exclusive : Exclusive t.control) (mirrored : Mirrored t.control) (copies : Copies t)
    (fresh : Refreshed t) (acted : taskAct build net label t = u) :
    Copies u ∧ Refreshed u ∧ CallsAuthentic net label t u := by
  have moves (next : Label) := step_config build next t.control usb exclusive mirrored
  have kept (next : Label) (other : ∀ now a, next ≠ .pollConfiguration now a) :
      (step build next t.control).config = t.control.config := by
    refine (moves next).resolve_right ?_
    rintro ⟨⟨now, a, same⟩, -⟩
    exact other now a same
  unfold taskAct at acted
  split at acted
  next label =>
    split at acted
    next outside =>
      subst acted
      have same := kept label (by rintro now a rfl; cases outside)
      exact ⟨copies.moved _ (.inl same), fresh.moved _ same, .silent net rfl rfl⟩
    next =>
      subst acted
      exact ⟨copies, fresh, .silent net rfl rfl⟩
  next now a here =>
    subst acted
    have moved := copies.moved _ (.inl (kept (.wifiPoll now a) (by simp)))
    exact ⟨⟨moved.mqtt, moved.frp, moved.closed⟩, trivial, .silent net rfl rfl⟩
  next a here =>
    subst acted
    have moved := copies.moved _ ((moves (.pollConfiguration t.now a)).imp_right And.right)
    exact ⟨⟨moved.mqtt, moved.frp, moved.closed⟩, trivial, .silent net rfl rfl⟩
  next a here =>
    subst acted
    have moved := copies.moved _ (.inl (kept (.pollOta a) (by simp)))
    exact ⟨⟨moved.mqtt, moved.frp, moved.closed⟩, trivial, .silent net rfl rfl⟩
  next a here =>
    split at acted
    next =>
      subst acted
      exact ⟨⟨copies.mqtt, copies.frp, copies.closed⟩, trivial, .silent net rfl rfl⟩
    next =>
      subst acted
      have configured := configureMqtt_copies net a t copies
      refine ⟨⟨configured.mqtt, configured.frp, configured.closed⟩, configureMqtt_fresh net a t, ?_⟩
      exact .silent net (configureMqtt_calls net a t) rfl
  next timeReady a here =>
    obtain ⟨configured, key⟩ := mqttOwnerOpen_kept a t.now (wifiReady t.control.wifi) timeReady t.mqtt
    have entered := mqttOwnerOpen_usable a t.now (wifiReady t.control.wifi) timeReady t.mqtt
    simp only [Refreshed, here] at fresh
    subst acted
    refine ⟨⟨?_, copies.frp, copies.closed⟩, ?_, .silent net rfl rfl⟩
    · simpa only [configured, key] using copies.mqtt
    · by_cases going : (mqttOwnerOpen a t.now (wifiReady t.control.wifi) timeReady t.mqtt).1 = true
      · simpa [Refreshed, going, configured, fresh] using entered going
      · simp [Refreshed, going]
  next event a line answers left here =>
    simp only [Refreshed, here] at fresh
    obtain ⟨handled, stays, calls⟩ := handleMqttEvent_keys build net event a line answers t copies
      fresh.1 fresh.2 (kept (.line true answers line) (by simp))
    subst acted
    refine ⟨⟨handled.mqtt, handled.frp, handled.closed⟩, ?_, calls⟩
    by_cases more : (handleMqttEvent build net event a line answers t).1 = true
    · simpa [Refreshed, more] using stays
    · simp [Refreshed, more]
  next here =>
    subst acted
    exact ⟨⟨copies.mqtt, copies.frp, copies.closed⟩, trivial, .silent net rfl rfl⟩
  next destroyed here =>
    obtain ⟨configured, stays⟩ := configureFrp_copies destroyed t copies
    subst acted
    refine ⟨⟨configured.mqtt, configured.frp, configured.closed⟩, stays, ?_⟩
    exact .silent net (configureFrp_calls destroyed t) rfl
  next a status here =>
    simp only [Refreshed, here] at fresh
    obtain ⟨polled, calls⟩ := pollFrpListener_keys build net a status t copies fresh
    subst acted
    exact ⟨⟨polled.mqtt, polled.frp, polled.closed⟩, trivial, calls⟩
  next timeReady a here =>
    subst acted
    exact ⟨⟨copies.mqtt, copies.frp, copies.closed⟩, trivial, .silent net rfl rfl⟩
  next a line here =>
    have same := kept (.line false a line) (by simp)
    subst acted
    exact ⟨copies.moved _ (.inl same), fresh.moved _ same, .silent net rfl rfl⟩
  next here =>
    subst acted
    exact ⟨⟨copies.mqtt, copies.frp, copies.closed⟩, trivial, .silent net rfl rfl⟩
  next =>
    subst acted
    exact ⟨copies, fresh, .inl ⟨rfl, fun _ => ⟨rfl, rfl⟩⟩⟩

theorem taskStep_keys (label : TaskLabel) (t : ControlTask) (usb : t.control.replyMqtt = false)
    (exclusive : Exclusive t.control) (mirrored : Mirrored t.control) (copies : Copies t)
    (fresh : Refreshed t) :
    Copies (taskStep build net label t) ∧ Refreshed (taskStep build net label t) ∧
      CallsAuthentic net label t (taskStep build net label t) := by
  unfold taskStep
  split
  · exact ⟨copies, fresh, .inl ⟨rfl, fun _ => ⟨rfl, rfl⟩⟩⟩
  · exact taskAct_keys build net label t _ usb exclusive mirrored copies fresh rfl

theorem boot_copies (b : Boot) : Copies b.task :=
  ⟨Trusted.untaken nofun, Trusted.untaken nofun, nofun⟩

/-- In every boot that began with a successful load: what a step hands to `handle_mqtt_command` or
`handle_frp_status` was authenticated under the key of the configuration as it stands, and a message
or a request that is not handed on changes nothing of the control task or the replay table. -/
theorem keys_revoked (b : Boot) (faults : ConfigLoadFaults)
    (loaded : remoteConfigLoad faults b.configStore = .ok b.config) (labels : List TaskLabel)
    (label : TaskLabel) :
    let t := runTask build net b labels
    let u := taskStep build net label t
    (u.calls = t.calls ∧
        (label.network = true → u.control = t.control ∧ u.frpStatusSeen = t.frpStatusSeen)) ∨
      ∃ call, u.calls = t.calls ++ [call] ∧ call.Authentic net t.control.config := by
  have control (earlier : List TaskLabel) :
      (runTask build net b earlier).control.replyMqtt = false ∧
        Exclusive (runTask build net b earlier).control ∧
        Mirrored (runTask build net b earlier).control := by
    obtain ⟨taken, same⟩ := runTask_control build net b earlier
    obtain ⟨usb, mirrored, -⟩ := mirrored_reached build b faults loaded taken
    rw [same]
    exact ⟨usb, (exclusive_reached build b taken).2, mirrored⟩
  have held : Copies (runTask build net b labels) ∧ Refreshed (runTask build net b labels) := by
    refine @run_invariant_at _ _ _ (fun t => Copies t ∧ Refreshed t) labels b.task ?_
      ⟨boot_copies b, trivial⟩
    rintro earlier label later - ⟨copies, fresh⟩
    obtain ⟨usb, exclusive, mirrored⟩ := control earlier
    obtain ⟨after, still, -⟩ := taskStep_keys build net label _ usb exclusive mirrored copies fresh
    exact ⟨after, still⟩
  obtain ⟨usb, exclusive, mirrored⟩ := control labels
  exact (taskStep_keys build net label _ usb exclusive mirrored held.1 held.2).2.2

theorem taskStep_committed (a : ConfigurationAnswers) (t : ControlTask) (config : RemoteConfig) (stored : BlobCell)
    (awake : t.control.restarted = false) (place : t.place = .configuration) (active : t.control.trialActive = true)
    (early : (trialReady t.control && decide (t.now < t.control.trialDeadline)) = true)
    (wrote : remoteConfigCommitVerified a.commit t.control.candidate t.control.candidate.revision
      t.control.configStore = (.ok config, stored)) :
    taskStep build net (.pollConfiguration a) t =
      { t with
        control := saveOutcome t.control.trialSlot .succeeded none
          (some (snapshot build a.snapshot { t.control.committed t.now stored with config := config }))
          { t.control.committed t.now stored with config := config }
        place := .ota } := by
  have committed := commitTrial_ok build t.now a t.control config stored wrote
  have polls : step build (.pollConfiguration t.now a) t.control = commitTrial build t.now a t.control := by
    unfold step
    rw [awake]
    change pollConfiguration build t.now a t.control = _
    unfold pollConfiguration
    rw [if_neg (by simp [active]), if_pos early]
  unfold taskStep
  rw [awake]
  unfold taskAct
  rw [place]
  simp only [polls, committed]
  rfl

def sampleNetwork : NetworkBuild := { hmacSha256 := fun key _ => key, willPayloadBytes := 256 }

-- The rest of the array is zero.
def textArray (capacity : Nat) (bytes : List UInt8) (fits : bytes.length ≤ capacity) : Vector UInt8 capacity :=
  ⟨(bytes ++ List.replicate (capacity - bytes.length) 0).toArray, by simp; omega⟩

def keyedConfig (byte : UInt8) : RemoteConfig :=
  { RemoteConfig.zero with
    revision := 7
    wifi := sampleWifi
    mqtt :=
      { configured := true
        hostname := textArray 254 (bytesOf "broker") (by decide)
        port := 8883
        username := textArray 129 (bytesOf "base") (by decide)
        password := textArray 257 (bytesOf "secret") (by decide)
        caPem := textArray 4097 (beginCertificate ++ endCertificate) (by decide)
        managementKey := Vector.replicate 32 byte } }

def keyedBytes : List UInt8 := (configEncode (keyedConfig 0xaa)).getD []

def keyedBoot : Boot := { sampleBoot with config := keyedConfig 0xaa, configStore := .holds keyedBytes }

theorem encoded_getD (config : RemoteConfig) (encodes : (configEncode config).isSome = true) :
    configEncode config = some ((configEncode config).getD []) := by
  obtain ⟨bytes, encoded⟩ := Option.isSome_iff_exists.mp encodes
  rw [encoded]
  rfl

theorem keyedConfig_loaded : remoteConfigLoad {} keyedBoot.configStore = .ok keyedBoot.config :=
  remoteConfigLoad_encoded (keyedConfig 0xaa) keyedBytes (encoded_getD _ (by decide +kernel)) (by decide +kernel)

def keyedMessage (digits : String) : TaskLabel :=
  .mqttEvent
    (.message
      { topic := .ofBytes (bytesOf "esp-base/1a2b3c4d-0000-4000-8000-000000000001/command")
        qos := 1
        retain := false
        payload := (List.replicate 32 (bytesOf digits)).flatten ++ bytesOf "\n\x7b\x7d" })
    {} (sampleOtaStart otherDevice) (sampleAnswersAt 600)

def stationAddressed : List TaskLabel :=
  [.around (.wifiEvent .associated), .around (.wifiEvent .gotAddress), .wifiPoll 500 { events := fun _ => sampleAddress }]

def trialPoll : ConfigurationAnswers := { snapshot := (sampleAnswersAt 600).snapshot }

def mqttServed : List TaskLabel :=
  [.pollOta {}, .mqttConfigure {}, .mqttPoll true {},
    .mqttEvent .ready {} (sampleOtaStart otherDevice) (sampleAnswersAt 600)]

def servedPass : List TaskLabel := stationAddressed ++ .pollConfiguration trialPoll :: mqttServed

def replacingKey : Parsed :=
  { error := none
    command :=
      { kind := .configSet
        request := samplePresented sampleDevice
        config := keyedConfig 0xbb
        ota := .zero
        operationId := .empty } }

-- The pass goes on to a line that sets the other key, and the next one selects its network.
def keyReplacing : List TaskLabel :=
  servedPass ++ keyedMessage "aa" ::
    [.mqttDrained, .frpConfigure .ok,
      .frpListenerPoll {}
        { parsed := { error := none, request := samplePresented sampleDevice }
          now := 600
          snapshot := (sampleAnswersAt 600).snapshot },
      .frpOwnerPoll true {}, .line (sampleAnswersAt 700) replacingKey, .passEnd,
      .around (.wifiEvent .stopped), .around (.wifiEvent .started)] ++ stationAddressed

def replacedPass : List TaskLabel := keyReplacing ++ .pollConfiguration trialPoll :: mqttServed

def replacingTask : ControlTask := runTask unsignedBuild sampleNetwork keyedBoot keyReplacing

def replacedConfig : RemoteConfig :=
  { replacingTask.control.candidate with revision := replacingTask.control.candidate.revision + 1 }

def replacedBytes : List UInt8 := (configEncode replacedConfig).getD []

def replacedControl : Control :=
  { replacingTask.control.committed replacingTask.now (.holds replacedBytes) with config := replacedConfig }

-- The commit of the other key, without its readback.
def replacedTask : ControlTask :=
  { replacingTask with
    control := saveOutcome replacingTask.control.trialSlot .succeeded none
      (some (snapshot unsignedBuild trialPoll.snapshot replacedControl)) replacedControl
    place := .ota }

theorem replacing_trial :
    (replacingTask.control.restarted = false ∧ replacingTask.place = .configuration ∧
        replacingTask.control.trialActive = true ∧
        (trialReady replacingTask.control && decide (replacingTask.now < replacingTask.control.trialDeadline)) = true) ∧
      (replacingTask.control.configStore = .holds keyedBytes ∧ configValid replacingTask.control.candidate = true ∧
        (keyedConfig 0xaa).revision = replacingTask.control.candidate.revision ∧
        replacingTask.control.candidate.revision ≠ 0xffffffff) ∧
      (configEncode replacedConfig).isSome = true ∧
      ¬(replacedBytes.length < configHeaderBytes ∨ replacedBytes.length > configMaxBytes) := by
  decide +kernel

theorem replacing_replaced :
    taskStep unsignedBuild sampleNetwork (.pollConfiguration trialPoll) replacingTask = replacedTask := by
  obtain ⟨⟨awake, place, active, early⟩, ⟨stored, valid, current, room⟩, encodes, sized⟩ := replacing_trial
  have wrote := remoteConfigCommitVerified_faultless replacingTask.control.candidate (keyedConfig 0xaa)
    (.holds keyedBytes) replacedBytes valid keyedConfig_loaded current room (encoded_getD _ encodes) sized
  rw [← stored] at wrote
  exact taskStep_committed unsignedBuild sampleNetwork trialPoll replacingTask replacedConfig (.holds replacedBytes)
    awake place active early wrote

theorem replacedPass_task : runTask unsignedBuild sampleNetwork keyedBoot replacedPass =
    run (taskStep unsignedBuild sampleNetwork) mqttServed replacedTask := by
  rw [replacedPass, runTask, run_append, run_cons, ← replacing_replaced, replacingTask]

theorem replaced_calls :
    let u := run (taskStep unsignedBuild sampleNetwork) mqttServed replacedTask
    u.control.config.mqtt.managementKey = Vector.replicate 32 0xbb ∧
      (taskStep unsignedBuild sampleNetwork (keyedMessage "aa") u).calls.length = u.calls.length ∧
      (taskStep unsignedBuild sampleNetwork (keyedMessage "bb") u).calls.length ≠ u.calls.length := by
  decide +kernel

theorem keys_revoked_replaced :
    let t := runTask unsignedBuild sampleNetwork keyedBoot servedPass
    let u := runTask unsignedBuild sampleNetwork keyedBoot replacedPass
    (t.control.config.mqtt.managementKey = Vector.replicate 32 0xaa ∧
      ∃ call, (taskStep unsignedBuild sampleNetwork (keyedMessage "aa") t).calls = t.calls ++ [call] ∧
        call.Authentic sampleNetwork t.control.config) ∧
      u.control.config.mqtt.managementKey = Vector.replicate 32 0xbb ∧
      (taskStep unsignedBuild sampleNetwork (keyedMessage "aa") u).control = u.control ∧
      ∃ call, (taskStep unsignedBuild sampleNetwork (keyedMessage "bb") u).calls = u.calls ++ [call] ∧
        call.Authentic sampleNetwork u.control.config := by
  have revoked := keys_revoked unsignedBuild sampleNetwork keyedBoot {} keyedConfig_loaded
  have before := revoked servedPass (keyedMessage "aa")
  have old := revoked replacedPass (keyedMessage "aa")
  have new := revoked replacedPass (keyedMessage "bb")
  rw [replacedPass_task] at old new ⊢
  obtain ⟨key, silent, handed⟩ := replaced_calls
  refine ⟨⟨by decide +kernel, before.resolve_left ?_⟩, key, ?_, new.resolve_left ?_⟩
  · rintro ⟨same, -⟩
    exact absurd (congrArg List.length same) (by decide +kernel)
  · rcases old with ⟨-, kept⟩ | ⟨call, called, -⟩
    · exact (kept rfl).1
    · rw [called, List.length_append] at silent
      exact absurd silent (by simp)
  · rintro ⟨same, -⟩
    exact handed (congrArg List.length same)

end EspBase

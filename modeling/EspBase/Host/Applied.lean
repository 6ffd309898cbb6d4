import EspBase.Config.Bijection
import EspBase.Host.Apply
import EspBase.Host.Attribution
import EspBase.Host.SentConfig
import EspBase.Protocol.Conflicts

set_option autoImplicit false

namespace EspBase

open DurableCell Transition Unicode

theorem stateOf_answer (a : Answer) : stateOf (a.members.map Member.entry) = pointsOf (bytesOf a.state.text) := by
  have state := a.item "state" 4 (by decide)
  rw [stateOf, state]
  rfl

theorem succeeded_text (state : ResultState) (same : pointsOf (bytesOf state.text) = text "succeeded") :
    state = .succeeded := by
  revert same
  cases state with
  | succeeded => exact fun _ => rfl
  | _ =>
    intro same
    exact absurd same (by decide)

theorem Answer.Formed.loaded_same {a other : Answer} (formed : a.Formed) (spoken : other.Formed)
    (same : a.usb = other.usb) : a.loaded = other.loaded := by
  have bytes : a.bytes = other.bytes := by simpa [Answer.usb] using same
  have first := formed.loads 4 (by decide)
  have second := spoken.loads 4 (by decide)
  rw [bytes, second] at first
  injection first.symm

theorem configOf_next (revision : Nat) (config : Json) (valid : validateConfiguration config = .ok ()) :
    nextRevision (configOf revision config) = configOf (revision + 1) config := by
  cases config with
  | dict fields => simp [nextRevision, configOf, UInt32.ofNat_add]
  | _ => cases valid

theorem configRequest_decoded (decoder : DecoderBuild) {requestId deviceId bootId : CString} {uptime revision : Nat}
    {config : Json} (uuid : isUuid requestId) (device : isUuid deviceId) (boot : isUuid bootId)
    (whole : config.Regular) (valid : validateConfiguration config = .ok ()) (counted : revision < 4294967295)
    (short : (setRequest (pointsOf requestId.bytes) (pointsOf deviceId.bytes) (pointsOf bootId.bytes)
      ((uptime : Int) + 10000) revision config).dumps.length ≤ lineLimit)
    (reads : CJsonDenotes decoder.cjson (setRequest (pointsOf requestId.bytes) (pointsOf deviceId.bytes)
      (pointsOf bootId.bytes) ((uptime : Int) + 10000) revision config))
    (fine : (ebaseParseCommand decoder (setRequest (pointsOf requestId.bytes) (pointsOf deviceId.bytes)
      (pointsOf bootId.bytes) ((uptime : Int) + 10000) revision config).dumps).error = none) :
    ∃ command : Command, ebaseParseCommand decoder (setRequest (pointsOf requestId.bytes) (pointsOf deviceId.bytes)
        (pointsOf bootId.bytes) ((uptime : Int) + 10000) revision config).dumps = decoded command ∧
      command.kind = .configSet ∧ command.config = configOf revision config := by
  by_cases late : 9007199254740991 < (uptime : Int) + 10000
  · exact absurd fine (late_refused decoder uuid device boot whole late short reads)
  · let h : SetHeader :=
      { requestId, deviceId, bootId, expires := uptime + 10000, revision, request := uuid, device, boot
        deadline := by omega
        counted := by omega }
    have sent : h.sent config = setRequest (pointsOf requestId.bytes) (pointsOf deviceId.bytes)
        (pointsOf bootId.bytes) ((uptime : Int) + 10000) revision config := by
      simp [h, SetHeader.sent]
    rw [← sent] at short reads ⊢
    exact ⟨h.command config, sent_decoded decoder h config whole short reads valid, rfl, rfl⟩

theorem receipt_attributed {build : Build} (names : build.eota.Names) (decoder : DecoderBuild) (b : Boot)
    (device : isUuid b.deviceId) (boot : isUuid b.bootId) (labels : List Label)
    (received : ∀ label ∈ labels, label.Received decoder) {requestId : CString}
    (attributed : Attributed requestId (runBoot build b labels)) (room : Nat) (calls : 4 ≤ room)
    (noise : List (List UInt8)) (each : noise.length = (usbTexts (runBoot build b labels).log).length)
    (unlike : ∀ piece ∈ noise, Unlike room (pointsOf requestId.bytes) piece) (receipt : List (Text × Loaded))
    (yielded : .dict receipt ∈ (readResult room (pointsOf requestId.bytes)
      (usbStream noise (usbTexts (runBoot build b labels).log))).yielded) :
    ∃ a : Answer, a.deviceId = b.deviceId ∧ a.bootId = b.bootId ∧ receipt = a.members.map Member.entry ∧
      (stateOf receipt = text "succeeded" →
        ∃ slot held out, (runBoot build b labels).guard.requests[slot]? = some held ∧ held.requestId = requestId ∧
          .saved slot out ∈ (runBoot build b labels).log ∧ out.state = some .succeeded) := by
  have speaks := run_speaks names decoder b device boot labels received
  obtain ⟨deviceId, bootId⟩ := identity_reached build b labels
  have talk : Conversation (runBoot build b labels).deviceId (runBoot build b labels).bootId
      (runBoot build b labels).log := speaks.log
  rw [deviceId, bootId] at talk
  obtain ⟨answers, spoken⟩ := talk.usb
  rw [spoken.texts, List.length_map] at each
  rw [spoken.texts] at yielded
  have heard := (readResult_answers room calls requestId answers spoken.formed noise each unlike).1
  obtain ⟨a, chosen, loaded⟩ := List.mem_map.mp (heard.subset yielded)
  obtain ⟨member, named⟩ := List.mem_filter.mp chosen
  obtain ⟨other, formed, same, rests⟩ := attributed a.usb (by
    rw [spoken.texts]
    exact List.mem_map_of_mem member)
  obtain rfl := Loaded.dict.inj loaded
  have alike := formed.loaded_same (spoken.formed a member) same
  refine ⟨a, spoken.device a member, spoken.boot a member, rfl, fun state => ?_⟩
  have addressed : other.requestId = some requestId := by
    rw [← formed.answers_iff requestId, alike, (spoken.formed a member).answers_iff requestId]
    simpa using named
  rw [← Loaded.dict.inj alike, stateOf_answer] at state
  obtain ⟨slot, held, out, here, mine, saved, success, -⟩ := rests addressed (succeeded_text other.state state)
  exact ⟨slot, held, out, here, mine, saved, success⟩

theorem sameText_answer (a : Answer) (current : List (Text × Loaded)) (key : String) (i : Nat)
    (index : resultKeys.findIdx (fun held => held == text key) = i) (value : Text)
    (here : (a.members[i]?).map Member.value = some (.str value))
    (same : sameText (item (a.members.map Member.entry) key) (item current key) = true) :
    item current key = some (.str value) := by
  rw [a.item key i index, here] at same
  unfold sameText at same
  split at same
  next first second one other =>
    obtain rfl := Loaded.str.inj (Option.some.inj one)
    rw [other, beq_iff_eq.mp same]
  · cases same

/-- What the host takes for a success is a commit of what it sent: when `apply_configuration` returns a receipt
for what `status` reported and a loaded configuration, that device in that boot was given the request over USB, and
the configuration had become durable there with the next revision. -/
theorem applied_committed {build : Build} (names : build.eota.Names) (decoder : DecoderBuild) (b : Boot)
    (device : isUuid b.deviceId) (boot : isUuid b.bootId) (labels : List Label)
    (received : ∀ label ∈ labels, label.Received decoder)
    (ask : Text) (asking write : List UInt8 → Except HostError Nat) (room : Nat) (calls : 4 ≤ room)
    (stream : List UInt8) (current : List (Text × Loaded))
    (reported : status asking ask (readResult room ask stream) = .ok current)
    (requestId : CString) (uuid : isUuid requestId) (config : Json) (whole : config.Regular)
    (revision : Nat) (request : Json) (known : currentRevision current = .ok revision)
    (asked : configRequest current (pointsOf requestId.bytes) revision config = .ok request)
    (reads : CJsonDenotes decoder.cjson request)
    (carries : ∀ label ∈ labels, label.Carries requestId (ebaseParseCommand decoder request.dumps))
    (noise : List (List UInt8)) (each : noise.length = (usbTexts (runBoot build b labels).log).length)
    (unlike : ∀ piece ∈ noise, Unlike room (pointsOf requestId.bytes) piece)
    (floatIs : Text → Int → Bool) (receipt : List (Text × Loaded))
    (returned : applyConfiguration floatIs write current config (pointsOf requestId.bytes)
      (readResult room (pointsOf requestId.bytes)
        (usbStream noise (usbTexts (runBoot build b labels).log))) = .ok receipt) :
    item current "device_id" = some (.str (pointsOf b.deviceId.bytes)) ∧
      item current "boot_id" = some (.str (pointsOf b.bootId.bytes)) ∧
      (∃ a, .line false a (ebaseParseCommand decoder request.dumps) ∈ labels) ∧
      ∃ earlier, earlier <+: labels ∧
        durableConfig (runBoot build b earlier).configStore = some (configOf (revision + 1) config) := by
  obtain ⟨deviceId, bootId, uptime, deviceUuid, bootUuid, deviceText, bootText, counted, -⟩ :=
    status_ok asking ask room stream current reported
  obtain ⟨valid, _, _, again, asks, sent, evidence⟩ :=
    applyConfiguration_ok floatIs write current config _ _ receipt returned
  obtain rfl := Except.ok.inj (known.symm.trans again)
  obtain rfl := Except.ok.inj (asked.symm.trans asks)
  obtain rfl := configRequest_ok current _ revision config request _ _ _ deviceText bootText counted asked
  have short := (sendLine_ok _ _ (send_ok write _ sent).1).2
  have decodes := configRequest_decoded decoder uuid deviceUuid bootUuid whole valid (currentRevision_ok _ _ known)
    short reads
  generalize setRequest (pointsOf requestId.bytes) (pointsOf deviceId.bytes) (pointsOf bootId.bytes)
    ((uptime : Int) + 10000) revision config = request at decodes carries ⊢
  have attributed : Attributed requestId (runBoot build b labels) := by
    refine run_attributed names decoder b device boot _ (fun fine => ?_) labels received carries
    obtain ⟨command, parsed, kind, -⟩ := decodes fine
    rw [parsed]
    exact kind
  obtain ⟨a, answeredDevice, answeredBoot, rfl, rests⟩ := receipt_attributed names decoder b device boot labels
    received attributed room calls noise each unlike receipt evidence.yielded
  obtain ⟨slot, held, out, here, mine, saved, success⟩ := rests evidence.state
  obtain ⟨line, commit⟩ := success_commit build b labels slot out saved success
  obtain ⟨there, kept, id⟩ := commit.held
  rw [here] at kept
  obtain rfl := Option.some.inj kept
  obtain ⟨lineAnswers, used⟩ := commit.sent
  have one : line = ebaseParseCommand decoder request.dumps := carries _ used (id.symm.trans mine)
  obtain ⟨command, parsed, -, means⟩ := decodes (one ▸ commit.parsed)
  obtain ⟨earlier, first, durable⟩ := commit.durable
  refine ⟨?_, ?_, ⟨lineAnswers, one ▸ used⟩, earlier, first, ?_⟩
  · exact sameText_answer a current "device_id" 1 (by decide) _ (by rw [← answeredDevice]; rfl) evidence.device
  · exact sameText_answer a current "boot_id" 2 (by decide) _ (by rw [← answeredBoot]; rfl) evidence.boot
  · rw [durable, one, parsed]
    change some (nextRevision command.config) = _
    rw [means, configOf_next revision config valid]

def setConfig : Json :=
  .dict [(text "schema_version", .int 3), (text "wifi", .null), (text "mqtt", .null), (text "frp", .null),
    (text "business", .null)]

def setHeader : SetHeader where
  requestId := .ofBytes (bytesOf "1a2b3c4d-0000-4000-8000-0000000000c0")
  deviceId := sampleDevice
  bootId := sampleBootId
  expires := 10000
  revision := 0
  request := by decide
  device := by decide
  boot := by decide
  deadline := by decide
  counted := by decide

theorem setConfig_regular : setConfig.Regular := by
  have five : ([text "schema_version", text "wifi", text "mqtt", text "frp", text "business"]).Nodup := by decide
  exact ⟨five, name_joined _ (by decide), trivial, name_joined _ (by decide), trivial, name_joined _ (by decide),
    trivial, name_joined _ (by decide), trivial, name_joined _ (by decide), trivial, trivial⟩

theorem setConfig_sent : sendLine (setHeader.sent setConfig) = .ok (setHeader.sent setConfig).dumps := by
  have written : (setHeader.sent setConfig).written = true := by decide
  have short : ¬(setHeader.sent setConfig).dumps.length > 9216 := by decide +kernel
  simp [sendLine, jsonDumps, written, short]

theorem unset_valid : configValid .zero = true := by decide +kernel

def setCommand : Command := setHeader.command setConfig

theorem setLine_decoded :
    ebaseParseCommand (denoting (setHeader.sent setConfig)) (setHeader.sent setConfig).dumps = decoded setCommand :=
  sent_decoded _ setHeader setConfig setConfig_regular (sendLine_ok _ _ setConfig_sent).2 (denoting_denotes _) rfl

def setGuard : Guard := { requests := [setCommand.request], bounded := by decide }

theorem setCommand_presents : fingerprinted signedBuild true setCommand = some setCommand.request := by
  have valid : configValid setCommand.config = true := unset_valid
  obtain ⟨bytes, encoded⟩ := Option.isSome_iff_exists.mp ((configEncode_isSome _).mpr valid)
  have hashed : configFingerprintBytes setCommand.config = some (bytesOf "config.set" ++ bytes) := by
    rw [configFingerprintBytes, encoded]
    rfl
  have kind : setCommand.kind = .configSet := rfl
  unfold fingerprinted
  simp only [kind, hashed, if_true]
  rfl

theorem setCommand_admitted :
    ebaseAdmit .empty setCommand.request sampleDevice sampleBootId 1000 = (.accept, 0, setGuard) := by
  decide

-- The runtime that has nothing to connect to.
theorem unset_applied :
    (wifiApply {} RemoteConfig.zero.wifi 1000 sampleBoot.control.wifi).1 = .ok ∧
      (wifiApply {} RemoteConfig.zero.wifi 1000 sampleBoot.control.wifi).2.state = .unconfigured := by
  decide

theorem startTrial_applied (a : LineAnswers) (config : RemoteConfig) (slot : Nat) (s : Control) (wifi : WifiRuntime)
    (applied : wifiApply a.apply config.wifi a.applyNow s.wifi = (.ok, wifi)) :
    startTrial a config slot s =
      { saveOutcome slot .running none none (s.trying slot config a.deadlineNow) with
        wifi := wifi, trialActive := true } := by
  unfold startTrial
  simp only [saveOutcome_eq, Control.trying, applied, ne_eq, not_true_eq_false, if_false]

def triedSet : Control :=
  { saveOutcome 0 .running none none
      ((sampleBoot.control.accept 0 setCommand.request setGuard).trying 0 .zero 1000) with
    wifi := (wifiApply {} RemoteConfig.zero.wifi 1000 sampleBoot.control.wifi).2
    trialActive := true }

theorem setLine_reached :
    step signedBuild (.line false (sampleAnswersAt 1000) (decoded setCommand))
      sampleBoot.control = triedSet := by
  have line : WriteLine signedBuild (sampleAnswersAt 1000) (decoded setCommand) setCommand.request :=
    ⟨rfl, nofun, nofun, setCommand_presents⟩
  have write : handleWrite signedBuild (sampleAnswersAt 1000) setCommand setCommand.request sampleBoot.control =
      execute signedBuild (sampleAnswersAt 1000) setCommand 0
        (sampleBoot.control.accept 0 setCommand.request setGuard) := by
    unfold handleWrite
    rw [show ebaseAdmit sampleBoot.control.guard setCommand.request sampleBoot.control.deviceId
      sampleBoot.control.bootId (sampleAnswersAt 1000).admitNow = _ from setCommand_admitted]
  have fine : configSetError setCommand.config (sampleBoot.control.accept 0 setCommand.request setGuard) = none := by
    decide
  have run : execute signedBuild (sampleAnswersAt 1000) setCommand 0
      (sampleBoot.control.accept 0 setCommand.request setGuard) =
        startTrial (sampleAnswersAt 1000) .zero 0 (sampleBoot.control.accept 0 setCommand.request setGuard) := by
    unfold execute
    simp only [setCommand] at fine ⊢
    rw [fine]
    rfl
  have started := startTrial_applied (sampleAnswersAt 1000) .zero 0
    (sampleBoot.control.accept 0 setCommand.request setGuard) _ (Prod.ext unset_applied.1 rfl)
  rw [step_line signedBuild _ _ false sampleBoot.control rfl rfl,
    handleLine_write signedBuild _ _ _ _ line, withChannel_same sampleBoot.control false rfl]
  change Control.withChannel false (handleWrite signedBuild (sampleAnswersAt 1000) setCommand setCommand.request
    sampleBoot.control) = triedSet
  rw [write, run, started]
  exact withChannel_same triedSet false (by rw [triedSet, saveOutcome_eq]; rfl)

def pollAnswers : ConfigurationAnswers := { snapshot := (sampleAnswersAt 1100).snapshot }

structure TriedSet (s : Control) : Prop where
  active : s.trialActive = true
  candidate : s.candidate = .zero
  deadline : s.trialDeadline = 21000
  slot : s.trialSlot = 0
  awake : s.restarted = false
  idle : s.otaActive = false
  received : s.otaReceived = 0
  store : s.configStore = .absent
  wifi : s.wifi.state = .unconfigured
  ids : s.deviceId = sampleDevice ∧ s.bootId = sampleBootId
  guard : s.guard = setGuard
  routed : (s.outcomes 0).viaMqtt = false
  log : s.log = [.accepted 0 false setCommand.request, .trialStarted 0 .zero 1000 .absent,
    .saved 0 (savedOutcome false .running none none)] ++
      sentResult sampleDevice sampleBootId false setCommand.request.requestId (some .running) none none

theorem triedSet_tried : TriedSet triedSet := by
  rw [triedSet, saveOutcome_eq]
  constructor
  case wifi => exact unset_applied.2
  case ids => exact ⟨rfl, rfl⟩
  case log => simp [emission, savedOutcome, Boot.control, slotRequestId, setGuard, sampleBoot]
  case routed => simp [savedOutcome, Boot.control]
  all_goals rfl

section Tried

variable {s : Control}

theorem TriedSet.ready (tried : TriedSet s) : trialReady s = true := by
  unfold trialReady
  rw [tried.candidate, tried.wifi, if_neg (by decide)]
  rfl

theorem TriedSet.wrote (tried : TriedSet s) :
    ∃ written, remoteConfigCommitVerified pollAnswers.commit s.candidate s.candidate.revision s.configStore =
      (.ok (nextRevision .zero), written) := by
  have next : configValid (nextRevision .zero) = true := unset_valid
  obtain ⟨bytes, encoded⟩ := Option.isSome_iff_exists.mp ((configEncode_isSome _).mpr next)
  obtain ⟨least, most⟩ := configEncode_length _ bytes encoded
  rw [tried.candidate, tried.store]
  exact ⟨_, remoteConfigCommitVerified_faultless .zero .zero .absent bytes unset_valid rfl rfl (by decide) encoded
    (by omega)⟩

theorem TriedSet.polled (tried : TriedSet s) :
    step signedBuild (.pollConfiguration 1100 pollAnswers) s = commitTrial signedBuild 1100 pollAnswers s := by
  have early : (trialReady s && decide (1100 < s.trialDeadline)) = true := by
    rw [tried.ready, tried.deadline]
    rfl
  unfold step
  rw [tried.awake]
  change pollConfiguration signedBuild 1100 pollAnswers s = _
  unfold pollConfiguration
  rw [if_neg (by simp [tried.active]), if_pos early]

def setStatus (written : BlobCell) (s : Control) : StatusSnapshot :=
  snapshot signedBuild pollAnswers.snapshot { s.committed 1100 written with config := nextRevision .zero }

theorem TriedSet.sized (tried : TriedSet s) (written : BlobCell) : (setStatus written s).Sized := by
  constructor
  case uptime => exact (by decide : 1100 < 2 ^ 64)
  case freeHeap => exact Nat.two_pow_pos 32
  case minimumFreeHeap => exact Nat.two_pow_pos 32
  case otaReceived => simp [setStatus, snapshot, tried.received]
  case otaTotal => simp [setStatus, snapshot, tried.idle]

theorem TriedSet.committed (tried : TriedSet s) :
    ∃ written, step signedBuild (.pollConfiguration 1100 pollAnswers) s =
      saveOutcome 0 .succeeded none (some (setStatus written s))
        { s.committed 1100 written with config := nextRevision .zero } := by
  obtain ⟨written, wrote⟩ := tried.wrote
  refine ⟨written, ?_⟩
  rw [tried.polled, commitTrial_ok signedBuild 1100 pollAnswers s _ written wrote, tried.slot]
  rfl

end Tried

def setRun : List Label :=
  [.line false (sampleAnswersAt 1000) (decoded setCommand), .pollConfiguration 1100 pollAnswers]

def setAnswer (state : ResultState) (status : Option StatusSnapshot) : Answer :=
  outcomeAnswer sampleDevice sampleBootId setCommand.request.requestId state none status

theorem setAnswer_formed (state : ResultState) (status : Option StatusSnapshot) (agrees : Agrees state none)
    (sized : ∀ x, status = some x → x.Sized) : (setAnswer state status).Formed :=
  outcomeAnswer_formed _ _ _ _ _ _ (by decide) (by decide) (.inr (by decide)) agrees sized

theorem setRun_texts :
    ∃ x, usbTexts (runBoot signedBuild sampleBoot setRun).log =
      [setAnswer .running none, setAnswer .succeeded (some x)].map Answer.usb ∧ x.revision = 1 ∧ x.Sized := by
  have tried := triedSet_tried
  obtain ⟨written, committed⟩ := tried.committed
  have sized := tried.sized written
  have reached : runBoot signedBuild sampleBoot setRun =
      saveOutcome 0 .succeeded none (some (setStatus written triedSet))
        { triedSet.committed 1100 written with config := nextRevision .zero } := by
    rw [runBoot, setRun, run_cons, run_cons, run_nil, setLine_reached, committed]
  refine ⟨setStatus written triedSet, ?_, rfl, sized⟩
  generalize setStatus written triedSet = x at reached sized
  generalize triedSet = s at tried reached
  have first := sentResult_answer sampleDevice sampleBootId setCommand.request.requestId false .running none none
    (setAnswer_formed .running none agrees_running (by simp))
  have second := sentResult_answer sampleDevice sampleBootId setCommand.request.requestId false .succeeded none (some x)
    (setAnswer_formed .succeeded (some x) agrees_succeeded (fun y same => Option.some.inj same ▸ sized))
  have log : (runBoot signedBuild sampleBoot setRun).log =
      ([.accepted 0 false setCommand.request, .trialStarted 0 .zero 1000 .absent,
        .saved 0 (savedOutcome false .running none none)] ++
          sentResult sampleDevice sampleBootId false setCommand.request.requestId (some .running) none none) ++
        ([.committing 1100 s.trialDeadline s.candidate s.wifi,
          .saved 0 (savedOutcome false .succeeded none (some x))] ++
            sentResult sampleDevice sampleBootId false setCommand.request.requestId (some .succeeded) none (some x)) := by
    rw [reached, saveOutcome_eq, ← tried.log]
    simp [tried.ids, tried.guard, tried.routed, emission, savedOutcome, slotRequestId, setGuard]
  rw [log, first, second]
  simp only [usbTexts_append]
  rfl

def askedStatus : StatusSnapshot := snapshot signedBuild (sampleAnswersAt 0).snapshot sampleBoot.control

def statusId : CString := .ofBytes (bytesOf "1a2b3c4d-0000-4000-8000-0000000000c1")

def statusAnswer : Answer := outcomeAnswer sampleDevice sampleBootId statusId .succeeded none (some askedStatus)

def setCurrent : List (Text × Loaded) := statusAnswer.members.map Member.entry

-- A port that takes all that it is given.
def wholeWrite (payload : List UInt8) : Except HostError Nat := .ok payload.length

theorem wholeWrite_send (request : Json) (sent : sendLine request = .ok request.dumps) :
    send wholeWrite request = .ok () := by
  simp [send, sent, wholeWrite]

theorem setCurrent_fields :
    item setCurrent "device_id" = some (.str (pointsOf sampleDevice.bytes)) ∧
      item setCurrent "boot_id" = some (.str (pointsOf sampleBootId.bytes)) ∧
      item setCurrent "result" = some (.dict ((statusMembers askedStatus).map Member.entry)) ∧
      item ((statusMembers askedStatus).map Member.entry) "uptime_ms" = some (.int 0) ∧
      item ((statusMembers askedStatus).map Member.entry) "revision" = some (.int 0) := by
  refine ⟨statusAnswer.item "device_id" 1 (by decide), statusAnswer.item "boot_id" 2 (by decide),
    statusAnswer.item "result" 6 (by decide), ?_, ?_⟩
  · rw [item_index]
    rfl
  · rw [item_index]
    rfl

theorem statusAnswer_formed : statusAnswer.Formed := by
  refine outcomeAnswer_formed _ _ _ _ _ _ (by decide) (by decide) (.inr (by decide)) agrees_succeeded ?_
  rintro x ⟨⟩
  exact (boot_speaks sampleBoot (by decide) (by decide)).snapshot _
    ⟨Nat.two_pow_pos 64, Nat.two_pow_pos 32, Nat.two_pow_pos 32⟩

theorem setCurrent_reported :
    status wholeWrite (pointsOf statusId.bytes)
      (readResult 4 (pointsOf statusId.bytes) (usbStream [consoleNoise] [statusAnswer.usb])) = .ok setCurrent := by
  have formed : ∀ a ∈ [statusAnswer], a.Formed := by simpa using statusAnswer_formed
  have quiet := consoleNoise_quiet (pointsOf statusId.bytes)
  have heard := (readResult_answers 4 (by decide) statusId [statusAnswer] formed [consoleNoise] rfl
    (by simpa using quiet.1)).2.mpr (by simpa using quiet.2)
  have mine : answersTo statusId [statusAnswer] = [statusAnswer.loaded] := by
    have named : statusAnswer.requestId = some statusId := by decide
    simp [answersTo, named]
  rw [mine] at heard
  have written : (statusRequest (pointsOf statusId.bytes)).written = true := by decide
  have short : ¬(statusRequest (pointsOf statusId.bytes)).dumps.length > 9216 := by decide +kernel
  have sent : sendLine (statusRequest (pointsOf statusId.bytes)) = .ok (statusRequest (pointsOf statusId.bytes)).dumps := by
    simp [sendLine, jsonDumps, written, short]
  obtain ⟨-, -, result, uptime, -⟩ := setCurrent_fields
  have state : stateOf setCurrent = text "succeeded" := by
    rw [setCurrent, stateOf_answer]
    change pointsOf (bytesOf ResultState.succeeded.text) = text "succeeded"
    decide
  have stream : usbStream [consoleNoise] [statusAnswer.usb] = usbStream [consoleNoise] ([statusAnswer].map Answer.usb) :=
    rfl
  rw [stream, heard, status, wholeWrite_send _ sent]
  change checkStatus setCurrent = .ok setCurrent
  unfold checkStatus
  rw [result]
  dsimp only
  rw [state, if_neg (by decide), uptime]
  rfl

theorem setCurrent_request :
    currentRevision setCurrent = .ok 0 ∧
      configRequest setCurrent (pointsOf setHeader.requestId.bytes) 0 setConfig = .ok (setHeader.sent setConfig) := by
  obtain ⟨device, boot, result, uptime, revision⟩ := setCurrent_fields
  constructor
  · simp only [currentRevision, resultField, result, revision]
    rfl
  · simp only [configRequest, textField, device, boot, currentUptime, resultField, result, uptime]
    rfl

theorem setReceipts_returned (floatIs : Text → Int → Bool) (ended : HostError) (x : StatusSnapshot)
    (revision : x.revision = 1) :
    applyReceipts floatIs setCurrent 0 ended
        [(setAnswer .running none).loaded, (setAnswer .succeeded (some x)).loaded] =
      .ok ((setAnswer .succeeded (some x)).members.map Member.entry) := by
  obtain ⟨device, boot, -⟩ := setCurrent_fields
  have same : (!sameText (some (.str (pointsOf sampleDevice.bytes))) (item setCurrent "device_id") ||
      !sameText (some (.str (pointsOf sampleBootId.bytes))) (item setCurrent "boot_id")) = false := by
    rw [device, boot]
    decide
  have mine (state : ResultState) (status : Option StatusSnapshot) :
      (!sameText (item ((setAnswer state status).members.map Member.entry) "device_id") (item setCurrent "device_id") ||
        !sameText (item ((setAnswer state status).members.map Member.entry) "boot_id") (item setCurrent "boot_id")) =
          false := by
    rw [(setAnswer state status).item "device_id" 1 (by decide), (setAnswer state status).item "boot_id" 2 (by decide)]
    exact same
  have reports : reportsRevision floatIs (0 + 1) ((setAnswer .succeeded (some x)).members.map Member.entry) = true := by
    have held := (setAnswer .succeeded (some x)).item "result" 6 (by decide)
    have inner : item ((statusMembers x).map Member.entry) "revision" = some (.int x.revision.toNat) := by
      rw [item_index]
      rfl
    rw [reportsRevision, held]
    change (item ((statusMembers x).map Member.entry) "revision").any (equalsInt floatIs (0 + 1)) = true
    rw [inner, revision]
    rfl
  have running : stateOf ((setAnswer .running none).members.map Member.entry) = text "running" := by
    rw [stateOf_answer]
    decide
  have succeeded : stateOf ((setAnswer .succeeded (some x)).members.map Member.entry) = text "succeeded" := by
    rw [stateOf_answer]
    change pointsOf (bytesOf ResultState.succeeded.text) = text "succeeded"
    decide
  have first : applyReceipts floatIs setCurrent 0 ended
      [(setAnswer .running none).loaded, (setAnswer .succeeded (some x)).loaded] =
        applyReceipts floatIs setCurrent 0 ended [(setAnswer .succeeded (some x)).loaded] := by
    rw [Answer.loaded, applyReceipts, if_neg (by rw [mine]; decide), running, if_neg (by decide), if_neg (by decide)]
  rw [first, Answer.loaded, applyReceipts, if_neg (by rw [mine]; decide), succeeded, if_neg (by decide),
    if_pos (by decide)]
  rw [show (((0 : Nat) : Int) + 1) = 0 + 1 from rfl, reports]
  rfl

theorem setRun_applied (floatIs : Text → Int → Bool) :
    ∃ receipt, applyConfiguration floatIs wholeWrite setCurrent setConfig (pointsOf setHeader.requestId.bytes)
      (readResult 4 (pointsOf setHeader.requestId.bytes)
        (usbStream [consoleNoise, consoleNoise] (usbTexts (runBoot signedBuild sampleBoot setRun).log))) =
          .ok receipt := by
  obtain ⟨x, texts, revision, sized⟩ := setRun_texts
  have formed : ∀ a ∈ [setAnswer .running none, setAnswer .succeeded (some x)], a.Formed := by
    simp only [List.forall_mem_cons, List.not_mem_nil, false_implies, implies_true, and_true]
    exact ⟨setAnswer_formed .running none agrees_running (by simp),
      setAnswer_formed .succeeded (some x) agrees_succeeded (fun y same => Option.some.inj same ▸ sized)⟩
  have quiet := consoleNoise_quiet (pointsOf setHeader.requestId.bytes)
  have heard := (readResult_answers 4 (by decide) setHeader.requestId _ formed [consoleNoise, consoleNoise] rfl
    (by simpa using quiet.1)).2.mpr (by simpa using quiet.2)
  have mine : answersTo setHeader.requestId [setAnswer .running none, setAnswer .succeeded (some x)] =
      [(setAnswer .running none).loaded, (setAnswer .succeeded (some x)).loaded] := rfl
  have valid : validateConfiguration setConfig = .ok () := by decide
  obtain ⟨known, asked⟩ := setCurrent_request
  rw [texts, heard, mine]
  refine ⟨(setAnswer .succeeded (some x)).members.map Member.entry, ?_⟩
  unfold applyConfiguration
  rw [valid, known]
  dsimp only
  rw [asked]
  dsimp only
  rw [wholeWrite_send _ setConfig_sent]
  exact setReceipts_returned floatIs _ x revision

theorem applied_committed_unset :
    item setCurrent "device_id" = some (.str (pointsOf sampleBoot.deviceId.bytes)) ∧
      item setCurrent "boot_id" = some (.str (pointsOf sampleBoot.bootId.bytes)) ∧
      (∃ a, .line false a (ebaseParseCommand (denoting (setHeader.sent setConfig)) (setHeader.sent setConfig).dumps) ∈
        setRun) ∧
      ∃ earlier, earlier <+: setRun ∧
        durableConfig (runBoot signedBuild sampleBoot earlier).configStore = some (configOf (0 + 1) setConfig) := by
  obtain ⟨receipt, returned⟩ := setRun_applied (fun _ _ => false)
  obtain ⟨x, texts, -, -⟩ := setRun_texts
  obtain ⟨known, asked⟩ := setCurrent_request
  have name : Identifier "resource_failure" := by decide
  have received : ∀ label ∈ setRun, label.Received (denoting (setHeader.sent setConfig)) := by
    simp only [setRun, List.forall_mem_cons, List.not_mem_nil, false_implies, implies_true, and_true]
    exact ⟨⟨⟨_, setLine_decoded.symm⟩, (by decide : 1000 < 2 ^ 64), Nat.two_pow_pos 32, Nat.two_pow_pos 32⟩,
      (by decide : 1100 < 2 ^ 64), Nat.two_pow_pos 32, Nat.two_pow_pos 32⟩
  have carries : ∀ label ∈ setRun, label.Carries setHeader.requestId
      (ebaseParseCommand (denoting (setHeader.sent setConfig)) (setHeader.sent setConfig).dumps) := by
    simp only [setRun, List.forall_mem_cons, List.not_mem_nil, false_implies, implies_true, and_true]
    exact ⟨fun _ => setLine_decoded.symm, trivial⟩
  exact @applied_committed signedBuild (fun _ => name) (denoting (setHeader.sent setConfig)) sampleBoot (by decide)
    (by decide) setRun received (pointsOf statusId.bytes) wholeWrite wholeWrite 4 (by decide) _ setCurrent
    setCurrent_reported setHeader.requestId (by decide) setConfig setConfig_regular 0 (setHeader.sent setConfig) known
    asked (denoting_denotes _) carries [consoleNoise, consoleNoise] (by rw [texts]; rfl)
    (by simpa using (consoleNoise_quiet _).1) (fun _ _ => false) receipt returned

end EspBase

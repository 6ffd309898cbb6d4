import EspBase.Protocol.Trials

set_option autoImplicit false

namespace EspBase

open Transition

variable (build : Build)

structure AdmitsSet (a : LineAnswers) (line : Parsed) (slot : Nat) (candidate : RemoteConfig)
    (s : Control) : Prop where
  parsed : line.error = none
  kind : line.command.kind = .configSet
  candidate : line.command.config = candidate
  admitted : ∃ request guard, fingerprinted build a.hashed line.command = some request ∧
    ebaseAdmit s.guard request s.deviceId s.bootId a.admitNow = (.accept, slot, guard)

def UsbSet (b : Boot) (labels : List Label) (slot : Nat) (candidate : RemoteConfig) : Prop :=
  ∃ before a line after, labels = before ++ .line false a line :: after ∧
    (runBoot build b before).restarted = false ∧
    AdmitsSet build a line slot candidate (runBoot build b before)

theorem UsbSet.later {b : Boot} {labels : List Label} {slot : Nat} {candidate : RemoteConfig}
    (earlier : UsbSet build b labels slot candidate) (label : Label) :
    UsbSet build b (labels ++ [label]) slot candidate := by
  obtain ⟨before, a, line, after, rfl, awake, admits⟩ := earlier
  exact ⟨before, a, line, after ++ [label], by simp, awake, admits⟩

def attempts (log : List Event) : List (Nat × RemoteConfig × Nat × BlobCell) :=
  picked Event.attempt log

@[simp] theorem attempts_nil : attempts [] = [] := rfl

@[simp] theorem attempts_append (log new : List Event) :
    attempts (log ++ new) = attempts log ++ attempts new :=
  picked_append log new

@[simp] theorem attempts_cons (event : Event) (log : List Event) :
    attempts (event :: log) = event.attempt.toList ++ attempts log :=
  picked_cons event log

theorem quiet_attempts (viaMqtt : Bool) (events : List Event)
    (sent : ∀ event ∈ events, ∃ text, event = .sent viaMqtt text) : attempts events = [] :=
  picked_sent (fun _ _ => rfl) viaMqtt events sent

theorem saveOutcome_attempts (slot : Nat) (state : ResultState) (error : Option String)
    (status : Option StatusSnapshot) (s : Control) :
    attempts (saveOutcome slot state error status s).log = attempts s.log := by
  have silent := quiet_attempts _ _ (sentResult_sent s.deviceId s.bootId (s.outcomes slot).viaMqtt
    (slotRequestId s.guard slot) (some state) error status)
  simp [saveOutcome_eq, emission, savedOutcome, silent, Event.attempt]

theorem startOta_attempts (a : LineAnswers) (request : OtaRequest) (slot : Nat) (s : Control) :
    attempts (startOta build a request slot s).log = attempts s.log := by
  simp only [startOta, startWorker]
  split_ifs <;> simp [saveOutcome_attempts, Event.attempt]

theorem startTrial_attempts (a : LineAnswers) (config : RemoteConfig) (slot : Nat) (s : Control) :
    attempts (startTrial a config slot s).log =
      attempts s.log ++ [(slot, config, a.deadlineNow, s.configStore)] := by
  simp only [startTrial, restoreCommitted]
  split_ifs <;> simp [saveOutcome_attempts, Event.attempt]

theorem execute_attempts (a : LineAnswers) (command : Command) (slot : Nat) (s : Control) :
    ∀ attempt ∈ attempts (execute build a command slot s).log, attempt ∈ attempts s.log ∨
      command.kind = .configSet ∧ s.replyMqtt = false ∧ attempt.1 = slot ∧
        attempt.2.1 = command.config := by
  intro attempt member
  unfold execute at member
  cases kind : command.kind with
  | configSet =>
    simp only [kind] at member
    split at member
    · rw [saveOutcome_attempts] at member
      exact .inl member
    next usb =>
      split at member
      · rw [saveOutcome_attempts] at member
        exact .inl member
      split at member
      · rw [saveOutcome_attempts] at member
        exact .inl member
      split at member
      · rw [saveOutcome_attempts] at member
        exact .inl member
      · rw [startTrial_attempts, List.mem_append, List.mem_singleton] at member
        rcases member with before | rfl
        · exact .inl before
        · exact .inr ⟨rfl, by simpa using usb, rfl, rfl⟩
  | otaStart =>
    simp only [kind] at member
    split at member
    · rw [saveOutcome_attempts] at member
      exact .inl member
    · rw [startOta_attempts] at member
      exact .inl member
  | _ =>
    simp only [kind] at member
    split at member
    · rw [saveOutcome_attempts] at member
      exact .inl member
    · left
      simpa [Event.attempt, saveOutcome_attempts] using member

theorem reply_attempts (requestId : CString) (state : Option ResultState) (error : Option String)
    (status : Option StatusSnapshot) (s : Control) :
    attempts (reply requestId state error status s).log = attempts s.log := by
  have silent := quiet_attempts _ _ (sentResult_sent s.deviceId s.bootId s.replyMqtt requestId state
    error status)
  rw [reply_eq, attempts_append, silent, List.append_nil]

theorem handleLine_attempts (a : LineAnswers) (line : Parsed) (s : Control) :
    ∀ attempt ∈ attempts (handleLine build a line s).log, attempt ∈ attempts s.log ∨
      s.replyMqtt = false ∧ AdmitsSet build a line attempt.1 attempt.2.1 s := by
  intro attempt member
  unfold handleLine at member
  simp only at member
  split at member
  · rw [reply_attempts] at member
    exact .inl member
  next parsed =>
  split at member
  · rw [reply_attempts] at member
    exact .inl member
  · unfold handleOtaResult at member
    simp only at member
    split at member
    · obtain ⟨events, same, sent⟩ := replyOtaResult_eq line.command.request.requestId
        (otaReceiptQuery build.eota a.query s.deviceId line.command.operationId
          (s.otaActive && s.otaRequest.operationId = line.command.operationId) s.receiptStore).2 s
      rw [same, attempts_append, quiet_attempts _ events sent, List.append_nil] at member
      exact .inl member
    · rw [reply_attempts] at member
      exact .inl member
  · split at member
    · rw [reply_attempts] at member
      exact .inl member
    next request presented =>
      obtain ⟨decision, slot, guard, decided⟩ : ∃ decision slot guard,
        ebaseAdmit s.guard request s.deviceId s.bootId a.admitNow = (decision, slot, guard) :=
          ⟨_, _, _, rfl⟩
      unfold handleWrite at member
      rw [decided] at member
      dsimp only at member
      split at member
      · left
        rw [emitOutcome_eq, attempts_append, emission,
          quiet_attempts _ _ (sentResult_sent _ _ _ _ _ _ _), List.append_nil] at member
        exact member
      · rcases execute_attempts build a line.command slot (s.accept slot request guard) attempt member
          with before | ⟨kind, usb, rfl, same⟩
        · left
          simpa [Event.attempt] using before
        · exact .inr ⟨usb, parsed, kind, same.symm, request, guard, presented, decided⟩
      · rw [reply_attempts] at member
        exact .inl member

theorem pollConfiguration_attempts (now : Nat) (a : ConfigurationAnswers) (s : Control) :
    attempts (pollConfiguration build now a s).log = attempts s.log := by
  unfold pollConfiguration
  split
  · rfl
  split
  · unfold commitTrial
    simp only
    split
    · simp [saveOutcome_attempts, Event.attempt]
    · split <;> simp [saveOutcome_attempts, Event.attempt, restoreCommitted]
    · simp [saveOutcome_attempts, Event.attempt, restoreCommitted]
  split
  · simp [saveOutcome_attempts, restoreCommitted]
  · rfl

theorem pollOta_attempts (a : FailureAnswers) (s : Control) :
    attempts (pollOta build a s).log = attempts s.log := by
  simp only [pollOta, finishOta]
  split_ifs <;> simp [saveOutcome_attempts, Event.attempt]

theorem step_attempts (label : Label) (s : Control) :
    ∀ attempt ∈ attempts (step build label s).log, attempt ∈ attempts s.log ∨
      s.restarted = false ∧ ∃ a line, label = .line false a line ∧
        AdmitsSet build a line attempt.1 attempt.2.1 s := by
  intro attempt member
  cases awake : s.restarted with
  | true =>
    simp only [step, awake] at member
    exact .inl member
  | false =>
    simp only [step, awake] at member
    cases label with
    | line viaMqtt a line =>
      cases viaMqtt with
      | true =>
        rcases handleLine_attempts build a line { s with replyMqtt := true } attempt member with
          before | ⟨mqtt, -⟩
        · exact .inl before
        · contradiction
      | false =>
        rcases handleLine_attempts build a line s attempt member with before | ⟨-, admits⟩
        · exact .inl before
        · exact .inr ⟨rfl, a, line, rfl, admits⟩
    | pollConfiguration now a => exact .inl (pollConfiguration_attempts build now a s ▸ member)
    | pollOta a => exact .inl (pollOta_attempts build a s ▸ member)
    | workerProgress received =>
      have same : (workerProgress received s).log = s.log := by
        unfold workerProgress
        split <;> rfl
      exact .inl (same ▸ member)
    | workerDone prepared selected =>
      have same : (workerDone prepared selected s).log = s.log := by
        unfold workerDone
        split <;> rfl
      exact .inl (same ▸ member)
    | otherClaim =>
      have same : (otherClaim s).log = s.log := by
        simp only [otherClaim]
        split <;> rfl
      exact .inl (same ▸ member)
    | otherRelease index =>
      have same : (otherRelease index s).log = s.log := by
        simp only [otherRelease]
        split
        · rfl
        · split <;> rfl
      exact .inl (same ▸ member)
    | _ => exact .inl member

theorem attempts_stem (b : Boot) (labels : List Label) :
    ∀ attempt ∈ attempts (runBoot build b labels).log,
      UsbSet build b labels attempt.1 attempt.2.1 := by
  induction labels using List.reverseRecOn with
  | nil =>
    intro attempt member
    cases member
  | append_singleton earlier label ih =>
    intro attempt member
    rw [runBoot, run_concat] at member
    rcases step_attempts build label _ attempt member with before | ⟨awake, a, line, rfl, admits⟩
    · exact (ih attempt before).later build label
    · exact ⟨earlier, a, line, [], rfl, awake, admits⟩

theorem step_durable (label : Label) (s : Control) (usb : s.replyMqtt = false)
    (changed : durableConfig (step build label s).configStore ≠ durableConfig s.configStore) :
    s.trialActive = true ∧ durableConfig (step build label s).configStore =
      some { s.candidate with revision := s.candidate.revision + 1 } := by
  obtain ⟨viaMqtt, t, effect, same⟩ := step_effect build label s usb
  rw [same] at changed ⊢
  rcases effect_store build (s.withChannel viaMqtt) t effect with kept | ⟨active, faults, wrote⟩
  · exact absurd (congrArg durableConfig kept) changed
  refine ⟨active, ?_⟩
  change durableConfig t.configStore ≠ durableConfig s.configStore at changed
  change durableConfig t.configStore = some { s.candidate with revision := s.candidate.revision + 1 }
  change t.configStore =
    (remoteConfigCommitVerified faults s.candidate s.candidate.revision s.configStore).2 at wrote
  rcases remoteConfigCommitVerified_cases faults s.candidate s.candidate.revision s.configStore with
    ⟨error, -, refused⟩ | ⟨stored, -, -, -, ⟨written, ok, next⟩ | ⟨written, uncertain, kept | next⟩⟩
  · rw [wrote, refused] at changed
    exact absurd rfl changed
  · rw [wrote, ok]
    exact next
  · rw [wrote, uncertain] at changed
    exact absurd (durableConfig_congr _ _ kept) changed
  · rw [wrote, uncertain]
    exact next

theorem fingerprinted_id (hashed : Bool) (command : Command) (request : Request)
    (presented : fingerprinted build hashed command = some request) :
    request.requestId = command.request.requestId := by
  unfold fingerprinted at presented
  split at presented
  · split at presented
    · split at presented
      · cases presented
        rfl
      · cases presented
    · cases presented
  · split at presented
    · cases presented
      rfl
    · cases presented
  · cases presented
    rfl

theorem handleLine_taken (a : LineAnswers) (line : Parsed) (s : Control) (held : Request)
    (taken : held ∈ s.guard.requests) (again : line.command.request.requestId = held.requestId) :
    ∃ events, handleLine build a line s = { s with log := s.log ++ events } ∧
      ∀ event ∈ events, ∃ text, event = .sent s.replyMqtt text := by
  have replied (requestId : CString) (state : Option ResultState) (error : Option String)
      (status : Option StatusSnapshot) :
      ∃ events, reply requestId state error status s = { s with log := s.log ++ events } ∧
        ∀ event ∈ events, ∃ text, event = .sent s.replyMqtt text :=
    ⟨_, reply_eq _ _ _ _ s, sentResult_sent _ _ _ _ _ _ _⟩
  unfold handleLine
  simp only
  split
  · exact replied _ _ _ _
  split
  · exact replied _ _ _ _
  · unfold handleOtaResult
    simp only
    split
    · exact replyOtaResult_eq _ _ s
    · exact replied _ _ _ _
  split
  · exact replied _ _ _ _
  next request presented =>
    have id := fingerprinted_id build a.hashed line.command request presented
    have decided := ebaseAdmit_cases s.guard request s.deviceId s.bootId a.admitNow
    unfold handleWrite
    simp only
    split
    · exact ⟨_, emitOutcome_eq _ _ s, sentResult_sent _ _ _ _ _ _ _⟩
    next accept =>
      rcases decided with ⟨refused, -⟩ | ⟨-, -, -, -, fresh⟩
      · exact absurd accept refused
      · exact absurd (again.symm.trans id.symm) (fresh held taken)
    · exact replied _ _ _ _

def usbRequired : Outcome := savedOutcome true .failed (some "physical_usb_required") none

theorem step_mqttSet (a : LineAnswers) (line : Parsed) (slot : Nat) (candidate : RemoteConfig)
    (s : Control) (usb : s.replyMqtt = false) (awake : s.restarted = false)
    (admits : AdmitsSet build a line slot candidate s) :
    ∃ request guard, fingerprinted build a.hashed line.command = some request ∧
      ebaseAdmit s.guard request s.deviceId s.bootId a.admitNow = (.accept, slot, guard) ∧
      step build (.line true a line) s =
        { s with
          guard := guard
          outcomes := Function.update s.outcomes slot usbRequired
          log := s.log ++ .accepted slot true request :: .saved slot usbRequired ::
            emission s.deviceId s.bootId (slotRequestId guard slot) true usbRequired } := by
  obtain ⟨request, guard, presented, decided⟩ := admits.admitted
  refine ⟨request, guard, presented, decided, ?_⟩
  have write : WriteLine build a line request :=
    ⟨admits.parsed, by simp [admits.kind], by simp [admits.kind], presented⟩
  have refused : handleLine build a line (s.withChannel true) =
      saveOutcome slot .failed (some "physical_usb_required") none
        ((s.withChannel true).accept slot request guard) := by
    rw [handleLine_write build a line request _ write]
    unfold handleWrite
    rw [show ebaseAdmit (s.withChannel true).guard request (s.withChannel true).deviceId
      (s.withChannel true).bootId a.admitNow = _ from decided]
    dsimp only
    unfold execute
    rw [admits.kind]
    exact if_pos rfl
  rw [step_line build a line true s usb awake, refused, saveOutcome_eq]
  simp [usbRequired, savedOutcome, usb]

theorem run_grows (s : Control) (usb : s.replyMqtt = false) (more : List Label) :
    ∃ new, (run (step build) more s).log = s.log ++ new := by
  have kept (t u : Control) (effect : Effect build t u) (grown : ∃ new, t.log = s.log ++ new) :
      ∃ new, u.log = s.log ++ new := by
    obtain ⟨new, grown⟩ := grown
    exact ⟨new ++ newEvents t u, by rw [effect_log build t u effect, grown, List.append_assoc]⟩
  exact (@run_keeps build (fun t => ∃ new, t.log = s.log ++ new) (fun _ _ grown => grown) kept more s
    usb ⟨[], by simp⟩).2

theorem outcome_final (b : Boot) (labels more : List Label) (slot : Nat)
    (inside : slot < (runBoot build b labels).guard.requests.length)
    (settled : ((runBoot build b labels).outcomes slot).state ≠ some .running) :
    (runBoot build b (labels ++ more)).outcomes slot = (runBoot build b labels).outcomes slot := by
  obtain ⟨usb, before⟩ := ledger_reached build b labels
  obtain ⟨-, after⟩ := ledger_reached build b (labels ++ more)
  obtain ⟨new, grown⟩ := run_grows build (runBoot build b labels) usb more
  rw [← run_append] at grown
  exact before.settled after new grown slot inside settled

/-- In every run each trial and each change of the durable configuration stems from a `config.set`
that was admitted from USB; one admitted from MQTT is refused for good, and a line that repeats a
request, on whichever channel, changes nothing. -/
theorem usb_authority (b : Boot) (labels : List Label) :
    let s := runBoot build b labels
    (∀ slot candidate startedAt stored, .trialStarted slot candidate startedAt stored ∈ s.log →
      UsbSet build b labels slot candidate) ∧
      (∀ label, durableConfig (step build label s).configStore ≠ durableConfig s.configStore →
        UsbSet build b labels s.trialSlot s.candidate ∧
          durableConfig (step build label s).configStore =
            some { s.candidate with revision := s.candidate.revision + 1 }) ∧
      (∀ a line slot candidate, s.restarted = false → AdmitsSet build a line slot candidate s →
        ∃ request guard, guard.requests = s.guard.requests ++ [request] ∧
          step build (.line true a line) s =
            { s with
              guard := guard
              outcomes := Function.update s.outcomes slot usbRequired
              log := s.log ++ .accepted slot true request :: .saved slot usbRequired ::
                emission s.deviceId s.bootId (slotRequestId guard slot) true usbRequired } ∧
          ∀ more, (runBoot build b (labels ++ .line true a line :: more)).outcomes slot =
            usbRequired) ∧
      ∀ slot viaMqtt held a line repeatMqtt, .accepted slot viaMqtt held ∈ s.log →
        line.command.request.requestId = held.requestId →
          ∃ events, step build (.line repeatMqtt a line) s = { s with log := s.log ++ events } ∧
            ∀ event ∈ events, ∃ text, event = .sent repeatMqtt text := by
  intro s
  obtain ⟨usb, inv⟩ := trialInvariant_reached build b labels
  have stems := attempts_stem build b labels
  have tried {slot candidate startedAt stored}
      (member : .trialStarted slot candidate startedAt stored ∈ s.log) :
      UsbSet build b labels slot candidate :=
    stems (slot, candidate, startedAt, stored) (List.mem_filterMap.mpr ⟨_, member, rfl⟩)
  refine ⟨fun slot candidate startedAt stored member => tried member, ?_, ?_, ?_⟩
  · intro label changed
    obtain ⟨active, next⟩ := step_durable build label s usb changed
    obtain ⟨startedAt, -, begun⟩ := inv.begun active
    exact ⟨tried begun, next⟩
  · intro a line slot candidate awake admits
    obtain ⟨request, guard, presented, decided, refused⟩ :=
      step_mqttSet build a line slot candidate s usb awake admits
    have accepted := ebaseAdmit_cases s.guard request s.deviceId s.bootId a.admitNow
    rw [decided] at accepted
    obtain ⟨-, same, appended, -⟩ := accepted.resolve_left (fun wrong => wrong.1 rfl)
    refine ⟨request, guard, appended, refused, fun more => ?_⟩
    have reached : runBoot build b (labels ++ [.line true a line]) =
        step build (.line true a line) s := run_concat (step build) labels _ b.control
    have mine : (runBoot build b (labels ++ [.line true a line])).outcomes slot = usbRequired := by
      rw [reached, refused]
      exact Function.update_self _ _ _
    have final := outcome_final build b (labels ++ [.line true a line]) more slot
      (by
        rw [reached, refused]
        change slot < guard.requests.length
        have here : slot = s.guard.requests.length := same
        have grown : guard.requests = s.guard.requests ++ [request] := appended
        simp [grown, here])
      (by simp [mine, usbRequired, savedOutcome])
    rw [mine, List.append_assoc] at final
    exact final
  · intro slot viaMqtt held a line repeatMqtt accepted again
    by_cases asleep : s.restarted = true
    · refine ⟨[], ?_, by simp⟩
      rw [List.append_nil]
      exact if_pos asleep
    · have taken : held ∈ s.guard.requests :=
        List.mem_of_getElem? (inv.ledger.accepted slot viaMqtt held accepted).1
      obtain ⟨events, same, sent⟩ :=
        handleLine_taken build a line (s.withChannel repeatMqtt) held taken again
      refine ⟨events, ?_, sent⟩
      rw [step_line build a line repeatMqtt s usb (by simpa using asleep), same]
      conv_rhs => rw [← withChannel_same s false usb]
      rfl

end EspBase

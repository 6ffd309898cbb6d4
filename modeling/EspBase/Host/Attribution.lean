import EspBase.Host.Answers
import EspBase.Protocol.Successes

set_option autoImplicit false

namespace EspBase

open Transition Unicode

def Rests (id : CString) (s : Control) (a : Answer) : Prop :=
  a.requestId = some id → a.state = .succeeded →
    ∃ slot held out, s.guard.requests[slot]? = some held ∧ held.requestId = id ∧ .saved slot out ∈ s.log ∧
      out.state = some .succeeded ∧ a.result = .ofStatus out.status

def Attributed (id : CString) (s : Control) : Prop :=
  ∀ text ∈ usbTexts s.log, ∃ a : Answer, a.Formed ∧ a.usb = text ∧ Rests id s a

section Attribution

variable {build : Build} {id : CString} {s t m : Control}

theorem usbTexts_append (log more : List Event) : usbTexts (log ++ more) = usbTexts log ++ usbTexts more :=
  List.filterMap_append

theorem Rests.later {a : Answer} (rests : Rests id s a) (requests : s.guard.requests <+: t.guard.requests)
    (log : s.log <+: t.log) : Rests id t a := by
  intro named succeeded
  obtain ⟨slot, held, out, here, mine, saved, state, result⟩ := rests named succeeded
  obtain ⟨more, grown⟩ := requests
  refine ⟨slot, held, out, ?_, mine, log.subset saved, state, result⟩
  rw [← grown, List.getElem?_append_left (List.getElem?_eq_some_iff.mp here).1, here]

theorem Attributed.grown (inv : Attributed id s) (requests : s.guard.requests <+: t.guard.requests)
    (new : List Event) (log : t.log = s.log ++ new)
    (fresh : ∀ text ∈ usbTexts new, ∃ a : Answer, a.Formed ∧ a.usb = text ∧ Rests id t a) : Attributed id t := by
  intro text member
  rw [log, usbTexts_append] at member
  rcases List.mem_append.mp member with before | now
  · obtain ⟨a, formed, same, rests⟩ := inv text before
    exact ⟨a, formed, same, rests.later requests ⟨new, log.symm⟩⟩
  · exact fresh text now

theorem Attributed.same (inv : Attributed id s) (guard : t.guard = s.guard) (log : t.log = s.log) :
    Attributed id t :=
  inv.grown (guard ▸ List.prefix_rfl) [] (by rw [log, List.append_nil]) (by simp [usbTexts])

theorem sentResult_usb {deviceId bootId requestId : CString} {viaMqtt : Bool} {state : ResultState}
    {error : Option String} {status : Option StatusSnapshot}
    (formed : (outcomeAnswer deviceId bootId requestId state error status).Formed) (text : List UInt8)
    (member : text ∈ usbTexts (sentResult deviceId bootId viaMqtt requestId (some state) error status)) :
    viaMqtt = false ∧ (outcomeAnswer deviceId bootId requestId state error status).usb = text := by
  rw [sentResult_answer _ _ _ _ _ _ _ formed] at member
  simp only [usbTexts, List.filterMap_cons, List.filterMap_nil, usb_delivery] at member
  cases viaMqtt with
  | true => cases member
  | false => exact ⟨rfl, (List.mem_singleton.mp member).symm⟩

theorem Attributed.replied (inv : Attributed id s) (requestId : CString) (state : ResultState)
    (error : Option String) (status : Option StatusSnapshot)
    (formed : (outcomeAnswer s.deviceId s.bootId requestId state error status).Formed)
    (other : s.replyMqtt = true ∨ requestId ≠ id ∨ state ≠ .succeeded) :
    Attributed id (reply requestId (some state) error status s) := by
  rw [reply_eq]
  refine inv.grown List.prefix_rfl _ rfl ?_
  intro text member
  obtain ⟨usb, same⟩ := sentResult_usb formed text member
  refine ⟨_, formed, same, ?_⟩
  intro named succeeded
  rcases other with mqtt | different | failed
  · rw [mqtt] at usb
    cases usb
  · simp only [outcomeAnswer, requestIdOf] at named
    split at named
    · cases named
    · exact absurd (Option.some.inj named) different
  · exact absurd succeeded failed

theorem saved_rests (deviceId bootId : CString) {slot : Nat} {state : ResultState} {error : Option String}
    {status : Option StatusSnapshot} {out : Outcome} (saved : .saved slot out ∈ s.log)
    (same : out.state = some state) (reported : out.status = status) :
    Rests id s (outcomeAnswer deviceId bootId (slotRequestId s.guard slot) state error status) := by
  intro named succeeded
  simp only [outcomeAnswer, requestIdOf] at named
  split at named
  · cases named
  next present =>
    have mine := Option.some.inj named
    unfold slotRequestId at mine present
    cases here : s.guard.requests[slot]? with
    | none => simp [here] at present
    | some held =>
      rw [here] at mine
      refine ⟨slot, held, out, here, mine, saved, ?_, ?_⟩
      · rw [same]
        exact congrArg some succeeded
      · rw [reported]
        rfl

theorem Attributed.saving (inv : Attributed id s) (slot : Nat) (state : ResultState) (error : Option String)
    (status : Option StatusSnapshot) (m : Control)
    (log : t.log = (saveOutcome slot state error status m).log) (guard : t.guard = m.guard)
    (formed : (outcomeAnswer m.deviceId m.bootId (slotRequestId m.guard slot) state error status).Formed)
    (requests : s.guard.requests <+: m.guard.requests)
    (quiet : ∃ events, m.log = s.log ++ events ∧ usbTexts events = []) : Attributed id t := by
  obtain ⟨events, before, silent⟩ := quiet
  rw [saveOutcome_eq] at log
  dsimp only at log
  rw [before, List.append_assoc] at log
  refine inv.grown (guard ▸ requests) _ log ?_
  intro text member
  rw [usbTexts_append, silent, List.nil_append] at member
  have saved : .saved slot (savedOutcome (m.outcomes slot).viaMqtt state error status) ∈ t.log := by
    rw [log]
    simp
  have sent : text ∈ usbTexts (emission m.deviceId m.bootId (slotRequestId m.guard slot)
      (m.outcomes slot).viaMqtt (savedOutcome (m.outcomes slot).viaMqtt state error status)) := member
  obtain ⟨-, same⟩ := sentResult_usb formed text sent
  refine ⟨_, formed, same, ?_⟩
  rw [← guard]
  exact saved_rests _ _ saved rfl rfl

theorem decided_formed (speaks : Speaks none t) (slot : Nat) (state : ResultState) (error : Option String)
    (status : Option StatusSnapshot) (viaMqtt : Bool) (inside : slot < t.guard.requests.length)
    (saved : t.outcomes slot = savedOutcome viaMqtt state error status) :
    (outcomeAnswer t.deviceId t.bootId (slotRequestId t.guard slot) state error status).Formed := by
  obtain ⟨⟨held, same, agrees⟩, sized⟩ := speaks.outcomes slot inside nofun
  have here : t.voice.outcomes slot = savedOutcome viaMqtt state error status := saved
  rw [here] at same agrees sized
  obtain rfl := Option.some.inj same
  exact outcomeAnswer_formed _ _ _ _ _ _ speaks.device speaks.boot (slotRequestId_named t.guard speaks.ids slot)
    agrees sized

theorem running_formed {unsaved : Option Nat} (speaks : Speaks unsaved t) (slot : Nat) :
    (outcomeAnswer t.deviceId t.bootId (slotRequestId t.guard slot) .running none none).Formed :=
  outcomeAnswer_formed _ _ _ _ _ _ speaks.device speaks.boot (slotRequestId_named t.guard speaks.ids slot)
    agrees_running (by simp)

structure SavedIn (slot : Nat) (state : ResultState) (error : Option String) (status : Option StatusSnapshot)
    (m t : Control) : Prop where
  log : t.log = (saveOutcome slot state error status m).log
  guard : t.guard = (saveOutcome slot state error status m).guard
  outcomes : t.outcomes = (saveOutcome slot state error status m).outcomes
  device : t.deviceId = (saveOutcome slot state error status m).deviceId
  boot : t.bootId = (saveOutcome slot state error status m).bootId

theorem Attributed.saved (inv : Attributed id s) (speaks : Speaks none t) {slot : Nat} {state : ResultState}
    {error : Option String} {status : Option StatusSnapshot} (saved : SavedIn slot state error status m t)
    (inside : slot < m.guard.requests.length) (requests : s.guard.requests <+: m.guard.requests)
    (quiet : ∃ events, m.log = s.log ++ events ∧ usbTexts events = []) : Attributed id t := by
  obtain ⟨log, guard, outcomes, device, boot⟩ := saved
  simp only [saveOutcome_eq] at guard device boot outcomes
  have formed := decided_formed speaks slot state error status (m.outcomes slot).viaMqtt (guard ▸ inside)
    (by rw [outcomes]; exact Function.update_self _ _ _)
  rw [device, boot, guard] at formed
  exact inv.saving slot state error status m log guard formed requests quiet

theorem Attributed.accepted (inv : Attributed id s) (speaks : Speaks none t) {slot : Nat} {request : Request}
    {guard : Guard} (accepted : Accepted s slot request guard) {state : ResultState} {error : Option String}
    {status : Option StatusSnapshot} (saved : SavedIn slot state error status m t) (held : m.guard = guard)
    (quiet : ∃ events, m.log = s.log ++ events ∧ usbTexts events = []) : Attributed id t := by
  refine inv.saved speaks saved ?_ ?_ quiet
  · rw [held]
    exact accepted.inside
  · rw [held, accepted.requests]
    exact List.prefix_append _ _

theorem effect_attributed (effect : Effect build s t) (pending : Pending s) (earlier : Speaks none s)
    (speaks : Speaks none t)
    (plain : t.guard = s.guard → t.trialActive = s.trialActive → t.otaActive = s.otaActive →
      t.restarted = s.restarted → Attributed id t)
    (inv : Attributed id s) : Attributed id t := by
  have concluded {state : ResultState} {error : Option String} {status : Option StatusSnapshot} {m : Control}
      (active : s.trialActive = true) (saved : SavedIn s.trialSlot state error status m t) (held : m.guard = s.guard)
      (quiet : ∃ events, m.log = s.log ++ events ∧ usbTexts events = []) : Attributed id t :=
    inv.saved speaks saved (held ▸ (pending.trial active).1) (held ▸ List.prefix_rfl) quiet
  have downloaded {state : ResultState} {error : Option String} {m : Control}
      (active : s.otaActive = true) (saved : SavedIn s.otaSlot state error none m t) (held : m.guard = s.guard)
      (log : m.log = s.log) : Attributed id t :=
    inv.saved speaks saved (held ▸ (pending.ota active).1) (held ▸ List.prefix_rfl)
      ⟨[], by rw [log, List.append_nil], rfl⟩
  have begun {slot : Nat} {request : Request} {guard : Guard} (accepted : Accepted s slot request guard)
      {m : Control} (held : m.guard = guard) (ids : m.deviceId = s.deviceId ∧ m.bootId = s.bootId)
      (quiet : ∃ events, m.log = s.log ++ events ∧ usbTexts events = []) :
      Attributed id (saveOutcome slot .running none none m) := by
    refine inv.saving slot .running none none m rfl (saveOutcome_guard _ _ _ _ _) ?_ ?_ quiet
    · rw [ids.1, ids.2, held]
      exact running_formed (accept_speaks slot request guard earlier accepted.slot accepted.requests accepted.uuids.1) slot
    · rw [held, accepted.requests]
      exact List.prefix_append _ _
  cases effect with
  | replied events sent => exact plain rfl rfl rfl rfl
  | refused slot request guard error accepted =>
    exact inv.accepted speaks accepted ⟨rfl, rfl, rfl, rfl, rfl⟩ rfl ⟨_, rfl, rfl⟩
  | otaRefused slot request guard ota a owner claim result stored accepted =>
    exact inv.accepted speaks accepted ⟨rfl, rfl, rfl, rfl, rfl⟩ rfl
      ⟨[.accepted slot s.replyMqtt request, .registering slot ota result], by simp, rfl⟩
  | otaUncertain slot request guard ota a owner claim stored accepted =>
    exact inv.accepted speaks accepted ⟨rfl, rfl, rfl, rfl, rfl⟩ rfl
      ⟨[.accepted slot s.replyMqtt request, .registering slot ota .storageUncertain], by simp, rfl⟩
  | workerFailed slot request guard ota a f owner claim prepared stored accepted =>
    exact inv.accepted speaks accepted ⟨rfl, rfl, rfl, rfl, rfl⟩ rfl
      ⟨[.accepted slot s.replyMqtt request, .registering slot ota .ok], by simp, rfl⟩
  | workerLost slot request guard ota a f owner claim prepared stored result accepted =>
    exact inv.accepted speaks accepted ⟨rfl, rfl, rfl, rfl, rfl⟩ rfl
      ⟨[.accepted slot s.replyMqtt request, .registering slot ota .ok], by simp, rfl⟩
  | workerStarted slot request guard ota a owner claim prepared accepted =>
    exact inv.accepted speaks accepted ⟨rfl, rfl, rfl, rfl, rfl⟩ rfl
      ⟨[.accepted slot s.replyMqtt request, .registering slot ota .ok, .workerCreated slot ota], by simp, rfl⟩
  | trialStarted slot request guard candidate startedAt now a wifi accepted =>
    exact inv.accepted speaks accepted ⟨rfl, rfl, rfl, rfl, rfl⟩ rfl
      ⟨[.accepted slot s.replyMqtt request, .trialStarted slot candidate startedAt s.configStore], by simp, rfl⟩
  | trialRefused slot request guard candidate startedAt now restoredAt a b error restored wifi back accepted =>
    have tried := begun (m := (s.accept slot request guard).trying slot candidate startedAt) accepted rfl
      ⟨rfl, rfl⟩ ⟨[.accepted slot s.replyMqtt request, .trialStarted slot candidate startedAt s.configStore],
        by simp, rfl⟩
    have inside : slot < (saveOutcome slot .running none none
        ((s.accept slot request guard).trying slot candidate startedAt)).guard.requests.length := by
      rw [saveOutcome_guard]
      exact accepted.inside
    exact tried.saved speaks ⟨rfl, rfl, rfl, rfl, rfl⟩ inside List.prefix_rfl ⟨[], (List.append_nil _).symm, rfl⟩
  | restarting slot request guard accepted =>
    have running := begun (m := s.accept slot request guard) accepted rfl ⟨rfl, rfl⟩ ⟨_, rfl, rfl⟩
    exact running.grown List.prefix_rfl [.restarting slot] rfl (by simp [usbTexts, Event.usb])
  | committed now faults config stored a active =>
    exact concluded active ⟨rfl, rfl, rfl, rfl, rfl⟩ rfl ⟨_, rfl, rfl⟩
  | commitReloaded now faults stored reload config a error wifi active =>
    exact concluded active ⟨rfl, rfl, rfl, rfl, rfl⟩ rfl ⟨_, rfl, rfl⟩
  | commitUnread now faults stored a error wifi active =>
    exact concluded active ⟨rfl, rfl, rfl, rfl, rfl⟩ rfl ⟨_, rfl, rfl⟩
  | commitFailed now faults stored failure a error wifi active =>
    exact concluded active ⟨rfl, rfl, rfl, rfl, rfl⟩ rfl ⟨_, rfl, rfl⟩
  | proofFailed now a error wifi active =>
    exact concluded active ⟨rfl, rfl, rfl, rfl, rfl⟩ rfl ⟨[], (List.append_nil _).symm, rfl⟩
  | slotSelected active done result =>
    have running : Attributed id (saveOutcome s.otaSlot .running none none s) :=
      inv.saving s.otaSlot .running none none s rfl (saveOutcome_guard _ _ _ _ _) (running_formed earlier s.otaSlot)
        List.prefix_rfl ⟨[], (List.append_nil _).symm, rfl⟩
    exact running.grown List.prefix_rfl [.slotSelected] rfl (by simp [usbTexts, Event.usb])
  | bootUnknown active => exact downloaded active ⟨rfl, rfl, rfl, rfl, rfl⟩ rfl rfl
  | failureLost f saved stored active => exact downloaded active ⟨rfl, rfl, rfl, rfl, rfl⟩ rfl rfl
  | releaseFailed f stored active => exact downloaded active ⟨rfl, rfl, rfl, rfl, rfl⟩ rfl rfl
  | otaFailed f stored active => exact downloaded active ⟨rfl, rfl, rfl, rfl, rfl⟩ rfl rfl
  | _ => exact inv.same rfl rfl

theorem handleOtaResult_attributed (names : build.eota.Names) (a : LineAnswers) (command : Command)
    (uuid : isUuid command.request.requestId) (speaks : Speaks none s)
    (other : s.replyMqtt = true ∨ command.request.requestId ≠ id) (inv : Attributed id s) :
    Attributed id (handleOtaResult build a command s) := by
  unfold handleOtaResult
  dsimp only
  split
  next ok =>
    obtain ⟨operation, agrees⟩ := otaReceiptQuery_view build.eota names _ _ _ _ _ ok
    have formed := receiptAnswer_formed _ _ speaks uuid operation agrees
    rw [replyOtaResult_formed _ _ formed]
    refine inv.grown List.prefix_rfl _ rfl ?_
    intro text member
    simp only [usbTexts, List.filterMap_cons, List.filterMap_nil, usb_delivery] at member
    rcases other with mqtt | different
    · simp only [mqtt, if_true] at member
      cases member
    · split at member
      next silent => cases member
      next usb sent =>
        obtain ⟨-, same⟩ := Option.ite_none_left_eq_some.mp sent
        refine ⟨_, formed, ?_, ?_⟩
        · rw [List.mem_singleton.mp member]
          exact Option.some.inj same
        · intro named
          exact absurd (Option.some.inj named) different
  · refine inv.replied _ _ _ _ ?_ ?_
    · exact outcomeAnswer_formed _ _ _ _ _ _ speaks.device speaks.boot (.inr uuid) (receiptQueryError_agrees _) (by simp)
    · rcases other with mqtt | different
      · exact .inl mqtt
      · exact .inr (.inl different)

theorem emitOutcome_attributed (slot : Nat) (viaMqtt : Bool) (used : slot < s.guard.requests.length)
    (ledger : Ledger none s) (speaks : Speaks none s) (inv : Attributed id s) :
    Attributed id (emitOutcome slot viaMqtt s) := by
  obtain ⟨⟨state, decided, agrees⟩, sized⟩ := speaks.outcomes slot used nofun
  change (s.outcomes slot).state = some state at decided
  have named := slotRequestId_named s.guard speaks.ids slot
  have formed := outcomeAnswer_formed s.deviceId s.bootId (slotRequestId s.guard slot) state
    (s.outcomes slot).error (s.outcomes slot).status speaks.device speaks.boot named agrees sized
  have saved : .saved slot (s.outcomes slot) ∈ s.log := by
    have last := ledger.last slot used (by simp)
    obtain ⟨event, member, same⟩ := List.mem_filterMap.mp (List.mem_of_getLast? last)
    cases event with
    | saved other out =>
      simp only [Event.savedAt] at same
      split at same
      next here =>
        obtain rfl := Option.some.inj same
        exact here ▸ member
      · cases same
    | _ => cases same
  rw [emitOutcome_eq, emission, decided]
  refine inv.grown List.prefix_rfl _ rfl ?_
  intro text member
  obtain ⟨-, same⟩ := sentResult_usb formed text member
  refine ⟨_, formed, same, ?_⟩
  have rests : Rests id s (outcomeAnswer s.deviceId s.bootId (slotRequestId s.guard slot) state
      (s.outcomes slot).error (s.outcomes slot).status) := saved_rests s.deviceId s.bootId saved decided rfl
  exact rests.later List.prefix_rfl (List.prefix_append _ _)

theorem handleWrite_attributed (a : LineAnswers) (line : Parsed) (request : Request)
    (write : WriteLine build a line request) (uuid : isUuid request.requestId) (ledger : Ledger none s)
    (pending : Pending s) (speaks : Speaks none s) (inv : Attributed id s) :
    Attributed id (handleWrite build a line.command request s) := by
  have spoken := (handleWrite_replies a line request write speaks uuid).speaks
  have decided := ebaseAdmit_cases s.guard request s.deviceId s.bootId a.admitNow
  have replays := ebaseAdmit_replay s.guard request s.deviceId s.bootId a.admitNow
  unfold handleWrite at spoken ⊢
  generalize ebaseAdmit s.guard request s.deviceId s.bootId a.admitNow = admitted at decided replays spoken
  obtain ⟨decision, slot, guard⟩ := admitted
  dsimp only at decided replays spoken ⊢
  split
  · obtain ⟨held, here, -⟩ := replays rfl
    exact emitOutcome_attributed slot s.replyMqtt (List.getElem?_eq_some_iff.mp here).1 ledger speaks inv
  · rcases decided with ⟨refused, -⟩ | ⟨-, appended, requests, ids, fresh⟩
    · exact absurd rfl refused
    have accepted : Accepted s slot request guard := ⟨appended, requests, ids.1, ids.2.1, ids.2.2, fresh⟩
    refine effect_attributed (execute_effect build a line.command s slot request guard accepted) pending speaks spoken
      ?_ inv
    intro same
    rw [execute_guard] at same
    have longer : guard.requests.length = s.guard.requests.length := congrArg (fun g => g.requests.length) same
    rw [requests] at longer
    simp at longer
  next unreplayed unaccepted =>
    refine inv.replied _ _ _ _ ?_ (.inr (.inr ?_))
    · exact outcomeAnswer_formed _ _ _ _ _ _ speaks.device speaks.boot (.inr uuid)
        (refused_agrees _ ⟨unreplayed, unaccepted⟩) (by simp)
    · split <;> decide

theorem handleLine_attributed (names : build.eota.Names) (decoder : DecoderBuild) (a : LineAnswers)
    (sized : a.snapshot.Sized) (text : List UInt8) (ledger : Ledger none s) (pending : Pending s)
    (speaks : Speaks none s)
    (mine : s.replyMqtt = false → (ebaseParseCommand decoder text).command.request.requestId = id →
      (ebaseParseCommand decoder text).error = none → (ebaseParseCommand decoder text).command.kind = .configSet)
    (inv : Attributed id s) : Attributed id (handleLine build a (ebaseParseCommand decoder text) s) := by
  have addressed := ebaseParseCommand_addressed decoder text
  generalize ebaseParseCommand decoder text = line at addressed mine
  have other (fine : line.error = none) (readOnly : line.command.kind ≠ .configSet) :
      s.replyMqtt = true ∨ line.command.request.requestId ≠ id := by
    by_cases mqtt : s.replyMqtt = true
    · exact .inl mqtt
    · exact .inr (fun same => readOnly (mine (by simpa using mqtt) same fine))
  unfold handleLine
  dsimp only
  split
  next error reported =>
    refine inv.replied _ _ _ _ ?_ (.inr (.inr (by decide)))
    exact outcomeAnswer_formed _ _ _ _ _ _ speaks.device speaks.boot addressed.named
      (agrees_error _ _ failed_state (addressed.reported error reported)) (by simp)
  next fine =>
    have uuid := addressed.identified fine
    split
    next status =>
      refine inv.replied _ _ _ _ ?_ ?_
      · refine outcomeAnswer_formed _ _ _ _ _ _ speaks.device speaks.boot addressed.named agrees_succeeded ?_
        rintro x ⟨⟩
        exact speaks.snapshot a.snapshot sized
      · rcases other fine (by simp [status]) with mqtt | different
        · exact .inl mqtt
        · exact .inr (.inl different)
    next query => exact handleOtaResult_attributed names a line.command uuid speaks (other fine (by simp [query])) inv
    next status otaResult =>
      split
      · refine inv.replied _ _ _ _ ?_ (.inr (.inr (by decide)))
        exact outcomeAnswer_formed _ _ _ _ _ _ speaks.device speaks.boot addressed.named
          (agrees_error _ _ failed_state (by decide)) (by simp)
      next request printed =>
        have same := fingerprinted_request a.hashed line.command request printed
        rw [← same] at uuid
        exact handleWrite_attributed a line request ⟨fine, status, otaResult, printed⟩ uuid ledger pending speaks inv

theorem commitTrial_inactive (now : Nat) (a : ConfigurationAnswers) (s : Control) :
    (commitTrial build now a s).trialActive = false := by
  unfold commitTrial
  dsimp only
  split
  · rw [saveOutcome_eq]
  · rw [saveOutcome_eq]
    split <;> rfl
  · rw [saveOutcome_eq]
    rfl

-- A poll after which the trial is as active as before has done nothing.
theorem pollConfiguration_same (now : Nat) (a : ConfigurationAnswers)
    (same : (pollConfiguration build now a s).trialActive = s.trialActive) : pollConfiguration build now a s = s := by
  unfold pollConfiguration at same ⊢
  split at same
  next idle => rw [if_pos idle]
  next trial =>
    have active : s.trialActive = true := by simpa using trial
    rw [if_neg trial]
    split at same
    · rw [commitTrial_inactive, active] at same
      cases same
    next waiting =>
      rw [if_neg waiting]
      split at same
      · rw [saveOutcome_eq, active] at same
        cases same
      next going => rw [if_neg going]

theorem finishOta_inactive (result : EotaResult) (s : Control) : (finishOta build result s).otaActive = false := by
  simp only [finishOta, saveOutcome_eq]

theorem pollOta_same (a : FailureAnswers) (active : (pollOta build a s).otaActive = s.otaActive)
    (awake : (pollOta build a s).restarted = s.restarted) (running : s.restarted = false) :
    pollOta build a s = s := by
  unfold pollOta at active awake ⊢
  by_cases idle : (!s.otaActive || !s.otaDone) = true
  · rw [if_pos idle]
  · have on : s.otaActive = true := by
      simp only [Bool.or_eq_true, Bool.not_eq_true', not_or, Bool.not_eq_false] at idle
      exact idle.1
    rw [if_neg idle] at active awake
    split at awake
    · rw [running] at awake
      cases awake
    next failed =>
      rw [if_neg failed] at active
      split at active
      · rw [finishOta_inactive, on] at active
        cases active
      · dsimp only at active
        split at active
        · rw [saveOutcome_eq, on] at active
          cases active
        · split at active
          · rw [saveOutcome_eq, on] at active
            cases active
          · rw [finishOta_inactive, on] at active
            cases active

def Label.Carries (id : CString) (sent : Parsed) : Label → Prop
  | .line false _ parsed => parsed.command.request.requestId = id → parsed = sent
  | _ => True

theorem act_attributed (names : build.eota.Names) (decoder : DecoderBuild) (sent : Parsed)
    (kind : sent.error = none → sent.command.kind = .configSet) (label : Label) (received : label.Received decoder)
    (carries : label.Carries id sent) (running : s.restarted = false)
    (ledger : Ledger none s) (pending : Pending s) (speaks : Speaks none s)
    (inv : Attributed id s) : Attributed id (act build label s) := by
  have spoken := act_speaks names decoder label received speaks
  cases label with
  | line viaMqtt a line =>
    obtain ⟨⟨text, rfl⟩, sized⟩ := received
    cases viaMqtt with
    | false =>
      refine handleLine_attributed names decoder a sized text ledger pending speaks ?_ inv
      intro _ mine
      rw [carries mine]
      exact kind
    | true =>
      have routed : Attributed id (handleLine build a (ebaseParseCommand decoder text) { s with replyMqtt := true }) :=
        handleLine_attributed names decoder a sized text (ledger.unchanged ⟨rfl, rfl, rfl, rfl⟩ rfl) ⟨pending.trial, pending.ota⟩
          (speaks.same rfl) (by simp) (inv.same rfl rfl)
      exact routed.same rfl rfl
  | pollConfiguration now a =>
    refine effect_attributed (pollConfiguration_effect build now a s) pending speaks spoken ?_ inv
    intro _ active _ _
    have same : act build (.pollConfiguration now a) s = s := pollConfiguration_same now a active
    rw [same]
    exact inv
  | pollOta a =>
    refine effect_attributed (pollOta_effect build a s) pending speaks spoken ?_ inv
    intro _ _ active awake
    have same : act build (.pollOta a) s = s := pollOta_same a active awake running
    rw [same]
    exact inv
  | wifiEvent event => exact inv.same rfl rfl
  | wifiPoll now a => exact inv.same rfl rfl
  | workerProgress n =>
    change Attributed id (workerProgress n s)
    unfold workerProgress
    split
    · exact inv
    · exact inv.same rfl rfl
  | workerDone prepared selected =>
    change Attributed id (workerDone prepared selected s)
    unfold workerDone
    split
    · exact inv
    · exact inv.same rfl rfl
  | slotConfirmed => exact inv.same rfl rfl
  | otherClaim =>
    change Attributed id (otherClaim s)
    unfold otherClaim
    dsimp only
    split
    · exact inv.same rfl rfl
    · exact inv.same rfl rfl
  | otherRelease index =>
    change Attributed id (otherRelease index s)
    unfold otherRelease
    split
    · exact inv
    · dsimp only
      split
      · exact inv.same rfl rfl
      · exact inv

theorem run_attributed (names : build.eota.Names) (decoder : DecoderBuild) (b : Boot) (device : isUuid b.deviceId)
    (boot : isUuid b.bootId) (sent : Parsed) (kind : sent.error = none → sent.command.kind = .configSet)
    (labels : List Label)
    (received : ∀ label ∈ labels, label.Received decoder) (carries : ∀ label ∈ labels, label.Carries id sent) :
    Attributed id (runBoot build b labels) := by
  induction labels using List.reverseRecOn with
  | nil =>
    intro text member
    cases member
  | append_singleton earlier label ih =>
    have before := ih (fun other inside => received other (List.mem_append_left _ inside))
      (fun other inside => carries other (List.mem_append_left _ inside))
    have speaks := run_speaks names decoder b device boot earlier
      (fun other inside => received other (List.mem_append_left _ inside))
    obtain ⟨-, inv⟩ := trialInvariant_reached build b earlier
    rw [runBoot, run_concat]
    change Attributed id (step build label (runBoot build b earlier))
    unfold step
    split
    · exact before
    next awake =>
      exact act_attributed names decoder sent kind label (received label (by simp)) (carries label (by simp))
        (by simpa using awake) inv.ledger inv.pending speaks before

theorem Attributed.answers (inv : Attributed id s) :
    ∃ answers : List Answer, usbTexts s.log = answers.map Answer.usb ∧ ∀ a ∈ answers, a.Formed ∧ Rests id s a := by
  unfold Attributed at inv
  generalize usbTexts s.log = texts at inv
  induction texts with
  | nil => exact ⟨[], rfl, by simp⟩
  | cons text rest ih =>
    obtain ⟨a, formed, same, rests⟩ := inv text List.mem_cons_self
    obtain ⟨answers, others, all⟩ := ih (fun other inside => inv other (List.mem_cons_of_mem text inside))
    refine ⟨a :: answers, ?_, List.forall_mem_cons.mpr ⟨⟨formed, rests⟩, all⟩⟩
    rw [List.map_cons, same, others]

end Attribution

end EspBase

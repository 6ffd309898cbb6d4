import EspBase.Protocol.Answer
import EspBase.Protocol.EmbeddedNul

set_option autoImplicit false

namespace EspBase

open DurableCell Transition

structure Answer.Conveys (answer : Answer) (out : Outcome) : Prop where
  state : out.state = some answer.state
  error : answer.error = out.error
  result : answer.result = .ofStatus out.status

def Event.spoken : Event → Bool
  | .sent _ _ | .saved _ _ => true
  | _ => false

/-- The events of a log one by one: what is sent is an answer, and what is saved is sent at once. -/
inductive Conversation (deviceId bootId : CString) : List Event → Prop where
  | nil : Conversation deviceId bootId []
  | silent (event : Event) (rest : List Event) (unspoken : event.spoken = false)
      (later : Conversation deviceId bootId rest) :
      Conversation deviceId bootId (event :: rest)
  | answered (viaMqtt : Bool) (answer : Answer) (rest : List Event) (formed : answer.Formed)
      (device : answer.deviceId = deviceId) (boot : answer.bootId = bootId)
      (later : Conversation deviceId bootId rest) :
      Conversation deviceId bootId (delivery viaMqtt answer.bytes :: rest)
  | saved (slot : Nat) (out : Outcome) (answer : Answer) (rest : List Event) (formed : answer.Formed)
      (device : answer.deviceId = deviceId) (boot : answer.bootId = bootId) (conveys : answer.Conveys out)
      (later : Conversation deviceId bootId rest) :
      Conversation deviceId bootId (.saved slot out :: delivery out.viaMqtt answer.bytes :: rest)

section Conversation

variable {deviceId bootId : CString} {log : List Event}

theorem Conversation.append (talk : Conversation deviceId bootId log) (more : List Event)
    (later : Conversation deviceId bootId more) : Conversation deviceId bootId (log ++ more) := by
  induction talk with
  | nil => exact later
  | silent event rest unspoken _ ih => exact .silent event _ unspoken ih
  | answered viaMqtt answer rest formed device boot _ ih =>
    exact .answered viaMqtt answer _ formed device boot ih
  | saved slot out answer rest formed device boot conveys _ ih =>
    exact .saved slot out answer _ formed device boot conveys ih

theorem Conversation.sent (talk : Conversation deviceId bootId log) (viaMqtt : Bool) (text : List UInt8)
    (sent : .sent viaMqtt text ∈ log) :
    ∃ answer : Answer, answer.Formed ∧ answer.deviceId = deviceId ∧ answer.bootId = bootId ∧
      .sent viaMqtt text = delivery viaMqtt answer.bytes := by
  induction talk with
  | nil => cases sent
  | silent event rest unspoken _ ih =>
    rcases List.mem_cons.mp sent with rfl | later
    · cases unspoken
    · exact ih later
  | answered via answer rest formed device boot _ ih =>
    rcases List.mem_cons.mp sent with here | later
    · obtain ⟨rfl, -⟩ := Event.sent.inj here
      exact ⟨answer, formed, device, boot, here⟩
    · exact ih later
  | saved slot out answer rest formed device boot _ _ ih =>
    rcases List.mem_cons.mp sent with other | later
    · cases other
    rcases List.mem_cons.mp later with here | later
    · obtain ⟨same, -⟩ := Event.sent.inj here
      rw [same] at here ⊢
      exact ⟨answer, formed, device, boot, here⟩
    · exact ih later

end Conversation

structure Outcome.Formed (out : Outcome) : Prop where
  agrees : ∃ state, out.state = some state ∧ Agrees state out.error
  sized : ∀ status, out.status = some status → status.Sized

-- The variables that decide what is said.
structure Voice where
  deviceId : CString
  bootId : CString
  guard : Guard
  outcomes : Nat → Outcome
  otaReceived : Nat
  log : List Event

def Control.voice (s : Control) : Voice :=
  { deviceId := s.deviceId
    bootId := s.bootId
    guard := s.guard
    outcomes := s.outcomes
    otaReceived := s.otaReceived
    log := s.log }

structure Voice.Formed (unsaved : Option Nat) (v : Voice) : Prop where
  device : isUuid v.deviceId
  boot : isUuid v.bootId
  ids : ∀ request ∈ v.guard.requests, isUuid request.requestId
  outcomes : ∀ slot < v.guard.requests.length, unsaved ≠ some slot → (v.outcomes slot).Formed
  received : v.otaReceived < 2 ^ 32
  log : Conversation v.deviceId v.bootId v.log

abbrev Speaks (unsaved : Option Nat) (s : Control) : Prop := s.voice.Formed unsaved

def SnapshotAnswers.Sized (a : SnapshotAnswers) : Prop :=
  a.uptime < 2 ^ 64 ∧ a.freeHeap < 2 ^ 32 ∧ a.minimumFreeHeap < 2 ^ 32

variable {build : Build} {unsaved : Option Nat} {s : Control}

theorem Speaks.snapshot (speaks : Speaks unsaved s) (a : SnapshotAnswers) (sized : a.Sized) :
    (EspBase.snapshot build a s).Sized := by
  refine ⟨sized.1, sized.2.1, sized.2.2, speaks.received, ?_⟩
  simp only [EspBase.snapshot]
  split
  · exact s.otaRequest.imageSizeBytes.toNat_lt
  · decide

def requestIdOf (id : CString) : Option CString := if id = .empty then none else some id

def outcomeAnswer (deviceId bootId id : CString) (state : ResultState) (error : Option String)
    (status : Option StatusSnapshot) : Answer :=
  { deviceId, bootId, requestId := requestIdOf id, state, error, result := .ofStatus status }

-- A request without an ID is answered with null.
def Named (id : CString) : Prop := id = .empty ∨ isUuid id

theorem outcomeAnswer_formed (deviceId bootId id : CString) (state : ResultState) (error : Option String)
    (status : Option StatusSnapshot) (device : isUuid deviceId) (boot : isUuid bootId) (named : Named id)
    (agrees : Agrees state error) (sized : ∀ x, status = some x → x.Sized) :
    (outcomeAnswer deviceId bootId id state error status).Formed := by
  refine ⟨device, boot, ?_, agrees, ?_⟩
  · intro other given
    simp only [outcomeAnswer, requestIdOf] at given
    split at given
    · cases given
    next present =>
      obtain rfl := Option.some.inj given
      exact named.resolve_left present
  · cases status with
    | none => trivial
    | some x => exact sized x rfl

theorem sentResult_answer (deviceId bootId id : CString) (viaMqtt : Bool) (state : ResultState)
    (error : Option String) (status : Option StatusSnapshot)
    (formed : (outcomeAnswer deviceId bootId id state error status).Formed) :
    sentResult deviceId bootId viaMqtt id (some state) error status =
      [delivery viaMqtt (outcomeAnswer deviceId bootId id state error status).bytes] := by
  have written := formatResultJson_formed resultJsonBytes (by decide) _ formed status rfl
  simp only [outcomeAnswer, requestIdOf] at written
  rw [sentResult, written]
  rfl

structure Answer.Says (answer : Answer) (state : ResultState) (error : Option String) (result : ResultObject) :
    Prop where
  state : answer.state = state
  error : answer.error = error
  result : answer.result = result

/-- The last that is said is this answer to the request. -/
structure Told (viaMqtt : Bool) (id : CString) (s t : Control) (answer : Answer) : Prop where
  formed : answer.Formed
  device : answer.deviceId = s.deviceId
  boot : answer.bootId = s.bootId
  request : answer.requestId = requestIdOf id
  last : ∃ earlier later, t.log = s.log ++ earlier ++ delivery viaMqtt answer.bytes :: later ∧
    ∀ event ∈ later, event.spoken = false

structure Replies (viaMqtt : Bool) (id : CString) (fate : Answer → Prop) (s t : Control) : Prop where
  speaks : Speaks none t
  tells : ∃ answer, Told viaMqtt id s t answer ∧ fate answer

section Replies

variable {viaMqtt : Bool} {id : CString} {fate : Answer → Prop} {m t : Control}

theorem Replies.weaken (replies : Replies viaMqtt id fate s t) {weaker : Answer → Prop}
    (weakens : ∀ answer, fate answer → weaker answer) : Replies viaMqtt id weaker s t := by
  obtain ⟨speaks, answer, told, tells⟩ := replies
  exact ⟨speaks, answer, told, weakens answer tells⟩

theorem Replies.after (replies : Replies viaMqtt id fate m t) (grown : s.log <+: m.log)
    (device : m.deviceId = s.deviceId) (boot : m.bootId = s.bootId) : Replies viaMqtt id fate s t := by
  obtain ⟨speaks, answer, told, tells⟩ := replies
  obtain ⟨earlier, later, log, unspoken⟩ := told.last
  obtain ⟨more, grew⟩ := grown
  refine ⟨speaks, answer, ⟨told.formed, told.device.trans device, told.boot.trans boot, told.request,
    more ++ earlier, later, ?_, unspoken⟩, tells⟩
  rw [log, ← grew]
  simp only [List.append_assoc]

theorem Replies.before (replies : Replies viaMqtt id fate s m) (events : List Event)
    (grown : t.log = m.log ++ events) (quiet : ∀ event ∈ events, event.spoken = false) (speaks : Speaks none t) :
    Replies viaMqtt id fate s t := by
  obtain ⟨-, answer, told, tells⟩ := replies
  obtain ⟨earlier, later, log, unspoken⟩ := told.last
  refine ⟨speaks, answer, ⟨told.formed, told.device, told.boot, told.request, earlier, later ++ events, ?_, ?_⟩, tells⟩
  · rw [grown, log]
    simp only [List.append_assoc, List.cons_append]
  · intro event member
    rcases List.mem_append.mp member with before | now
    · exact unspoken event before
    · exact quiet event now

end Replies

theorem Speaks.logged (speaks : Speaks unsaved s) (events : List Event)
    (talk : Conversation s.deviceId s.bootId events) :
    Speaks unsaved { s with log := s.log ++ events } :=
  ⟨speaks.device, speaks.boot, speaks.ids, speaks.outcomes, speaks.received, speaks.log.append events talk⟩

theorem reply_replies (id : CString) (state : ResultState) (error : Option String)
    (status : Option StatusSnapshot) (speaks : Speaks none s) (named : Named id) (agrees : Agrees state error)
    (sized : ∀ x, status = some x → x.Sized) :
    Replies s.replyMqtt id (fun answer => answer.Says state error (.ofStatus status)) s
      (reply id (some state) error status s) := by
  have formed := outcomeAnswer_formed s.deviceId s.bootId id state error status speaks.device speaks.boot
    named agrees sized
  rw [reply_eq, sentResult_answer _ _ _ _ _ _ _ formed]
  exact ⟨speaks.logged _ (.answered _ _ _ formed rfl rfl .nil), _,
    ⟨formed, rfl, rfl, rfl, [], [], by simp, by simp⟩, rfl, rfl, rfl⟩

theorem slotRequestId_named (guard : Guard) (ids : ∀ request ∈ guard.requests, isUuid request.requestId)
    (slot : Nat) : Named (slotRequestId guard slot) := by
  unfold slotRequestId
  split
  next request here => exact .inr (ids request (List.mem_of_getElem? here))
  next => exact .inl rfl

theorem saveOutcome_replies (slot : Nat) (state : ResultState) (error : Option String)
    (status : Option StatusSnapshot) (speaks : Speaks unsaved s) (only : ∀ other, unsaved = some other → other = slot)
    (agrees : Agrees state error) (sized : ∀ x, status = some x → x.Sized) :
    Replies (s.outcomes slot).viaMqtt (slotRequestId s.guard slot)
      (fun answer => answer.Says state error (.ofStatus status)) s (saveOutcome slot state error status s) := by
  have named := slotRequestId_named s.guard speaks.ids slot
  have formed := outcomeAnswer_formed s.deviceId s.bootId (slotRequestId s.guard slot) state error status
    speaks.device speaks.boot named agrees sized
  have out : emission s.deviceId s.bootId (slotRequestId s.guard slot) (s.outcomes slot).viaMqtt
      (savedOutcome (s.outcomes slot).viaMqtt state error status) =
        [delivery (s.outcomes slot).viaMqtt (outcomeAnswer s.deviceId s.bootId (slotRequestId s.guard slot)
          state error status).bytes] := sentResult_answer _ _ _ _ _ _ _ formed
  rw [saveOutcome_eq, out]
  refine ⟨⟨speaks.device, speaks.boot, speaks.ids, ?_, speaks.received, ?_⟩, _,
    ⟨formed, rfl, rfl, rfl, [.saved slot (savedOutcome (s.outcomes slot).viaMqtt state error status)], [], by simp,
      by simp⟩, rfl, rfl, rfl⟩
  · intro other inside _
    by_cases here : other = slot
    · subst here
      simp only [Control.voice, Function.update_self]
      exact ⟨⟨state, rfl, agrees⟩, sized⟩
    · simp only [Control.voice, Function.update_of_ne here]
      exact speaks.outcomes other inside (fun same => here (only other same))
  · exact speaks.log.append _ (.saved slot _ _ [] formed rfl rfl ⟨rfl, rfl, rfl⟩ .nil)

theorem emitOutcome_replies (slot : Nat) (viaMqtt : Bool) (speaks : Speaks none s)
    (used : slot < s.guard.requests.length) :
    Replies viaMqtt (slotRequestId s.guard slot) (fun answer => answer.Conveys (s.outcomes slot)) s
      (emitOutcome slot viaMqtt s) := by
  obtain ⟨⟨state, saved, agrees⟩, sized⟩ := speaks.outcomes slot used nofun
  change (s.outcomes slot).state = some state at saved
  have named := slotRequestId_named s.guard speaks.ids slot
  have formed := outcomeAnswer_formed s.deviceId s.bootId (slotRequestId s.guard slot) state
    (s.outcomes slot).error (s.outcomes slot).status speaks.device speaks.boot named agrees sized
  rw [emitOutcome_eq, emission, saved, sentResult_answer _ _ _ _ _ _ _ formed]
  exact ⟨speaks.logged _ (.answered _ _ _ formed rfl rfl .nil), _,
    ⟨formed, rfl, rfl, rfl, [], [], by simp, by simp⟩, saved, rfl, rfl⟩

def Reported (error : Option String) : Prop := ∀ name, error = some name → Identifier name

structure Parsed.Addressed (parsed : Parsed) : Prop where
  named : Named parsed.command.request.requestId
  reported : Reported parsed.error
  identified : parsed.error = none → isUuid parsed.command.request.requestId

theorem refused_addressed (out : Command) (error : String) (named : Named out.request.requestId)
    (identifier : Identifier error) : (refused out error).Addressed := by
  refine ⟨named, ?_, by simp [refused]⟩
  rintro name ⟨⟩
  exact identifier

theorem invalidRequest_addressed (out : Command) (named : Named out.request.requestId) :
    (invalidRequest out).Addressed :=
  refused_addressed out _ named (by decide)

theorem decoded_addressed (out : Command) (uuid : isUuid out.request.requestId) : (decoded out).Addressed :=
  ⟨.inr uuid, nofun, fun _ => uuid⟩

theorem copyId_uuid (object : Option CJson) (key : String) (id : CString)
    (copied : copyId object key = some id) : isUuid id := by
  unfold copyId at copied
  split at copied
  · split at copied
    next whole =>
      obtain rfl := Option.some.inj copied
      exact whole.2
    next => cases copied
  · cases copied

theorem parseConfigSet_addressed (root : Option CJson) (out : Command) (uuid : isUuid out.request.requestId) :
    (parseConfigSet root out).Addressed := by
  have invalid := invalidRequest_addressed out (.inr uuid)
  simp only [parseConfigSet]
  repeat' split
  all_goals first
    | exact invalid
    | exact refused_addressed out _ (.inr uuid) (by decide)
    | exact decoded_addressed _ uuid

theorem parseOtaStart_addressed (decoder : DecoderBuild) (root : Option CJson) (out : Command)
    (uuid : isUuid out.request.requestId) : (parseOtaStart decoder root out).Addressed := by
  simp only [parseOtaStart]
  repeat' split
  all_goals first
    | exact invalidRequest_addressed _ (.inr uuid)
    | exact decoded_addressed _ uuid

theorem parseWrite_addressed (decoder : DecoderBuild) (root : Option CJson) (command : CString)
    (out : Command) (uuid : isUuid out.request.requestId) : (parseWrite decoder root command out).Addressed := by
  simp only [parseWrite]
  repeat' split
  all_goals first
    | exact invalidRequest_addressed _ (.inr uuid)
    | exact parseOtaStart_addressed decoder root _ uuid
    | exact parseConfigSet_addressed root _ uuid
    | exact refused_addressed _ _ (.inr uuid) (by decide)
    | skip
  unfold parseRestart
  split
  · exact invalidRequest_addressed _ (.inr uuid)
  · exact decoded_addressed _ uuid

theorem parseOtaResult_addressed (root : Option CJson) (out : Command) (uuid : isUuid out.request.requestId) :
    (parseOtaResult root out).Addressed := by
  unfold parseOtaResult
  dsimp only
  split
  · exact invalidRequest_addressed _ (.inr uuid)
  split
  · exact invalidRequest_addressed _ (.inr uuid)
  · exact decoded_addressed _ uuid

theorem parseRoot_addressed (decoder : DecoderBuild) (root : Option CJson) (command : CString) :
    (parseRoot decoder root command).Addressed := by
  have unread := invalidRequest_addressed .zero (.inl rfl)
  unfold parseRoot
  dsimp only
  generalize (if (command.bytes == bytesOf "status") = true then statusKeys else _) = keys
  split
  · exact unread
  split
  · exact unread
  next requestId copied =>
    have uuid := copyId_uuid root "request_id" requestId copied
    split
    · exact decoded_addressed _ uuid
    split
    · exact parseOtaResult_addressed root _ uuid
    · exact parseWrite_addressed decoder root command _ uuid

theorem ebaseParseCommand_addressed (decoder : DecoderBuild) (text : List UInt8) :
    (ebaseParseCommand decoder text).Addressed := by
  have unread := invalidRequest_addressed .zero (.inl rfl)
  simp only [ebaseParseCommand]
  repeat' split
  all_goals first
    | exact unread
    | exact parseRoot_addressed decoder _ _

theorem agrees_error (state : ResultState) (name : String) (failed : state ≠ .running ∧ state ≠ .succeeded)
    (identifier : Identifier name) : Agrees state (some name) := by
  constructor
  · simp [failed]
  · rintro other ⟨⟩
    exact identifier

theorem agrees_running : Agrees .running none := ⟨by simp, nofun⟩

theorem agrees_succeeded : Agrees .succeeded none := ⟨by simp, nofun⟩

theorem failed_state : ResultState.failed ≠ .running ∧ ResultState.failed ≠ .succeeded := by decide

theorem unknown_state : ResultState.unknown ≠ .running ∧ ResultState.unknown ≠ .succeeded := by decide

theorem storage_uncertain : Identifier "storage_uncertain" := by decide

theorem writeError_reported (s : Control) : Reported (writeError s) := by
  unfold writeError
  split_ifs <;> rintro name ⟨⟩ <;> decide

theorem configWriteError_reported (state : ControlState) : Reported (configWriteError state) := by
  unfold configWriteError
  split_ifs <;> rintro name ⟨⟩ <;> decide

theorem configSetError_reported (config : RemoteConfig) (s : Control) : Reported (configSetError config s) := by
  unfold configSetError
  split_ifs <;> rintro name ⟨⟩ <;> decide

theorem otaStartError_reported (a : LineAnswers) (s : Control) : Reported (otaStartError build a s) := by
  unfold otaStartError
  split_ifs <;> rintro name ⟨⟩ <;> decide

theorem otaReceiptError_identifier (result : OtaReceiptResult) : Identifier (otaReceiptError result) := by
  cases result <;> decide

theorem admissionError_reported (decision : Admission) : Reported (admissionError decision) := by
  cases decision <;> rintro name ⟨⟩ <;> decide

theorem saveOutcome_speaks (slot : Nat) (state : ResultState) (error : Option String)
    (status : Option StatusSnapshot) (speaks : Speaks none s) (agrees : Agrees state error)
    (sized : ∀ x, status = some x → x.Sized) : Speaks none (saveOutcome slot state error status s) :=
  (saveOutcome_replies slot state error status speaks nofun agrees sized).speaks

theorem Speaks.same (speaks : Speaks unsaved s) {t : Control} (same : t.voice = s.voice) : Speaks unsaved t := by
  rw [Speaks, same]
  exact speaks

theorem Speaks.noted (speaks : Speaks unsaved s) (event : Event) (unspoken : event.spoken = false) :
    Speaks unsaved { s with log := s.log ++ [event] } :=
  speaks.logged [event] (.silent event [] unspoken .nil)

theorem Speaks.received_now (speaks : Speaks unsaved s) (n : Nat) (small : n < 2 ^ 32) :
    Speaks unsaved { s with otaReceived := n } :=
  ⟨speaks.device, speaks.boot, speaks.ids, speaks.outcomes, small, speaks.log⟩

theorem commitTrial_speaks (now : Nat) (a : ConfigurationAnswers) (sized : a.snapshot.Sized)
    (speaks : Speaks none s) : Speaks none (commitTrial build now a s) := by
  have committing := speaks.noted (.committing now s.trialDeadline s.candidate s.wifi) rfl
  obtain ⟨result, stored, wrote⟩ : ∃ result stored, remoteConfigCommitVerified a.commit s.candidate
    s.candidate.revision s.configStore = (result, stored) := ⟨_, _, rfl⟩
  unfold commitTrial
  simp only [wrote]
  split
  next committed =>
    have done := committing.same (t := { s.committed now stored with config := committed })
      (by simp only [Control.voice, Control.committed])
    refine saveOutcome_speaks _ _ _ _ done agrees_succeeded ?_
    rintro x ⟨⟩
    exact done.snapshot a.snapshot sized
  · refine saveOutcome_speaks _ _ _ _ ?_ (agrees_error _ _ unknown_state storage_uncertain) (by simp)
    split
    · exact committing.same (by simp only [Control.voice, restoreCommitted])
    · exact committing.same (by simp only [Control.voice])
  · refine saveOutcome_speaks _ _ _ _ ?_ (agrees_error _ _ failed_state (by decide)) (by simp)
    exact committing.same (by simp only [Control.voice, restoreCommitted])

end EspBase

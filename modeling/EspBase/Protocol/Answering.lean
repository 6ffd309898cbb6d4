import EspBase.Identity.Uuid
import EspBase.Protocol.Operations
import EspBase.Protocol.Successes

set_option autoImplicit false

namespace EspBase

open DurableCell Transition

variable {build : Build} {s : Control}

-- Nothing but the log has changed.
def Unacted (s t : Control) : Prop := t = { s with log := t.log }

def queried (build : Build) (a : LineAnswers) (command : Command) (s : Control) : OtaReceiptResult × OtaReceiptView :=
  otaReceiptQuery build.eota a.query s.deviceId command.operationId
    (s.otaActive && s.otaRequest.operationId = command.operationId) s.receiptStore

/-- What becomes of a line, and what the answer to it says. -/
inductive Fate (build : Build) (a : LineAnswers) (line : Parsed) (s t : Control) (answer : Answer) : Prop where
  | unread (error : String) (unread : line.error = some error) (said : answer.Says .failed (some error) .null)
      (same : Unacted s t)
  | status (fine : line.error = none) (kind : line.command.kind = .status)
      (said : answer.Says .succeeded none (.status (snapshot build a.snapshot s))) (same : Unacted s t)
  | receipt (view : OtaReceiptView) (fine : line.error = none) (kind : line.command.kind = .otaResult)
      (found : queried build a line.command s = (.ok, view))
      (said : answer.Says view.state.result view.errorCode (.receipt view)) (same : Unacted s t)
  | noReceipt (result : OtaReceiptResult) (view : OtaReceiptView) (fine : line.error = none)
      (kind : line.command.kind = .otaResult) (found : queried build a line.command s = (result, view))
      (failed : result ≠ .ok)
      (said : answer.Says (receiptQueryError result).1 (some (receiptQueryError result).2) .null)
      (same : Unacted s t)
  | unhashed (fine : line.error = none) (status : line.command.kind ≠ .status)
      (otaResult : line.command.kind ≠ .otaResult) (unhashed : fingerprinted build a.hashed line.command = none)
      (said : answer.Says .failed (some "resource_failure") .null) (same : Unacted s t)
  | refused (request : Request) (decision : Admission) (slot : Nat) (guard : Guard)
      (write : WriteLine build a line request)
      (admitted : ebaseAdmit s.guard request s.deviceId s.bootId a.admitNow = (decision, slot, guard))
      (refused : decision ≠ .replay ∧ decision ≠ .accept)
      (said : answer.Says (if decision = .expired then .expired else .failed) (admissionError decision) .null)
      (same : Unacted s t)
  | repeated (request held : Request) (slot : Nat) (guard : Guard) (write : WriteLine build a line request)
      (admitted : ebaseAdmit s.guard request s.deviceId s.bootId a.admitNow = (.replay, slot, guard))
      (here : s.guard.requests[slot]? = some held) (repeats : Repeats held request)
      (conveys : answer.Conveys (s.outcomes slot)) (same : Unacted s t)
  | accepted (request : Request) (slot : Nat) (guard : Guard) (write : WriteLine build a line request)
      (admitted : ebaseAdmit s.guard request s.deviceId s.bootId a.admitNow = (.accept, slot, guard))
      (held : t.guard = guard) (decided : Decided line.command slot s t answer)

theorem reply_unacted (id : CString) (state : Option ResultState) (error : Option String)
    (status : Option StatusSnapshot) : Unacted s (reply id state error status s) := by
  rw [Unacted, reply_eq]

theorem Decided.accept {slot other : Nat} {request : Request} {guard : Guard} {command : Command} {t : Control}
    {answer : Answer} (decided : Decided command slot (s.accept other request guard) t answer) :
    Decided command slot s t answer := by
  obtain ⟨conveys, taken⟩ := decided
  refine ⟨conveys, ?_⟩
  have same (unbegun : Unbegun (s.accept other request guard) t) : Unbegun s t :=
    ⟨unbegun.trial, unbegun.ota, unbegun.workers, unbegun.restarted, unbegun.config, unbegun.stored⟩
  generalize answer.state = state at taken
  cases taken with
  | begun begun => exact .begun begun
  | failed unbegun => exact .failed (same unbegun)
  | unknown unbegun => exact .unknown (same unbegun)

theorem Fate.routed {a : LineAnswers} {line : Parsed} {viaMqtt : Bool} {t : Control} {answer : Answer}
    (fate : Fate build a line { s with replyMqtt := viaMqtt } t answer) :
    Fate build a line s { t with replyMqtt := s.replyMqtt } answer := by
  have still (same : Unacted { s with replyMqtt := viaMqtt } t) : Unacted s { t with replyMqtt := s.replyMqtt } := by
    rw [Unacted] at same ⊢
    rw [same]
  cases fate with
  | unread error unread said same => exact .unread error unread said (still same)
  | status fine kind said same => exact .status fine kind said (still same)
  | receipt view fine kind found said same => exact .receipt view fine kind found said (still same)
  | noReceipt result view fine kind found failed said same =>
    exact .noReceipt result view fine kind found failed said (still same)
  | unhashed fine status otaResult unhashed said same =>
    exact .unhashed fine status otaResult unhashed said (still same)
  | refused request decision slot guard write admitted refused said same =>
    exact .refused request decision slot guard write admitted refused said (still same)
  | repeated request held slot guard write admitted here repeats conveys same =>
    exact .repeated request held slot guard write admitted here repeats conveys (still same)
  | accepted request slot guard write admitted held decided =>
    refine .accepted request slot guard write admitted held ⟨decided.conveys, ?_⟩
    have taken := decided.taken
    generalize answer.state = state at taken
    cases taken with
    | begun begun => exact .begun begun
    | failed unbegun =>
      exact .failed ⟨unbegun.trial, unbegun.ota, unbegun.workers, unbegun.restarted, unbegun.config, unbegun.stored⟩
    | unknown unbegun =>
      exact .unknown ⟨unbegun.trial, unbegun.ota, unbegun.workers, unbegun.restarted, unbegun.config, unbegun.stored⟩

theorem evaluate_agrees (eota : EotaBuild) (names : eota.Names) (receipt : Receipt) (workerActive : Bool)
    (a : SlotAnswers) :
    Agrees (evaluate eota receipt workerActive a).1.result (evaluate eota receipt workerActive a).2 := by
  have uncertain : Agrees .unknown (some "ota_result_uncertain") :=
    agrees_error _ _ unknown_state (by decide)
  have rolledBack : Agrees .failed (some "ota_rolled_back") := agrees_error _ _ failed_state (by decide)
  have failed := agrees_error .failed _ failed_state (names receipt.failure.toNat)
  unfold evaluate
  dsimp only
  split_ifs <;> first
    | exact agrees_running
    | exact agrees_succeeded
    | exact uncertain
    | exact failed
    | exact rolledBack

theorem otaReceiptQuery_view (eota : EotaBuild) (names : eota.Names) (a : QueryAnswers)
    (deviceId operationId : CString) (workerActive : Bool) (cell : BlobCell)
    (ok : (otaReceiptQuery eota a deviceId operationId workerActive cell).1 = .ok) :
    let view := (otaReceiptQuery eota a deviceId operationId workerActive cell).2
    isUuid view.operationId ∧ Agrees view.state.result view.errorCode := by
  revert ok
  unfold otaReceiptQuery
  split_ifs with unavailable valid
  · simp
  · simp
  split
  next result failed =>
    intro ok
    rcases receiptLoad_error _ _ _ failed with ⟨missing, -⟩ | uncertain
    · rw [missing] at ok
      cases ok
    · rw [uncertain] at ok
      cases ok
  next receipt loaded =>
    split_ifs with device operation
    · simp
    · simp
    · intro _
      simp only [Bool.or_eq_true, Bool.not_eq_true', not_or, Bool.not_eq_false] at valid
      have uuid : isUuid receipt.operationId := by
        rw [not_not.mp operation]
        exact (isUuid_canonical _).mpr ((validUuid_canonical _).mp valid.2)
      exact ⟨uuid, evaluate_agrees eota names receipt workerActive a.slots⟩

theorem receiptQueryError_agrees (result : OtaReceiptResult) :
    Agrees (receiptQueryError result).1 (some (receiptQueryError result).2) := by
  unfold receiptQueryError
  split
  · exact agrees_error _ _ failed_state (by decide)
  · exact agrees_error _ _ unknown_state (by decide)
  · exact agrees_error _ _ unknown_state (by decide)

theorem receiptAnswer_formed (requestId : CString) (view : OtaReceiptView) (speaks : Speaks none s)
    (uuid : isUuid requestId) (operation : isUuid view.operationId)
    (agrees : Agrees view.state.result view.errorCode) :
    (receiptAnswer s.deviceId s.bootId requestId view).Formed := by
  refine ⟨speaks.device, speaks.boot, ?_, agrees, operation⟩
  rintro id ⟨⟩
  exact uuid

theorem replyOtaResult_formed (requestId : CString) (view : OtaReceiptView)
    (formed : (receiptAnswer s.deviceId s.bootId requestId view).Formed) :
    replyOtaResult requestId view s =
      { s with log := s.log ++
          [delivery s.replyMqtt (receiptAnswer s.deviceId s.bootId requestId view).bytes] } := by
  have short := formed.length
  have room : ¬resultJsonBytes ≤ (receiptAnswer s.deviceId s.bootId requestId view).bytes.length := by
    have bound : frpResponseBytes ≤ resultJsonBytes := by decide
    omega
  unfold replyOtaResult
  simp only [otaResultJson_answer, room, decide_false, Bool.and_false, Bool.false_eq_true, if_false]

theorem replyOtaResult_replies (requestId : CString) (view : OtaReceiptView) (speaks : Speaks none s)
    (uuid : isUuid requestId) (operation : isUuid view.operationId)
    (agrees : Agrees view.state.result view.errorCode) :
    Replies s.replyMqtt requestId (fun answer => answer.Says view.state.result view.errorCode (.receipt view)) s
      (replyOtaResult requestId view s) := by
  have formed := receiptAnswer_formed requestId view speaks uuid operation agrees
  have named : some requestId = requestIdOf requestId := by
    have present : requestId ≠ .empty := by
      rintro rfl
      revert uuid
      decide
    rw [requestIdOf, if_neg present]
  rw [replyOtaResult_formed requestId view formed]
  exact ⟨speaks.logged _ (.answered _ _ _ formed rfl rfl .nil), _,
    ⟨formed, rfl, rfl, named, [], [], by simp, by simp⟩, rfl, rfl, rfl⟩

theorem handleOtaResult_replies (names : build.eota.Names) (a : LineAnswers) (line : Parsed)
    (fine : line.error = none) (kind : line.command.kind = .otaResult) (speaks : Speaks none s)
    (uuid : isUuid line.command.request.requestId) :
    Replies s.replyMqtt line.command.request.requestId
      (Fate build a line s (handleOtaResult build a line.command s)) s (handleOtaResult build a line.command s) := by
  obtain ⟨result, view, found⟩ : ∃ result view, queried build a line.command s = (result, view) := ⟨_, _, rfl⟩
  have viewed := otaReceiptQuery_view build.eota names a.query s.deviceId line.command.operationId
    (s.otaActive && s.otaRequest.operationId = line.command.operationId) s.receiptStore
  have handled : handleOtaResult build a line.command s =
      if result = .ok then replyOtaResult line.command.request.requestId view s
      else reply line.command.request.requestId (some (receiptQueryError result).1)
        (some (receiptQueryError result).2) none s := by
    rw [queried] at found
    unfold handleOtaResult
    dsimp only
    rw [found]
  rw [queried] at found
  rw [found] at viewed
  rw [handled]
  by_cases ok : result = .ok
  · obtain ⟨operation, agrees⟩ := viewed ok
    rw [if_pos ok]
    refine (replyOtaResult_replies _ _ speaks uuid operation agrees).weaken (fun answer said => ?_)
    refine .receipt view fine kind (ok ▸ found) said ?_
    obtain ⟨events, same, -⟩ := replyOtaResult_eq line.command.request.requestId view s
    rw [Unacted, same]
  · rw [if_neg ok]
    refine (reply_replies _ _ _ _ speaks (.inr uuid) (receiptQueryError_agrees _) (by simp)).weaken
      (fun answer said => ?_)
    exact .noReceipt result view fine kind found ok said (reply_unacted _ _ _ _)

theorem refused_agrees (decision : Admission) (refused : decision ≠ .replay ∧ decision ≠ .accept) :
    Agrees (if decision = .expired then .expired else .failed) (admissionError decision) := by
  cases decision with
  | accept => exact absurd rfl refused.2
  | replay => exact absurd rfl refused.1
  | expired => exact agrees_error _ _ (by decide) (by decide)
  | badIdentity | wrongDevice | wrongBoot | badWindow | requestConflict | queueFull =>
    exact agrees_error _ _ (by decide) (by decide)

theorem accept_speaks (slot : Nat) (request : Request) (guard : Guard) (speaks : Speaks none s)
    (appended : slot = s.guard.requests.length) (requests : guard.requests = s.guard.requests ++ [request])
    (uuid : isUuid request.requestId) : Speaks (some slot) (s.accept slot request guard) := by
  constructor
  case device => exact speaks.device
  case boot => exact speaks.boot
  case ids =>
    intro other member
    rw [show (s.accept slot request guard).voice.guard = guard from rfl, requests] at member
    rcases List.mem_append.mp member with before | now
    · exact speaks.ids other before
    · rw [List.mem_singleton.mp now]
      exact uuid
  case outcomes =>
    intro other inside undecided
    have differ : other ≠ slot := fun same => undecided (same ▸ rfl)
    have earlier : other < s.guard.requests.length := by
      rw [show (s.accept slot request guard).voice.guard = guard from rfl, requests, List.length_append,
        List.length_singleton] at inside
      omega
    have kept : (s.accept slot request guard).voice.outcomes other = s.outcomes other :=
      Function.update_of_ne differ _ s.outcomes
    rw [kept]
    exact speaks.outcomes other earlier (by simp)
  case received => exact speaks.received
  case log => exact (speaks.noted (.accepted slot s.replyMqtt request) rfl).log

theorem handleWrite_replies (a : LineAnswers) (line : Parsed) (request : Request)
    (write : WriteLine build a line request) (speaks : Speaks none s) (uuid : isUuid request.requestId) :
    Replies s.replyMqtt request.requestId
      (Fate build a line s (handleWrite build a line.command request s)) s
      (handleWrite build a line.command request s) := by
  have cases := ebaseAdmit_cases s.guard request s.deviceId s.bootId a.admitNow
  have replays := ebaseAdmit_replay s.guard request s.deviceId s.bootId a.admitNow
  obtain ⟨decision, slot, guard, admitted⟩ : ∃ decision slot guard,
      ebaseAdmit s.guard request s.deviceId s.bootId a.admitNow = (decision, slot, guard) := ⟨_, _, _, rfl⟩
  rw [admitted] at cases replays
  dsimp only at cases replays
  unfold handleWrite
  rw [admitted]
  dsimp only
  split
  · obtain ⟨held, here, same, deadline, print⟩ := replays rfl
    have used : slot < s.guard.requests.length := (List.getElem?_eq_some_iff.mp here).1
    have emitted := emitOutcome_replies slot s.replyMqtt speaks used
    rw [slotRequestId_here here, same] at emitted
    refine emitted.weaken (fun answer conveys => ?_)
    refine .repeated request held slot guard write admitted here ⟨same.symm, deadline.symm, print.symm⟩ conveys ?_
    rw [Unacted, emitOutcome_eq]
  · rcases cases with ⟨refused, -⟩ | ⟨-, appended, requests, -, -⟩
    · exact absurd rfl refused
    have executed := @execute_replies build _ a line.command slot
      (accept_speaks slot request guard speaks appended requests uuid)
    have here : guard.requests[slot]? = some request := by rw [requests, appended]; simp
    have via : ((s.accept slot request guard).outcomes slot).viaMqtt = s.replyMqtt := by simp
    rw [via, show (s.accept slot request guard).guard = guard from rfl, slotRequestId_here here] at executed
    refine Replies.weaken (executed.after (List.prefix_append _ _) rfl rfl) (fun answer decided => ?_)
    exact .accepted request slot guard write admitted (execute_guard build a line.command slot _) decided.accept
  next unreplayed unaccepted =>
    refine (reply_replies _ _ _ _ speaks (.inr uuid) (refused_agrees _ ⟨unreplayed, unaccepted⟩) (by simp)).weaken
      (fun answer said => ?_)
    exact .refused request decision slot guard write admitted ⟨unreplayed, unaccepted⟩ said (reply_unacted _ _ _ _)

theorem fingerprinted_request (hashed : Bool) (command : Command) (request : Request)
    (printed : fingerprinted build hashed command = some request) :
    request.requestId = command.request.requestId := by
  unfold fingerprinted at printed
  split at printed
  · split at printed
    · split at printed
      · cases printed
        rfl
      · cases printed
    · cases printed
  · split at printed
    · cases printed
      rfl
    · cases printed
  · cases printed
    rfl

theorem handleLine_replies (names : build.eota.Names) (decoder : DecoderBuild) (a : LineAnswers)
    (sized : a.snapshot.Sized) (text : List UInt8) (speaks : Speaks none s) :
    Replies s.replyMqtt (ebaseParseCommand decoder text).command.request.requestId
      (Fate build a (ebaseParseCommand decoder text) s (handleLine build a (ebaseParseCommand decoder text) s)) s
      (handleLine build a (ebaseParseCommand decoder text) s) := by
  have addressed := ebaseParseCommand_addressed decoder text
  generalize ebaseParseCommand decoder text = line at addressed
  unfold handleLine
  dsimp only
  split
  next error reported =>
    refine (reply_replies _ _ _ _ speaks addressed.named
      (agrees_error _ _ failed_state (addressed.reported error reported)) (by simp)).weaken (fun answer said => ?_)
    exact .unread error reported said (reply_unacted _ _ _ _)
  next fine =>
    have uuid := addressed.identified fine
    split
    next kind =>
      refine (reply_replies _ _ _ _ speaks addressed.named agrees_succeeded ?_).weaken (fun answer said => ?_)
      · rintro x ⟨⟩
        exact speaks.snapshot a.snapshot sized
      · exact .status fine kind said (reply_unacted _ _ _ _)
    next kind => exact handleOtaResult_replies names a line fine kind speaks uuid
    next status otaResult =>
      split
      next unhashed =>
        refine (reply_replies _ _ _ _ speaks addressed.named
          (agrees_error _ _ failed_state (by decide)) (by simp)).weaken (fun answer said => ?_)
        exact .unhashed fine status otaResult unhashed said (reply_unacted _ _ _ _)
      next request printed =>
        have same := fingerprinted_request a.hashed line.command request printed
        rw [← same] at uuid ⊢
        exact handleWrite_replies a line request ⟨fine, status, otaResult, printed⟩ speaks uuid

def Label.Received (decoder : DecoderBuild) : Label → Prop
  | .line _ a parsed => (∃ text, parsed = ebaseParseCommand decoder text) ∧ a.snapshot.Sized
  | .pollConfiguration _ a => a.snapshot.Sized
  | .workerProgress received => received < 2 ^ 32
  | _ => True

theorem act_speaks (names : build.eota.Names) (decoder : DecoderBuild) (label : Label)
    (received : label.Received decoder) (speaks : Speaks none s) : Speaks none (act build label s) := by
  cases label with
  | line viaMqtt a line =>
    obtain ⟨⟨text, rfl⟩, sized⟩ := received
    cases viaMqtt with
    | false => exact (handleLine_replies names decoder a sized text speaks).speaks
    | true =>
      have routed : Speaks none { s with replyMqtt := true } := speaks.same rfl
      exact (handleLine_replies names decoder a sized text routed).speaks.same rfl
  | pollConfiguration now a => exact pollConfiguration_speaks now a received speaks
  | pollOta a => exact pollOta_speaks names a speaks
  | wifiEvent event => exact speaks.same rfl
  | wifiPoll now a => exact speaks.same rfl
  | workerProgress n =>
    change Speaks none (workerProgress n s)
    unfold workerProgress
    split
    · exact speaks
    · exact speaks.received_now n received
  | workerDone prepared selected =>
    change Speaks none (workerDone prepared selected s)
    unfold workerDone
    split
    · exact speaks
    · exact speaks.same rfl
  | slotConfirmed => exact speaks.same rfl
  | otherClaim =>
    change Speaks none (otherClaim s)
    unfold otherClaim
    dsimp only
    split
    · exact speaks.same rfl
    · exact speaks.same rfl
  | otherRelease index =>
    change Speaks none (otherRelease index s)
    unfold otherRelease
    split
    · exact speaks
    · dsimp only
      split
      · exact speaks.same rfl
      · exact speaks

theorem boot_speaks (b : Boot) (device : isUuid b.deviceId) (boot : isUuid b.bootId) : Speaks none b.control := by
  constructor
  case device => exact device
  case boot => exact boot
  case ids => simp [Control.voice, Boot.control, Guard.empty]
  case outcomes => simp [Control.voice, Boot.control, Guard.empty]
  case received => simp [Control.voice, Boot.control]
  case log => exact .nil

theorem run_speaks (names : build.eota.Names) (decoder : DecoderBuild) (b : Boot) (device : isUuid b.deviceId)
    (boot : isUuid b.bootId) (labels : List Label) (received : ∀ label ∈ labels, label.Received decoder) :
    Speaks none (runBoot build b labels) := by
  refine run_invariant_of ?_ labels received b.control (boot_speaks b device boot)
  intro label s given speaks
  unfold step
  split
  · exact speaks
  · exact act_speaks names decoder label given speaks

end EspBase

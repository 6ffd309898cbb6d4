import EspBase.Ota.ReceiptRuns
import EspBase.Protocol.Exclusion

set_option autoImplicit false

namespace EspBase

open Transition

inductive Action where
  | trial
  | registration
  | worker
  | restart
deriving DecidableEq, Repr

def Event.request : Event → Option Request
  | .accepted _ _ request => some request
  | _ => none

def Event.started : Event → Option (Nat × Action)
  | .trialStarted slot _ _ _ => some (slot, .trial)
  | .registering slot _ _ => some (slot, .registration)
  | .workerCreated slot _ => some (slot, .worker)
  | .restarting slot => some (slot, .restart)
  | _ => none

def Event.actionAt (slot : Nat) (event : Event) : Option Action :=
  match event.started with
  | some (other, action) => if other = slot then some action else none
  | none => none

def Event.savedAt (slot : Nat) : Event → Option Outcome
  | .saved other out => if other = slot then some out else none
  | _ => none

def actions (slot : Nat) (log : List Event) : List Action := picked (Event.actionAt slot) log

def history (slot : Nat) (log : List Event) : List Outcome := picked (Event.savedAt slot) log

@[simp] theorem actions_nil (slot : Nat) : actions slot [] = [] := rfl

@[simp] theorem actions_append (slot : Nat) (log new : List Event) :
    actions slot (log ++ new) = actions slot log ++ actions slot new :=
  picked_append log new

@[simp] theorem actions_cons (slot : Nat) (event : Event) (log : List Event) :
    actions slot (event :: log) = (event.actionAt slot).toList ++ actions slot log :=
  picked_cons event log

@[simp] theorem history_nil (slot : Nat) : history slot [] = [] := rfl

@[simp] theorem history_append (slot : Nat) (log new : List Event) :
    history slot (log ++ new) = history slot log ++ history slot new :=
  picked_append log new

@[simp] theorem history_cons (slot : Nat) (event : Event) (log : List Event) :
    history slot (event :: log) = (event.savedAt slot).toList ++ history slot log :=
  picked_cons event log

/-- What one accepted write may start. -/
def StartedOnce (started : List Action) : Prop :=
  started ∈ [[], [.trial], [.registration], [.registration, .worker], [.restart]]

/-- Every saved outcome is sent at once, on the channel that it carries. -/
def Answered (deviceId bootId : CString) (requests : List Request) (log : List Event) : Prop :=
  ∀ before slot out after, log = before ++ .saved slot out :: after →
    ∃ request, requests[slot]? = some request ∧
      emission deviceId bootId request.requestId out.viaMqtt out <+: after

section Answered

variable {deviceId bootId : CString} {requests : List Request}

theorem Answered.saved {slot : Nat} {out : Outcome} {rest : List Event} (request : Request)
    (here : requests[slot]? = some request)
    (sent : emission deviceId bootId request.requestId out.viaMqtt out <+: rest)
    (others : Answered deviceId bootId requests rest) :
    Answered deviceId bootId requests (.saved slot out :: rest) := by
  intro before other kept after split
  cases before with
  | nil =>
    cases split
    exact ⟨request, here, sent⟩
  | cons event before => exact others before other kept after (List.cons.inj split).2

theorem Answered.append {log new : List Event} (old : Answered deviceId bootId requests log)
    (later : Answered deviceId bootId requests new) :
    Answered deviceId bootId requests (log ++ new) := by
  intro before slot out after split
  rcases List.append_eq_append_iff.mp split with ⟨between, -, here⟩ | ⟨between, here, there⟩
  · exact later between slot out after here
  · cases between with
    | nil => exact later [] slot out after there.symm
    | cons event between =>
      obtain ⟨rfl, rfl⟩ := List.cons.inj there
      obtain ⟨request, held, sent⟩ := old before slot out between here
      exact ⟨request, held, sent.trans (List.prefix_append between new)⟩

theorem Answered.grow {log : List Event} (old : Answered deviceId bootId requests log)
    (request : Request) : Answered deviceId bootId (requests ++ [request]) log := by
  intro before slot out after split
  obtain ⟨held, here, sent⟩ := old before slot out after split
  refine ⟨held, ?_, sent⟩
  rw [List.getElem?_append_left (List.getElem?_eq_some_iff.mp here).choose, here]

theorem answered_unsaved {log : List Event} (unsaved : ∀ slot, history slot log = []) :
    Answered deviceId bootId requests log := by
  rintro before slot out after rfl
  have none := unsaved slot
  simp [Event.savedAt] at none

end Answered

-- What the slot table and the log say about each other; `unsaved` is the slot that
-- was accepted and has no outcome yet.
structure Ledger (unsaved : Option Nat) (s : Control) : Prop where
  requests : picked Event.request s.log = s.guard.requests
  distinct : (s.guard.requests.map Request.requestId).Nodup
  addressed : ∀ held ∈ s.guard.requests, held.deviceId = s.deviceId ∧ held.bootId = s.bootId ∧
    isUuid held.requestId ∧ isUuid s.deviceId ∧ isUuid s.bootId
  accepted : ∀ slot viaMqtt held, .accepted slot viaMqtt held ∈ s.log →
    s.guard.requests[slot]? = some held ∧ (s.outcomes slot).viaMqtt = viaMqtt
  recorded : ∀ slot held, s.guard.requests[slot]? = some held →
    .accepted slot (s.outcomes slot).viaMqtt held ∈ s.log
  fresh : ∀ slot, unsaved = some slot → history slot s.log = []
  last : ∀ slot < s.guard.requests.length, unsaved ≠ some slot →
    (history slot s.log).getLast? = some (s.outcomes slot)
  running : ∀ slot, ∀ out ∈ (history slot s.log).dropLast, out.state = some .running
  routed : ∀ slot, ∀ out ∈ history slot s.log, out.viaMqtt = (s.outcomes slot).viaMqtt
  started : ∀ slot, StartedOnce (actions slot s.log)
  unused : ∀ slot, s.guard.requests.length ≤ slot →
    history slot s.log = [] ∧ actions slot s.log = []
  answered : Answered s.deviceId s.bootId s.guard.requests s.log

structure Quiet (events : List Event) : Prop where
  request : picked Event.request events = []
  started : ∀ slot, actions slot events = []
  saved : ∀ slot, history slot events = []

theorem quiet_of (events : List Event)
    (silent : ∀ event ∈ events, event.request = none ∧ event.started = none ∧
      ∀ slot, event.savedAt slot = none) : Quiet events := by
  refine ⟨List.filterMap_eq_nil_iff.mpr ?_, fun slot => List.filterMap_eq_nil_iff.mpr ?_,
    fun slot => List.filterMap_eq_nil_iff.mpr ?_⟩
  · exact fun event member => (silent event member).1
  · intro event member
    simp [Event.actionAt, (silent event member).2.1]
  · exact fun event member => (silent event member).2.2 slot

theorem quiet_sent (viaMqtt : Bool) (events : List Event)
    (sent : ∀ event ∈ events, ∃ text, event = .sent viaMqtt text) : Quiet events := by
  refine quiet_of events (fun event member => ?_)
  obtain ⟨text, rfl⟩ := sent event member
  exact ⟨rfl, rfl, fun _ => rfl⟩

theorem quiet_emission (deviceId bootId requestId : CString) (viaMqtt : Bool) (out : Outcome) :
    Quiet (emission deviceId bootId requestId viaMqtt out) :=
  quiet_sent viaMqtt _ (sentResult_sent _ _ _ _ _ _ _)

theorem slotRequestId_here {guard : Guard} {slot : Nat} {held : Request}
    (here : guard.requests[slot]? = some held) : slotRequestId guard slot = held.requestId := by
  rw [slotRequestId, here]

theorem unaccepted {events : List Event} (none : picked Event.request events = []) {slot : Nat}
    {viaMqtt : Bool} {held : Request} : .accepted slot viaMqtt held ∉ events := by
  intro member
  exact absurd (List.filterMap_eq_nil_iff.mp none _ member) (by simp [Event.request])

structure SameTable (s t : Control) : Prop where
  device : t.deviceId = s.deviceId
  boot : t.bootId = s.bootId
  guard : t.guard = s.guard
  outcomes : t.outcomes = s.outcomes

theorem Ledger.logged {unsaved : Option Nat} {s t : Control} (inv : Ledger unsaved s)
    (same : SameTable s t) (events : List Event) (request : picked Event.request events = [])
    (saved : ∀ slot, history slot events = [])
    (started : ∀ slot, StartedOnce (actions slot s.log ++ actions slot events))
    (unused : ∀ slot, s.guard.requests.length ≤ slot → actions slot events = [])
    (log : t.log = s.log ++ events) : Ledger unsaved t := by
  have histories (slot : Nat) : history slot t.log = history slot s.log := by
    rw [log, history_append, saved, List.append_nil]
  constructor
  case requests =>
    rw [log, picked_append, request, List.append_nil, same.guard, inv.requests]
  case distinct =>
    rw [same.guard]
    exact inv.distinct
  case addressed =>
    rw [same.guard, same.device, same.boot]
    exact inv.addressed
  case accepted =>
    intro slot viaMqtt held member
    rw [log, List.mem_append] at member
    rw [same.guard, same.outcomes]
    exact inv.accepted slot viaMqtt held (member.resolve_right (unaccepted request))
  case recorded =>
    intro slot held here
    rw [same.guard] at here
    rw [log, same.outcomes]
    exact List.mem_append_left _ (inv.recorded slot held here)
  case fresh =>
    simpa only [histories] using inv.fresh
  case last =>
    rw [same.guard, same.outcomes]
    simpa only [histories] using inv.last
  case running =>
    simpa only [histories] using inv.running
  case routed =>
    rw [same.outcomes]
    simpa only [histories] using inv.routed
  case started =>
    intro slot
    rw [log, actions_append]
    exact started slot
  case unused =>
    intro slot beyond
    rw [same.guard] at beyond
    rw [histories, log, actions_append, unused slot beyond, List.append_nil]
    exact inv.unused slot beyond
  case answered =>
    rw [same.device, same.boot, same.guard, log]
    exact inv.answered.append (answered_unsaved saved)

theorem Ledger.noted {unsaved : Option Nat} {s t : Control} (inv : Ledger unsaved s)
    (same : SameTable s t) (events : List Event) (quiet : Quiet events)
    (log : t.log = s.log ++ events) : Ledger unsaved t := by
  refine inv.logged same events quiet.request quiet.saved (fun slot => ?_)
    (fun slot _ => quiet.started slot) log
  rw [quiet.started, List.append_nil]
  exact inv.started slot

theorem Ledger.unchanged {unsaved : Option Nat} {s t : Control} (inv : Ledger unsaved s)
    (same : SameTable s t) (log : t.log = s.log) : Ledger unsaved t :=
  inv.noted same [] (quiet_of [] (by simp)) (by simpa using log)

theorem saveOutcome_history (slot other : Nat) (state : ResultState) (error : Option String)
    (status : Option StatusSnapshot) (s : Control) :
    history other (saveOutcome slot state error status s).log = history other s.log ++
      if slot = other then [savedOutcome (s.outcomes slot).viaMqtt state error status] else [] := by
  simp only [saveOutcome_eq, history_append, history_cons, (quiet_emission _ _ _ _ _).saved]
  by_cases same : slot = other <;> simp [Event.savedAt, same]

theorem saveOutcome_actions (slot other : Nat) (state : ResultState) (error : Option String)
    (status : Option StatusSnapshot) (s : Control) :
    actions other (saveOutcome slot state error status s).log = actions other s.log := by
  simp only [saveOutcome_eq, actions_append, actions_cons, (quiet_emission _ _ _ _ _).started]
  simp [Event.actionAt, Event.started]

theorem Ledger.saved {unsaved : Option Nat} {s : Control} (inv : Ledger unsaved s) (slot : Nat)
    (state : ResultState) (error : Option String) (status : Option StatusSnapshot)
    (inside : slot < s.guard.requests.length)
    (due : unsaved = some slot ∨ unsaved = none ∧ (s.outcomes slot).state = some .running) :
    Ledger none (saveOutcome slot state error status s) := by
  have histories (other : Nat) := saveOutcome_history slot other state error status s
  have acted (other : Nat) := saveOutcome_actions slot other state error status s
  rw [saveOutcome_eq] at histories acted ⊢
  set out := savedOutcome (s.outcomes slot).viaMqtt state error status with out_def
  have channel : out.viaMqtt = (s.outcomes slot).viaMqtt := rfl
  set sent := emission s.deviceId s.bootId (slotRequestId s.guard slot) (s.outcomes slot).viaMqtt out
    with sent_def
  have quiet : Quiet sent := quiet_emission _ _ _ _ _
  have channels (other : Nat) :
      (Function.update s.outcomes slot out other).viaMqtt = (s.outcomes other).viaMqtt := by
    by_cases same : other = slot
    · rw [same, Function.update_self, channel]
    · rw [Function.update_of_ne same]
  constructor
  case requests =>
    change picked Event.request (s.log ++ .saved slot out :: sent) = s.guard.requests
    rw [picked_append, picked_cons, quiet.request, inv.requests]
    simp [Event.request]
  case distinct =>
    exact inv.distinct
  case addressed =>
    exact inv.addressed
  case accepted =>
    intro other viaMqtt held member
    have before : .accepted other viaMqtt held ∈ s.log := by
      refine (List.mem_append.mp member).resolve_right ?_
      rw [List.mem_cons, not_or]
      exact ⟨nofun, unaccepted quiet.request⟩
    rw [channels]
    exact inv.accepted other viaMqtt held before
  case recorded =>
    intro other held here
    rw [channels]
    exact List.mem_append_left _ (inv.recorded other held here)
  case fresh =>
    nofun
  case last =>
    intro other within _
    simp only [histories]
    by_cases same : slot = other
    · simp [same]
    · rw [if_neg same, List.append_nil, Function.update_of_ne (Ne.symm same)]
      refine inv.last other within ?_
      rcases due with rfl | ⟨rfl, -⟩ <;> simp [same]
  case running =>
    intro other kept member
    simp only [histories] at member
    by_cases same : slot = other
    · subst same
      rw [if_pos rfl, List.dropLast_concat] at member
      rcases due with rfl | ⟨rfl, running⟩
      · rw [inv.fresh slot rfl] at member
        cases member
      · have closed := inv.last slot inside nofun
        rw [← List.dropLast_append_getLast? _ closed, List.mem_append, List.mem_singleton] at member
        rcases member with earlier | rfl
        · exact inv.running slot kept earlier
        · exact running
    · rw [if_neg same, List.append_nil] at member
      exact inv.running other kept member
  case routed =>
    intro other kept member
    simp only [histories, List.mem_append] at member
    rw [channels]
    rcases member with earlier | now
    · exact inv.routed other kept earlier
    · split at now
      next same =>
        subst same
        rw [List.mem_singleton.mp now, channel]
      next => cases now
  case started =>
    intro other
    simp only [acted]
    exact inv.started other
  case unused =>
    intro other beyond
    have others : slot ≠ other := by
      rintro rfl
      exact absurd inside (Nat.not_lt.mpr beyond)
    simp only [histories, acted, if_neg others, List.append_nil]
    exact inv.unused other beyond
  case answered =>
    obtain ⟨held, here⟩ : ∃ held, s.guard.requests[slot]? = some held :=
      ⟨_, List.getElem?_eq_getElem inside⟩
    have named : emission s.deviceId s.bootId held.requestId out.viaMqtt out = sent := by
      rw [sent_def, slotRequestId_here here, channel]
    have unsaved : Answered s.deviceId s.bootId s.guard.requests sent := answered_unsaved quiet.saved
    exact inv.answered.append (.saved held here (named ▸ List.prefix_refl _) unsaved)

-- What a slot starts when its request is accepted.
def StartedBy (slot : Nat) (events : List Event) : Prop :=
  ∀ event ∈ events, ∃ action, event.started = some (slot, action)

section StartedBy

variable {slot : Nat} {events : List Event} (own : StartedBy slot events)
include own

theorem StartedBy.request : picked Event.request events = [] := by
  refine List.filterMap_eq_nil_iff.mpr (fun event member => ?_)
  obtain ⟨action, starts⟩ := own event member
  cases event <;> first | rfl | cases starts

theorem StartedBy.saved (other : Nat) : history other events = [] := by
  refine List.filterMap_eq_nil_iff.mpr (fun event member => ?_)
  obtain ⟨action, starts⟩ := own event member
  cases event <;> first | rfl | cases starts

theorem StartedBy.elsewhere (other : Nat) (elsewhere : other ≠ slot) : actions other events = [] := by
  refine List.filterMap_eq_nil_iff.mpr (fun event member => ?_)
  obtain ⟨action, starts⟩ := own event member
  simp [Event.actionAt, starts, Ne.symm elsewhere]

end StartedBy

-- A request enters the table; whatever it starts at once is logged with it.
theorem Ledger.opened {s x : Control} (inv : Ledger none s) (slot : Nat) (request : Request)
    (guard : Guard) (accepted : Accepted s slot request guard) (begun : List Event)
    (same : SameTable (s.accept slot request guard) x)
    (log : x.log = s.log ++ .accepted slot s.replyMqtt request :: begun)
    (own : StartedBy slot begun)
    (once : StartedOnce (actions slot begun)) : Ledger (some slot) x := by
  have here := accepted.slot
  have unsaved := own.saved
  have histories (other : Nat) : history other x.log = history other s.log := by
    simp [log, unsaved, Event.savedAt]
  have acted (other : Nat) : actions other x.log = actions other s.log ++ actions other begun := by
    simp [log, Event.actionAt, Event.started]
  have channels (other : Nat) : (x.outcomes other).viaMqtt =
      if other = slot then s.replyMqtt else (s.outcomes other).viaMqtt := by
    rw [same.outcomes]
    by_cases new : other = slot <;> simp [Control.accept, new]
  have outcomes (other : Nat) (old : other ≠ slot) : x.outcomes other = s.outcomes other := by
    rw [same.outcomes]
    exact Function.update_of_ne old _ _
  have table : x.guard.requests = s.guard.requests ++ [request] := by
    rw [same.guard]
    exact accepted.requests
  have device : x.deviceId = s.deviceId := same.device
  have boot : x.bootId = s.bootId := same.boot
  constructor
  case requests =>
    rw [log, table, picked_append, picked_cons, own.request, inv.requests]
    rfl
  case distinct =>
    rw [table, List.map_append, List.nodup_append]
    refine ⟨inv.distinct, by simp, ?_⟩
    intro id old new member
    obtain ⟨previous, held, rfl⟩ := List.mem_map.mp old
    rw [List.mem_singleton.mp member]
    exact accepted.fresh previous held
  case addressed =>
    intro held member
    rw [device, boot]
    rcases List.mem_append.mp (table ▸ member) with old | new
    · exact inv.addressed held old
    · rw [List.mem_singleton.mp new]
      exact ⟨accepted.device, accepted.boot, accepted.uuids⟩
  case accepted =>
    intro other viaMqtt held member
    rw [log, List.mem_append, List.mem_cons] at member
    rw [channels, table]
    rcases member with old | new | never
    · obtain ⟨held_here, channel⟩ := inv.accepted other viaMqtt held old
      have inside := (List.getElem?_eq_some_iff.mp held_here).choose
      rw [List.getElem?_append_left inside, if_neg (by omega)]
      exact ⟨held_here, channel⟩
    · cases new
      rw [here, List.getElem?_concat_length, if_pos rfl]
      exact ⟨rfl, rfl⟩
    · exact absurd never (unaccepted own.request)
  case recorded =>
    intro other held held_here
    rw [log, channels]
    rw [table] at held_here
    by_cases new : other = slot
    · rw [new, here, List.getElem?_concat_length] at held_here
      cases held_here
      simp [new]
    · rw [if_neg new]
      have inside : other < (s.guard.requests ++ [request]).length :=
        (List.getElem?_eq_some_iff.mp held_here).choose
      rw [List.length_append, List.length_singleton] at inside
      rw [List.getElem?_append_left (by omega)] at held_here
      exact List.mem_append_left _ (inv.recorded other held held_here)
  case fresh =>
    intro other new
    obtain rfl := Option.some.inj new
    rw [histories]
    exact (inv.unused slot here.ge).1
  case last =>
    intro other within old
    have elsewhere : other ≠ slot := fun new => old (by rw [new])
    rw [table, List.length_append, List.length_singleton] at within
    rw [histories, outcomes other elsewhere]
    exact inv.last other (by omega) nofun
  case running =>
    simpa only [histories] using inv.running
  case routed =>
    intro other kept member
    rw [histories] at member
    by_cases new : other = slot
    · rw [new, (inv.unused slot here.ge).1] at member
      cases member
    · rw [outcomes other new]
      exact inv.routed other kept member
  case started =>
    intro other
    rw [acted]
    by_cases new : other = slot
    · rw [new, (inv.unused slot here.ge).2]
      exact once
    · rw [own.elsewhere other new, List.append_nil]
      exact inv.started other
  case unused =>
    intro other beyond
    rw [table, List.length_append, List.length_singleton] at beyond
    rw [histories, acted, own.elsewhere other (by omega), List.append_nil]
    exact inv.unused other (by omega)
  case answered =>
    rw [device, boot, table, log]
    refine (inv.answered.grow request).append (answered_unsaved (fun other => ?_))
    simp [unsaved, Event.savedAt]

structure Pending (s : Control) : Prop where
  trial : s.trialActive = true →
    s.trialSlot < s.guard.requests.length ∧ (s.outcomes s.trialSlot).state = some .running
  ota : s.otaActive = true →
    s.otaSlot < s.guard.requests.length ∧ (s.outcomes s.otaSlot).state = some .running

theorem Accepted.inside {s : Control} {slot : Nat} {request : Request} {guard : Guard}
    (accepted : Accepted s slot request guard) : slot < guard.requests.length := by
  simp [accepted.slot, accepted.requests]

variable (build : Build)

theorem actions_begun (slot : Nat) (begun : List Event) (started : List Action)
    (begins : begun.map Event.started = started.map (fun action => some (slot, action))) :
    actions slot begun = started ∧
      ∀ event ∈ begun, ∃ action, event.started = some (slot, action) := by
  induction begun generalizing started with
  | nil =>
    obtain rfl := List.map_eq_nil_iff.mp begins.symm
    exact ⟨rfl, by simp⟩
  | cons event rest ih =>
    cases started with
    | nil => cases begins
    | cons action others =>
      obtain ⟨first, later⟩ := List.cons.inj begins
      obtain ⟨same, own⟩ := ih others later
      refine ⟨by simp [Event.actionAt, first, same], ?_⟩
      intro other member
      rcases List.mem_cons.mp member with rfl | member
      · exact ⟨action, first⟩
      · exact own other member

theorem Ledger.began {s x : Control} (inv : Ledger none s) {slot : Nat}
    {request : Request} {guard : Guard} (accepted : Accepted s slot request guard) (begun : List Event)
    (started : List Action) (same : SameTable (s.accept slot request guard) x)
    (log : x.log = (s.accept slot request guard).log ++ begun)
    (begins : begun.map Event.started = started.map (fun action => some (slot, action)))
    (once : StartedOnce started) (state : ResultState) (error : Option String) :
    Ledger none (saveOutcome slot state error none x) := by
  obtain ⟨same_actions, own⟩ := actions_begun slot begun started begins
  refine (inv.opened slot request guard accepted begun same ?_ own ?_).saved slot state error none
    ?_ (.inl rfl)
  · simpa using log
  · rw [same_actions]
    exact once
  · rw [same.guard]
    exact accepted.inside

theorem Ledger.closed {s x : Control} (inv : Ledger none s) (same : SameTable s x)
    (events : List Event) (quiet : Quiet events) (log : x.log = s.log ++ events) (slot : Nat)
    (due : slot < s.guard.requests.length ∧ (s.outcomes slot).state = some .running)
    (state : ResultState) (error : Option String) (status : Option StatusSnapshot) :
    Ledger none (saveOutcome slot state error status x) := by
  refine (inv.noted same events quiet log).saved slot state error status ?_ (.inr ⟨rfl, ?_⟩)
  · rw [same.guard]
    exact due.1
  · rw [same.outcomes]
    exact due.2

theorem quiet_nil : Quiet [] := quiet_of [] (by simp)

theorem quiet_committing (now deadline : Nat) (candidate : RemoteConfig) (wifi : WifiRuntime) :
    Quiet [.committing now deadline candidate wifi] :=
  quiet_of _ (by simp [Event.request, Event.started, Event.savedAt])

theorem Ledger.registered {s x : Control} (inv : Ledger none s) {slot : Nat} {request : Request} {guard : Guard}
    (accepted : Accepted s slot request guard) (ota : OtaRequest) (result : OtaReceiptResult)
    (same : SameTable (s.accept slot request guard) x)
    (log : x.log = (s.accept slot request guard).log ++ [.registering slot ota result])
    (state : ResultState) (error : Option String) : Ledger none (saveOutcome slot state error none x) :=
  inv.began accepted [.registering slot ota result] [.registration] same log rfl (by simp [StartedOnce]) state error

theorem Ledger.tried {s : Control} (inv : Ledger none s) {slot : Nat} {request : Request} {guard : Guard}
    (accepted : Accepted s slot request guard) (candidate : RemoteConfig) (startedAt : Nat) :
    Ledger none (saveOutcome slot .running none none
      ((s.accept slot request guard).trying slot candidate startedAt)) :=
  inv.began (x := (s.accept slot request guard).trying slot candidate startedAt) accepted
    [.trialStarted slot candidate startedAt s.configStore] [.trial] ⟨rfl, rfl, rfl, rfl⟩ rfl rfl
    (by simp [StartedOnce]) .running none

theorem Ledger.restarting {s : Control} (inv : Ledger none s) {slot : Nat} {request : Request} {guard : Guard}
    (accepted : Accepted s slot request guard) :
    Ledger none { saveOutcome slot .running none none (s.accept slot request guard) with
      restarted := true
      log := (saveOutcome slot .running none none (s.accept slot request guard)).log ++ [.restarting slot] } := by
  have running : Ledger none (saveOutcome slot .running none none (s.accept slot request guard)) :=
    inv.began accepted [] [] ⟨rfl, rfl, rfl, rfl⟩ (by simp) rfl (by simp [StartedOnce]) .running none
  refine running.logged ⟨rfl, rfl, rfl, rfl⟩ [.restarting slot] rfl (fun _ => rfl) ?_ ?_ rfl
  · intro other
    rw [saveOutcome_actions]
    by_cases same : slot = other
    · subst same
      simp [Event.actionAt, Event.started, (inv.unused slot accepted.slot.ge).2, StartedOnce]
    · simpa [Event.actionAt, Event.started, same] using inv.started other
  · intro other beyond
    have elsewhere : slot ≠ other := by
      rintro rfl
      rw [saveOutcome_eq] at beyond
      exact absurd accepted.inside (Nat.not_lt.mpr beyond)
    simp [Event.actionAt, Event.started, elsewhere]

theorem Ledger.concluded {s x : Control} (inv : Ledger none s) (pending : Pending s) (active : s.trialActive = true)
    (same : SameTable s x) (now deadline : Nat) (candidate : RemoteConfig) (wifi : WifiRuntime)
    (log : x.log = s.log ++ [.committing now deadline candidate wifi]) (state : ResultState)
    (error : Option String) (status : Option StatusSnapshot) :
    Ledger none (saveOutcome s.trialSlot state error status x) :=
  inv.closed same _ (quiet_committing now deadline candidate wifi) log _ (pending.trial active) state error status

theorem Ledger.downloaded {s x : Control} (inv : Ledger none s) (pending : Pending s) (active : s.otaActive = true)
    (same : SameTable s x) (log : x.log = s.log) (state : ResultState) (error : Option String) :
    Ledger none (saveOutcome s.otaSlot state error none x) :=
  inv.closed same [] quiet_nil (log.trans (List.append_nil _).symm) _ (pending.ota active) state error none

theorem ledger_kept (s t : Control) (effect : Effect build s t) (inv : Ledger none s)
    (pending : Pending s) : Ledger none t := by
  cases effect with
  | replied events sent => exact inv.noted ⟨rfl, rfl, rfl, rfl⟩ events (quiet_sent _ events sent) rfl
  | refused slot request guard error accepted =>
    refine inv.began accepted [] [] ?_ ?_ rfl (by simp [StartedOnce]) _ _
    · exact ⟨rfl, rfl, rfl, rfl⟩
    · exact (List.append_nil _).symm
  | otaRefused slot request guard ota a owner claim result stored accepted =>
    refine inv.registered accepted ota result ?_ ?_ _ _
    · exact ⟨rfl, rfl, rfl, rfl⟩
    · rfl
  | otaUncertain slot request guard ota a owner claim stored accepted =>
    refine inv.registered accepted ota .storageUncertain ?_ ?_ _ _
    · exact ⟨rfl, rfl, rfl, rfl⟩
    · rfl
  | workerFailed slot request guard ota a f owner claim prepared stored accepted
  | workerLost slot request guard ota a f owner claim prepared stored result accepted =>
    refine inv.registered accepted ota .ok ?_ ?_ _ _
    · exact ⟨rfl, rfl, rfl, rfl⟩
    · rfl
  | workerStarted slot request guard ota a owner claim prepared accepted =>
    refine inv.began accepted [.registering slot ota .ok, .workerCreated slot ota] [.registration, .worker]
      ?_ ?_ rfl (by simp [StartedOnce]) _ _
    · exact ⟨rfl, rfl, rfl, rfl⟩
    · simp
  | trialStarted slot request guard candidate startedAt now a wifi accepted =>
    exact (inv.tried accepted candidate startedAt).unchanged ⟨rfl, rfl, rfl, rfl⟩ rfl
  | trialRefused slot request guard candidate startedAt now restoredAt a b error restored wifi back
      accepted =>
    refine (inv.tried accepted candidate startedAt).closed ?_ [] quiet_nil ?_ slot ⟨?_, ?_⟩ _ _ _
    · exact ⟨rfl, rfl, rfl, rfl⟩
    · exact (List.append_nil _).symm
    · rw [saveOutcome_eq]
      exact accepted.inside
    · simp [saveOutcome_eq, savedOutcome]
  | restarting slot request guard accepted => exact inv.restarting accepted
  | committed now faults config stored a active
  | commitReloaded now faults stored reload config a error wifi active
  | commitUnread now faults stored a error wifi active
  | commitFailed now faults stored failure a error wifi active =>
    refine inv.concluded pending active ?_ now s.trialDeadline s.candidate s.wifi ?_ _ _ _
    · exact ⟨rfl, rfl, rfl, rfl⟩
    · rfl
  | proofFailed now a error wifi active =>
    refine inv.closed ?_ [] quiet_nil ?_ _ (pending.trial active) _ _ _
    · exact ⟨rfl, rfl, rfl, rfl⟩
    · exact (List.append_nil _).symm
  | slotSelected active =>
    have running := inv.downloaded (x := s) pending active ⟨rfl, rfl, rfl, rfl⟩ rfl .running none
    exact running.noted ⟨rfl, rfl, rfl, rfl⟩ [.slotSelected]
      (quiet_of _ (by simp [Event.request, Event.started, Event.savedAt])) rfl
  | bootUnknown active =>
    have ended := inv.downloaded
      (x := { s.downloadEnded with otaBootUncertain := true, otaReceived := 0 })
      pending active ⟨rfl, rfl, rfl, rfl⟩ rfl .unknown (some (build.eota.error s.otaResult))
    exact ended.unchanged ⟨rfl, rfl, rfl, rfl⟩ rfl
  | failureLost f saved stored active =>
    have ended := inv.downloaded
      (x := { s.downloadEnded with receiptStore := stored, configUncertain := true, otaReceived := 0 })
      pending active ⟨rfl, rfl, rfl, rfl⟩ rfl .unknown (some "storage_uncertain")
    exact ended.unchanged ⟨rfl, rfl, rfl, rfl⟩ rfl
  | releaseFailed f stored active =>
    have ended := inv.downloaded
      (x := { s.downloadEnded with receiptStore := stored, otaBootUncertain := true, otaDone := false })
      pending active ⟨rfl, rfl, rfl, rfl⟩ rfl .unknown (some "storage_uncertain")
    exact ended.unchanged ⟨rfl, rfl, rfl, rfl⟩ rfl
  | otaFailed f stored active =>
    have ended := inv.downloaded
      (x := { s.downloadEnded.released with receiptStore := stored, otaReceived := 0 })
      pending active ⟨rfl, rfl, rfl, rfl⟩ rfl .failed (some (build.eota.error s.otaResult))
    exact ended.unchanged ⟨rfl, rfl, rfl, rfl⟩ rfl
  | _ => exact inv.unchanged ⟨rfl, rfl, rfl, rfl⟩ rfl

-- An old running slot is not the one that was just accepted.
theorem Accepted.pending {s : Control} {slot old : Nat} {request : Request} {guard : Guard}
    (accepted : Accepted s slot request guard) (first out : Outcome)
    (due : old < s.guard.requests.length ∧ (s.outcomes old).state = some .running) :
    old < guard.requests.length ∧
      (Function.update (Function.update s.outcomes slot first) slot out old).state =
        some .running := by
  have other : old ≠ slot := by
    rw [accepted.slot]
    exact due.1.ne
  rw [Function.update_of_ne other, Function.update_of_ne other, accepted.requests]
  refine ⟨?_, due.2⟩
  rw [List.length_append]
  exact Nat.lt_add_right _ due.1

theorem pending_kept (s t : Control) (effect : Effect build s t)
    (apart : s.otaActive = true → s.trialActive = false) (pending : Pending s) : Pending t := by
  cases effect with
  | refused slot request guard error accepted
  | otaRefused slot request guard ota a owner claim result stored accepted
  | otaUncertain slot request guard ota a owner claim stored accepted
  | restarting slot request guard accepted =>
    rw [saveOutcome_eq]
    exact ⟨fun active => accepted.pending _ _ (pending.trial active),
      fun active => accepted.pending _ _ (pending.ota active)⟩
  | workerFailed slot request guard ota a f owner claim prepared stored accepted
  | workerLost slot request guard ota a f owner claim prepared stored result accepted =>
    rw [saveOutcome_eq]
    exact ⟨fun active => accepted.pending _ _ (pending.trial active), by simp⟩
  | workerStarted slot request guard ota a owner claim prepared accepted =>
    rw [saveOutcome_eq]
    exact ⟨fun active => accepted.pending _ _ (pending.trial active),
      fun _ => ⟨accepted.inside, by simp [savedOutcome]⟩⟩
  | trialStarted slot request guard candidate startedAt now a wifi accepted idle =>
    rw [saveOutcome_eq]
    exact ⟨fun _ => ⟨accepted.inside, by simp [savedOutcome]⟩,
      fun active => accepted.pending _ _ (pending.ota active)⟩
  | trialRefused slot request guard candidate startedAt now restoredAt a b error restored wifi back
      accepted idle =>
    rw [saveOutcome_eq, saveOutcome_eq]
    exact ⟨fun active => by simp [idle.trial] at active, fun active => by simp [idle.ota] at active⟩
  | committed now faults config stored a active
  | commitReloaded now faults stored reload config a error wifi active
  | commitUnread now faults stored a error wifi active
  | commitFailed now faults stored failure a error wifi active
  | proofFailed now a error wifi active =>
    rw [saveOutcome_eq]
    exact ⟨by simp, fun ota => by simp [apart ota] at active⟩
  | slotSelected active =>
    rw [saveOutcome_eq]
    exact ⟨fun trial => by simp [apart active] at trial,
      fun _ => ⟨(pending.ota active).1, by simp [savedOutcome]⟩⟩
  | bootUnknown active
  | failureLost f saved stored active
  | releaseFailed f stored active
  | otaFailed f stored active =>
    rw [saveOutcome_eq]
    exact ⟨fun trial => by simp [apart active] at trial, by simp⟩
  | _ => exact ⟨pending.trial, pending.ota⟩

theorem ledger_boot (b : Boot) : Ledger none b.control := by
  constructor
  · rfl
  · exact List.nodup_nil
  · intro held member
    cases member
  · intro slot viaMqtt held member
    cases member
  · intro slot held here
    cases here
  · nofun
  · intro slot inside
    cases inside
  · intro slot out member
    cases member
  · intro slot out member
    cases member
  · exact fun slot => List.mem_cons_self
  · exact fun slot _ => ⟨rfl, rfl⟩
  · exact answered_unsaved (fun _ => rfl)

theorem ledger_reached (b : Boot) (labels : List Label) :
    (runBoot build b labels).replyMqtt = false ∧ Ledger none (runBoot build b labels) := by
  have kept := @run_keeps build (fun s => Ledger none s ∧ Pending s ∧ Exclusive s) ?_ ?_ labels
    b.control rfl ⟨ledger_boot b, ⟨nofun, nofun⟩, exclusive_boot b⟩
  · exact ⟨kept.1, kept.2.1⟩
  · rintro s viaMqtt ⟨ledger, pending, inv⟩
    exact ⟨ledger.unchanged ⟨rfl, rfl, rfl, rfl⟩ rfl, ⟨pending.trial, pending.ota⟩,
      ⟨inv.claims, inv.apart, inv.certain, inv.mirrored, inv.held, inv.workers⟩⟩
  · rintro s t effect ⟨ledger, pending, inv⟩
    exact ⟨ledger_kept build s t effect ledger pending,
      pending_kept build s t effect inv.apart pending, exclusive_kept build s t effect inv⟩

-- A slot whose outcome is not running keeps it.
theorem Ledger.settled {s t : Control} (before : Ledger none s) (after : Ledger none t)
    (new : List Event) (log : t.log = s.log ++ new) (slot : Nat)
    (inside : slot < s.guard.requests.length) (settled : (s.outcomes slot).state ≠ some .running) :
    t.outcomes slot = s.outcomes slot := by
  have saved := before.last slot inside nofun
  have grown : history slot t.log = history slot s.log ++ history slot new := by
    rw [log, history_append]
  have within : slot < t.guard.requests.length := by
    by_contra beyond
    have none := (after.unused slot (Nat.not_lt.mp beyond)).1
    rw [grown, List.append_eq_nil_iff] at none
    rw [none.1] at saved
    cases saved
  have latest := after.last slot within nofun
  rw [grown] at latest
  cases again : history slot new with
  | nil =>
    rw [again, List.append_nil, saved] at latest
    exact (Option.some.inj latest).symm
  | cons out rest =>
    refine absurd (after.running slot (s.outcomes slot) ?_) settled
    rw [grown, again, List.dropLast_append_of_ne_nil (List.cons_ne_nil _ _)]
    exact List.mem_append_left _ (List.mem_of_getLast? saved)

structure WriteLine (a : LineAnswers) (line : Parsed) (request : Request) : Prop where
  parsed : line.error = none
  status : line.command.kind ≠ .status
  otaResult : line.command.kind ≠ .otaResult
  presents : fingerprinted build a.hashed line.command = some request

structure Repeats (held request : Request) : Prop where
  id : request.requestId = held.requestId
  deadline : request.expiresAtMs = held.expiresAtMs
  fingerprint : request.fingerprint = held.fingerprint

theorem handleLine_write (a : LineAnswers) (line : Parsed) (request : Request) (s : Control)
    (write : WriteLine build a line request) :
    handleLine build a line s = handleWrite build a line.command request s := by
  unfold handleLine
  simp only [write.parsed, write.presents]
  split
  next status => exact absurd status write.status
  next otaResult => exact absurd otaResult write.otaResult
  next => rfl

theorem withChannel_same (s : Control) (viaMqtt : Bool) (same : s.replyMqtt = viaMqtt) :
    s.withChannel viaMqtt = s := by
  subst same
  rfl

theorem step_line (a : LineAnswers) (line : Parsed) (viaMqtt : Bool) (s : Control)
    (usb : s.replyMqtt = false) (awake : s.restarted = false) :
    step build (.line viaMqtt a line) s =
      (handleLine build a line (s.withChannel viaMqtt)).withChannel false := by
  have same := effect_replyMqtt build s _ (handleLine_effect build a line s)
  simp only [step, awake, Bool.false_eq_true, if_false, act]
  cases viaMqtt with
  | true => rfl
  | false => rw [withChannel_same s false usb, withChannel_same _ false (same.trans usb)]; rfl

-- Repeats that are addressed elsewhere do not reach the slot table.
theorem ebaseAdmit_elsewhere (g : Guard) (r : Request) (device boot : CString) (now : Nat)
    (elsewhere : ¬(r.deviceId = device ∧ r.bootId = boot)) :
    ∃ refused ∈ [Admission.badIdentity, .wrongDevice, .wrongBoot],
      ebaseAdmit g r device boot now = (refused, 0, g) := by
  unfold ebaseAdmit
  split
  · exact ⟨.badIdentity, by simp, rfl⟩
  split
  · exact ⟨.wrongDevice, by simp, rfl⟩
  next device_same =>
    split
    · exact ⟨.wrongBoot, by simp, rfl⟩
    next boot_same =>
      exact absurd ⟨(not_not.mp device_same).symm, (not_not.mp boot_same).symm⟩ elsewhere

theorem handleWrite_repeat (a : LineAnswers) (command : Command) (s : Control) (inv : Ledger none s)
    (slot : Nat) (held request : Request) (here : s.guard.requests[slot]? = some held)
    (again : Repeats held request) (device : request.deviceId = s.deviceId)
    (boot : request.bootId = s.bootId) :
    handleWrite build a command request s =
      { s with
        log := s.log ++
          emission s.deviceId s.bootId held.requestId s.replyMqtt (s.outcomes slot) } := by
  obtain ⟨-, -, id, device_uuid, boot_uuid⟩ := inv.addressed held (List.mem_of_getElem? here)
  have replayed := ebaseAdmit_repeat s.guard held request slot s.deviceId s.bootId a.admitNow
    inv.distinct here again.id again.deadline again.fingerprint device boot (again.id ▸ id)
    device_uuid boot_uuid
  unfold handleWrite
  rw [replayed]
  dsimp only
  rw [emitOutcome_eq, slotRequestId_here here]

theorem handleWrite_refused (a : LineAnswers) (command : Command) (s : Control) (request : Request)
    (decision : Admission) (slot : Nat) (guard : Guard)
    (admitted : ebaseAdmit s.guard request s.deviceId s.bootId a.admitNow = (decision, slot, guard))
    (refused : decision ≠ .replay ∧ decision ≠ .accept) :
    handleWrite build a command request s =
      { s with
        log := s.log ++ sentResult s.deviceId s.bootId s.replyMqtt request.requestId
          (some (if decision = .expired then .expired else .failed)) (admissionError decision) none } := by
  unfold handleWrite
  rw [admitted]
  cases decision with
  | replay => exact absurd rfl refused.1
  | accept => exact absurd rfl refused.2
  | _ => exact reply_eq _ _ _ _ s

theorem handleWrite_elsewhere (a : LineAnswers) (command : Command) (s : Control)
    (request : Request) (elsewhere : ¬(request.deviceId = s.deviceId ∧ request.bootId = s.bootId)) :
    ∃ error ∈ ["invalid_identity", "wrong_device", "wrong_boot"],
      handleWrite build a command request s =
        { s with
          log := s.log ++ sentResult s.deviceId s.bootId s.replyMqtt request.requestId (some .failed)
            (some error) none } := by
  obtain ⟨refused, one, decision⟩ :=
    ebaseAdmit_elsewhere s.guard request s.deviceId s.bootId a.admitNow elsewhere
  have reported (decided : refused ≠ .replay ∧ refused ≠ .accept) :=
    handleWrite_refused build a command s request refused 0 s.guard decision decided
  simp only [List.mem_cons, List.not_mem_nil, or_false] at one
  rcases one with rfl | rfl | rfl
  · exact ⟨"invalid_identity", List.mem_cons_self, reported (by decide)⟩
  · exact ⟨"wrong_device", List.mem_cons_of_mem _ List.mem_cons_self, reported (by decide)⟩
  · exact ⟨"wrong_boot", List.mem_cons_of_mem _ (List.mem_cons_of_mem _ List.mem_cons_self), reported (by decide)⟩

/-- Along every run an accepted request starts its action at most once, its outcome is final once it
is no longer running, and a repeat changes nothing but what is sent back on its own channel. -/
theorem requests_act_once (b : Boot) (labels : List Label) :
    let s := runBoot build b labels
    ((picked Event.request s.log).map Request.requestId).Nodup ∧
      (∀ slot, StartedOnce (actions slot s.log)) ∧
      (∀ slot, ∀ out ∈ (history slot s.log).dropLast, out.state = some .running) ∧
      (∀ before slot out after, s.log = before ++ .saved slot out :: after →
        ∃ request, .accepted slot out.viaMqtt request ∈ s.log ∧
          emission s.deviceId s.bootId request.requestId out.viaMqtt out <+: after) ∧
      ∀ slot viaMqtt held, .accepted slot viaMqtt held ∈ s.log →
        (history slot s.log).getLast? = some (s.outcomes slot) ∧
        (s.outcomes slot).viaMqtt = viaMqtt ∧
        (∀ label, (s.outcomes slot).state ≠ some .running →
          (step build label s).outcomes slot = s.outcomes slot) ∧
        ∀ a line request repeatMqtt, WriteLine build a line request → Repeats held request →
          s.restarted = false →
          if request.deviceId = s.deviceId ∧ request.bootId = s.bootId then
            step build (.line repeatMqtt a line) s =
              { s with
                log := s.log ++
                  emission s.deviceId s.bootId held.requestId repeatMqtt (s.outcomes slot) }
          else
            ∃ error ∈ ["invalid_identity", "wrong_device", "wrong_boot"],
              step build (.line repeatMqtt a line) s =
                { s with
                  log := s.log ++ sentResult s.deviceId s.bootId repeatMqtt request.requestId
                    (some .failed) (some error) none } := by
  intro s
  obtain ⟨usb, inv⟩ := ledger_reached build b labels
  refine ⟨?_, inv.started, inv.running, ?_, ?_⟩
  · rw [inv.requests]
    exact inv.distinct
  · intro before slot out after split
    obtain ⟨request, here, sent⟩ := inv.answered before slot out after split
    have member : out ∈ history slot s.log :=
      List.mem_filterMap.mpr ⟨.saved slot out, by simp [split], by simp [Event.savedAt]⟩
    refine ⟨request, ?_, sent⟩
    rw [inv.routed slot out member]
    exact inv.recorded slot request here
  · intro slot viaMqtt held accepted
    obtain ⟨here, channel⟩ := inv.accepted slot viaMqtt held accepted
    have inside : slot < s.guard.requests.length := (List.getElem?_eq_some_iff.mp here).choose
    refine ⟨inv.last slot inside nofun, channel, ?_, ?_⟩
    · intro label settled
      obtain ⟨-, after⟩ := ledger_reached build b (labels ++ [label])
      rw [runBoot, run_concat] at after
      obtain ⟨from_channel, u, effect, same⟩ := step_effect build label s usb
      refine inv.settled after (newEvents (s.withChannel from_channel) u) ?_ slot inside settled
      have grown : u.log = s.log ++ newEvents (s.withChannel from_channel) u :=
        effect_log build (s.withChannel from_channel) u effect
      change (step build label s).log = _
      rw [same]
      exact grown
    · intro a line request repeatMqtt write again awake
      rw [step_line build a line repeatMqtt s usb awake, handleLine_write build a line request _ write]
      have usb_again : s.withChannel false = s := withChannel_same s false usb
      split
      next addressed =>
        rw [handleWrite_repeat build a _ (s.withChannel repeatMqtt)
          (inv.unchanged ⟨rfl, rfl, rfl, rfl⟩ rfl) slot held request here again addressed.1 addressed.2]
        conv_rhs => rw [← usb_again]
        rfl
      next elsewhere =>
        obtain ⟨error, one, refused⟩ := handleWrite_elsewhere build a line.command
          (s.withChannel repeatMqtt) request elsewhere
        refine ⟨error, one, ?_⟩
        rw [refused]
        conv_rhs => rw [← usb_again]
        rfl

def sampleBootId : CString := .ofBytes (bytesOf "1a2b3c4d-0000-4000-8000-0000000000b0")

def sampleBoot : Boot :=
  { deviceId := sampleDevice
    bootId := sampleBootId
    config := .zero
    wifiAnswers := {}
    startedAt := 0
    otaVerificationPending := false
    configStore := .absent
    receiptStore := .absent }

def sampleAnswersAt (now : Nat) : LineAnswers :=
  { snapshot := { uptime := now, freeHeap := 0, minimumFreeHeap := 0, mqtt := .unconfigured
                  frp := .unconfigured }
    query := { slots := sampleAnswers .untracked }
    hashed := true
    admitNow := now
    timeReady := true
    register := sampleRegister .untracked
    created := true
    deadlineNow := now
    applyNow := now
    restoreNow := now }

def samplePresented (deviceId : CString) : Request :=
  { requestId := .ofBytes (bytesOf "1a2b3c4d-0000-4000-8000-0000000000c0")
    deviceId := deviceId
    bootId := sampleBootId
    expiresAtMs := 10000
    fingerprint := zeroDigest }

def sampleOtaStart (deviceId : CString) : Parsed :=
  { error := none
    command :=
      { kind := .otaStart
        request := samplePresented deviceId
        config := .zero
        ota := firstRequest
        operationId := .empty } }

def unsignedBuild : Build :=
  { eota := { available := false, error := fun _ => "" }, sha256 := fun _ => zeroDigest }

def otherDevice : CString := .ofBytes (bytesOf "1a2b3c4d-0000-4000-8000-000000000002")

def acceptedFirst : List Label :=
  [.line false (sampleAnswersAt 1000) (sampleOtaStart sampleDevice)]

def Event.text : Event → Option (List UInt8)
  | .sent _ text => some text
  | _ => none

theorem other_device_not_reemitted :
    ¬∀ (build : Build) (b : Boot) (labels : List Label) (slot : Nat) (viaMqtt repeatMqtt : Bool)
        (held request : Request) (a : LineAnswers) (line : Parsed),
      let s := runBoot build b labels
      .accepted slot viaMqtt held ∈ s.log → WriteLine build a line request → Repeats held request →
        s.restarted = false →
        step build (.line repeatMqtt a line) s =
          { s with
            log := s.log ++
              emission s.deviceId s.bootId held.requestId repeatMqtt (s.outcomes slot) } := by
  intro claim
  have reemitted := claim unsignedBuild sampleBoot acceptedFirst 0 _ false
    (samplePresented sampleDevice) (samplePresented otherDevice) (sampleAnswersAt 2000)
    (sampleOtaStart otherDevice)
    ((ledger_reached unsignedBuild sampleBoot acceptedFirst).2.recorded 0 _ (by decide +kernel))
    ⟨by decide +kernel, by decide +kernel, by decide +kernel, by decide +kernel⟩
    ⟨by decide +kernel, by decide +kernel, by decide +kernel⟩ (by decide +kernel)
  exact absurd (congrArg (fun t : Control => picked Event.text t.log) reemitted) (by decide +kernel)

end EspBase

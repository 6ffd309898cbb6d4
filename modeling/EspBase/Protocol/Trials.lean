import EspBase.Protocol.Configuration
import EspBase.Wifi.Selection

set_option autoImplicit false

namespace EspBase

open Transition

theorem selected_of_ok {a : ApplyAnswers} {config : WifiConfig} {now : Nat} {w after : WifiRuntime}
    (idle : WifiIdle w) (applied : wifiApply a config now w = (.ok, after)) :
    after.config = config := by
  have selection := (wifiApply_selection a config now w idle).1
  rw [applied] at selection
  exact selection rfl

theorem idle_of_apply {a : ApplyAnswers} {config : WifiConfig} {now : Nat} {w after : WifiRuntime}
    {error : EspErr} (idle : WifiIdle w) (applied : wifiApply a config now w = (error, after)) :
    WifiIdle after := by
  have selection := (wifiApply_selection a config now w idle).2
  rw [applied] at selection
  exact selection

/-- The Wi-Fi runtime has selected the candidate of the trial, or else, once `started`, the committed
configuration. -/
structure Connected (started : Prop) (s : Control) : Prop where
  idle : WifiIdle s.wifi
  candidate : s.trialActive = true → s.wifi.config = s.candidate.wifi
  committed : started → s.trialActive = false → s.configUncertain = false →
    s.wifi.config = s.config.wifi

variable (build : Build)

theorem connected_kept (started : Prop) (s t : Control) (effect : Effect build s t)
    (inv : Connected started s) : Connected started t := by
  cases effect with
  | otaUncertain =>
    rw [saveOutcome_eq]
    exact ⟨inv.idle, inv.candidate, fun _ _ => nofun⟩
  | workerLost =>
    rw [saveOutcome_eq]
    exact ⟨inv.idle, inv.candidate, fun _ _ => nofun⟩
  | failureLost =>
    rw [saveOutcome_eq]
    exact ⟨inv.idle, inv.candidate, fun _ _ => nofun⟩
  | trialStarted slot request guard candidate startedAt now a wifi accepted idle verified usb expected
      applied =>
    rw [saveOutcome_eq]
    exact ⟨idle_of_apply inv.idle applied, fun _ => selected_of_ok inv.idle applied, fun _ => nofun⟩
  | trialRefused slot request guard candidate startedAt now restoredAt a b error restored wifi back
      accepted idle verified usb applied failed selected =>
    rw [saveOutcome_eq, saveOutcome_eq]
    have between := idle_of_apply inv.idle applied
    refine ⟨idle_of_apply between selected, fun active => by simp [idle.trial] at active, ?_⟩
    intro _ _ clear
    obtain rfl : restored = .ok := by simpa using clear
    exact selected_of_ok between selected
  | committed now faults config stored a active ready early wrote =>
    rw [saveOutcome_eq]
    obtain ⟨rfl, -⟩ := remoteConfigCommitVerified_ok _ _ _ _ _ _ wrote
    exact ⟨inv.idle, nofun, fun _ _ _ => inv.candidate active⟩
  | commitReloaded now faults stored reload config a error wifi active ready early wrote loaded
      selected =>
    rw [saveOutcome_eq]
    exact ⟨idle_of_apply inv.idle selected, nofun, fun _ _ => nofun⟩
  | commitUnread now faults stored a error wifi active ready early wrote selected =>
    rw [saveOutcome_eq]
    exact ⟨idle_of_apply inv.idle selected, nofun, fun _ _ => nofun⟩
  | commitFailed now faults stored failure a error wifi active ready early wrote certain selected =>
    rw [saveOutcome_eq]
    refine ⟨idle_of_apply inv.idle selected, nofun, ?_⟩
    intro _ _ clear
    obtain rfl : error = .ok := by simpa using (Bool.or_eq_false_iff.mp clear).2
    exact selected_of_ok inv.idle selected
  | proofFailed now a error wifi active ended selected =>
    rw [saveOutcome_eq]
    refine ⟨idle_of_apply inv.idle selected, nofun, ?_⟩
    intro _ _ clear
    obtain rfl : error = .ok := by simpa using (Bool.or_eq_false_iff.mp clear).2
    exact selected_of_ok inv.idle selected
  | wifiMoved wifi moved =>
    rcases moved with ⟨event, rfl⟩ | ⟨now, a, rfl⟩
    · obtain ⟨same, idle⟩ := eventReceived_selection event s.wifi inv.idle
      exact ⟨idle, fun active => same.trans (inv.candidate active),
        fun on none clear => same.trans (inv.committed on none clear)⟩
    · obtain ⟨same, idle⟩ := wifiPoll_selection now a s.wifi inv.idle
      exact ⟨idle, fun active => same.trans (inv.candidate active),
        fun on none clear => same.trans (inv.committed on none clear)⟩
  | _ =>
    exact ⟨by simpa [saveOutcome_eq] using inv.idle, by simpa [saveOutcome_eq] using inv.candidate,
      by simpa [saveOutcome_eq] using inv.committed⟩

def Event.trial : Event → Option Nat
  | .trialStarted slot _ _ _ => some slot
  | _ => none

abbrev trials (log : List Event) : List Nat := picked Event.trial log

def Control.trialInSlot (s : Control) : Option Nat :=
  if s.trialActive then some s.trialSlot else none

def Final (state : Option ResultState) : Prop :=
  state ∈ [some .succeeded, some .failed, some .unknown]

def TrialOutcomes (active : Option Nat) (s : Control) : Prop :=
  ∀ slot ∈ trials s.log,
    if active = some slot then (history slot s.log).length = 1
    else (history slot s.log).length = 2 ∧ Final (s.outcomes slot).state

theorem saveOutcome_trials (slot : Nat) (state : ResultState) (error : Option String)
    (status : Option StatusSnapshot) (s : Control) :
    trials (saveOutcome slot state error status s).log = trials s.log := by
  have silent := @picked_emission _ Event.trial (fun _ _ => rfl)
  simp [trials, saveOutcome_eq, silent, Event.trial]

theorem saveOutcome_outcomes (slot other : Nat) (state : ResultState) (error : Option String)
    (status : Option StatusSnapshot) (s : Control) (elsewhere : other ≠ slot) :
    (saveOutcome slot state error status s).outcomes other = s.outcomes other := by
  rw [saveOutcome_eq]
  exact Function.update_of_ne elsewhere _ _

theorem saveOutcome_state (slot : Nat) (state : ResultState) (error : Option String)
    (status : Option StatusSnapshot) (s : Control) :
    ((saveOutcome slot state error status s).outcomes slot).state = some state := by
  rw [saveOutcome_eq]
  simp [savedOutcome]

section Outcomes

variable {active : Option Nat} {slot : Nat} {state : ResultState} {error : Option String}
  {status : Option StatusSnapshot} {s x : Control}

theorem TrialOutcomes.kept (inv : TrialOutcomes active s) (same : x.outcomes = s.outcomes)
    (started : trials x.log = trials s.log) (saved : ∀ other, history other x.log = history other s.log) :
    TrialOutcomes active x := by
  intro other member
  rw [saved, same]
  exact inv other (started ▸ member)

theorem TrialOutcomes.elsewhere (inv : TrialOutcomes active s) (outside : slot ∉ trials s.log)
    (same : ∀ other ∈ trials s.log, x.outcomes other = s.outcomes other)
    (started : trials x.log = trials s.log) (saved : ∀ other, history other x.log = history other s.log) :
    TrialOutcomes active (saveOutcome slot state error status x) := by
  intro other member
  rw [saveOutcome_trials, started] at member
  have elsewhere : other ≠ slot := fun here => outside (here ▸ member)
  rw [saveOutcome_history, if_neg (Ne.symm elsewhere), List.append_nil, saved,
    saveOutcome_outcomes _ _ _ _ _ _ elsewhere, same other member]
  exact inv other member

theorem TrialOutcomes.ended (inv : TrialOutcomes (some slot) s)
    (final : Final (some state)) (same : x.outcomes = s.outcomes)
    (started : trials x.log = trials s.log) (saved : ∀ other, history other x.log = history other s.log) :
    TrialOutcomes none (saveOutcome slot state error status x) := by
  intro other member
  rw [saveOutcome_trials, started] at member
  have before := inv other member
  rw [if_neg nofun, saveOutcome_history, saved]
  by_cases here : other = slot
  · subst here
    rw [if_pos rfl] at before ⊢
    rw [saveOutcome_state, List.length_append, before]
    exact ⟨rfl, final⟩
  · rw [if_neg (fun same => here (Option.some.inj same).symm)] at before
    rw [if_neg (Ne.symm here), List.append_nil, saveOutcome_outcomes _ _ _ _ _ _ here, same]
    exact before

theorem TrialOutcomes.begun (inv : TrialOutcomes none s) (outside : slot ∉ trials s.log)
    (unsaved : history slot s.log = [])
    (same : ∀ other ∈ trials s.log, x.outcomes other = s.outcomes other)
    (started : trials x.log = trials s.log ++ [slot])
    (saved : ∀ other, history other x.log = history other s.log) :
    TrialOutcomes (some slot) (saveOutcome slot state error status x) := by
  intro other member
  rw [saveOutcome_trials, started] at member
  rw [saveOutcome_history, saved]
  by_cases here : other = slot
  · subst here
    rw [if_pos rfl, if_pos rfl, unsaved]
    rfl
  · have old : other ∈ trials s.log :=
      (List.mem_append.mp member).resolve_right (fun new => here (List.mem_singleton.mp new))
    have before := inv other old
    rw [if_neg nofun] at before
    rw [if_neg (fun same => here (Option.some.inj same).symm), if_neg (Ne.symm here), List.append_nil,
      saveOutcome_outcomes _ _ _ _ _ _ here, same other old]
    exact before

end Outcomes

theorem saveOutcome_trialInSlot (slot : Nat) (state : ResultState) (error : Option String)
    (status : Option StatusSnapshot) (s : Control) :
    (saveOutcome slot state error status s).trialInSlot = s.trialInSlot := by
  rw [saveOutcome_eq]
  rfl

theorem trial_acted (slot : Nat) (log : List Event) (member : slot ∈ trials log) :
    .trial ∈ actions slot log := by
  obtain ⟨event, here, trial⟩ := List.mem_filterMap.mp member
  refine List.mem_filterMap.mpr ⟨event, here, ?_⟩
  cases event with
  | trialStarted other candidate startedAt stored =>
    obtain rfl : other = slot := Option.some.inj trial
    simp [Event.actionAt, Event.started]
  | _ => cases trial

theorem Accepted.untried {s : Control} {slot : Nat} {request : Request} {guard : Guard}
    (accepted : Accepted s slot request guard) (ledger : Ledger none s) :
    slot ∉ trials s.log ∧ history slot s.log = [] := by
  obtain ⟨unsaved, unstarted⟩ := ledger.unused slot accepted.slot.ge
  refine ⟨fun member => ?_, unsaved⟩
  have acted := trial_acted slot s.log member
  rw [unstarted] at acted
  cases acted

theorem TrialOutcomes.accepted {s x : Control} (inv : TrialOutcomes s.trialInSlot s)
    (ledger : Ledger none s) {slot : Nat} {request : Request} {guard : Guard}
    (accepted : Accepted s slot request guard) (state : ResultState) (error : Option String)
    (same : x.outcomes = (s.accept slot request guard).outcomes) (idle : x.trialInSlot = s.trialInSlot)
    (started : trials x.log = trials s.log)
    (saved : ∀ other, history other x.log = history other s.log) :
    TrialOutcomes (saveOutcome slot state error none x).trialInSlot
      (saveOutcome slot state error none x) := by
  have outside := (accepted.untried ledger).1
  rw [saveOutcome_trialInSlot, idle]
  refine inv.elsewhere outside (fun other member => ?_) started saved
  have elsewhere : other ≠ slot := fun here => outside (here ▸ member)
  rw [same]
  exact Function.update_of_ne elsewhere _ _

theorem TrialOutcomes.downloaded {s x : Control} (inv : TrialOutcomes s.trialInSlot s)
    (pending : Pending s) (apart : s.otaActive = true → s.trialActive = false)
    (active : s.otaActive = true) (state : ResultState) (error : Option String)
    (same : x.outcomes = s.outcomes) (idle : x.trialInSlot = s.trialInSlot) (log : x.log = s.log) :
    TrialOutcomes (saveOutcome s.otaSlot state error none x).trialInSlot
      (saveOutcome s.otaSlot state error none x) := by
  have outside : s.otaSlot ∉ trials s.log := by
    intro member
    have final := inv s.otaSlot member
    rw [Control.trialInSlot, apart active] at final
    rw [(pending.ota active).2] at final
    exact absurd final.2 (by simp [Final])
  rw [saveOutcome_trialInSlot, idle]
  refine inv.elsewhere outside (fun other _ => by rw [same]) (by rw [log]) (fun other => by rw [log])

theorem TrialOutcomes.concluded {s x : Control} (inv : TrialOutcomes s.trialInSlot s)
    (active : s.trialActive = true) (state : ResultState) (error : Option String)
    (status : Option StatusSnapshot) (final : Final (some state)) (same : x.outcomes = s.outcomes)
    (ended : x.trialActive = false) (started : trials x.log = trials s.log)
    (saved : ∀ other, history other x.log = history other s.log) :
    TrialOutcomes (saveOutcome s.trialSlot state error status x).trialInSlot
      (saveOutcome s.trialSlot state error status x) := by
  have none : x.trialInSlot = none := by simp [Control.trialInSlot, ended]
  have some : s.trialInSlot = some s.trialSlot := by simp [Control.trialInSlot, active]
  rw [saveOutcome_trialInSlot, none]
  rw [some] at inv
  exact inv.ended final same started saved

theorem trialOutcomes_kept (s t : Control) (effect : Effect build s t) (ledger : Ledger none s)
    (pending : Pending s) (apart : s.otaActive = true → s.trialActive = false)
    (inv : TrialOutcomes s.trialInSlot s) : TrialOutcomes t.trialInSlot t := by
  have begun (slot : Nat) (request : Request) (guard : Guard) (candidate : RemoteConfig)
      (startedAt : Nat) (accepted : Accepted s slot request guard) (idle : Idle s) :
      TrialOutcomes (some slot) (saveOutcome slot .running none none
        ((s.accept slot request guard).trying slot candidate startedAt)) := by
    obtain ⟨outside, unsaved⟩ := accepted.untried ledger
    have none : s.trialInSlot = none := by simp [Control.trialInSlot, idle.trial]
    rw [none] at inv
    refine inv.begun outside unsaved (fun other member => ?_) (by simp [trials, Event.trial])
      (by simp [Event.savedAt])
    have elsewhere : other ≠ slot := fun here => outside (here ▸ member)
    exact Function.update_of_ne elsewhere _ _
  cases effect with
  | replied events sent =>
    have quiet := quiet_sent _ events sent
    have started : trials events = [] := picked_sent (fun _ _ => rfl) _ events sent
    exact inv.kept rfl (by simp [trials, started]) (by simp [quiet.saved])
  | refused slot request guard error accepted =>
    exact inv.accepted ledger accepted _ _ rfl rfl (by simp [trials, Event.trial])
      (by simp [Event.savedAt])
  | otaRefused slot request guard ota a owner claim result stored accepted =>
    exact inv.accepted ledger accepted _ _ rfl rfl (by simp [trials, Event.trial])
      (by simp [Event.savedAt])
  | otaUncertain slot request guard ota a owner claim stored accepted =>
    exact inv.accepted ledger accepted _ _ rfl rfl (by simp [trials, Event.trial])
      (by simp [Event.savedAt])
  | workerFailed slot request guard ota a f owner claim prepared stored accepted =>
    exact inv.accepted ledger accepted _ _ rfl rfl (by simp [trials, Event.trial])
      (by simp [Event.savedAt])
  | workerLost slot request guard ota a f owner claim prepared stored result accepted =>
    exact inv.accepted ledger accepted _ _ rfl rfl (by simp [trials, Event.trial])
      (by simp [Event.savedAt])
  | workerStarted slot request guard ota a owner claim prepared accepted =>
    exact inv.accepted ledger accepted _ _ rfl rfl (by simp [trials, Event.trial])
      (by simp [Event.savedAt])
  | trialStarted slot request guard candidate startedAt now a wifi accepted idle =>
    rw [show Control.trialInSlot _ = some slot by rw [saveOutcome_eq]; rfl]
    exact (begun slot request guard candidate startedAt accepted idle).kept rfl rfl (fun _ => rfl)
  | trialRefused slot request guard candidate startedAt now restoredAt a b error restored wifi back
      accepted idle =>
    rw [saveOutcome_trialInSlot, show Control.trialInSlot _ = none by
      rw [saveOutcome_eq]; simp [Control.trialInSlot, idle.trial]]
    exact (begun slot request guard candidate startedAt accepted idle).ended (by simp [Final]) rfl rfl
      (fun _ => rfl)
  | restarting slot request guard accepted idle =>
    have running : TrialOutcomes _ (saveOutcome slot .running none none (s.accept slot request guard)) :=
      inv.accepted ledger accepted .running none rfl rfl (by simp [trials, Event.trial])
        (by simp [Event.savedAt])
    exact running.kept rfl (by simp [trials, Event.trial]) (by simp [Event.savedAt])
  | committed now faults config stored a active =>
    exact inv.concluded active _ _ _ (by simp [Final]) rfl rfl (by simp [trials, Event.trial])
      (by simp [Event.savedAt])
  | commitReloaded now faults stored reload config a error wifi active =>
    exact inv.concluded active _ _ _ (by simp [Final]) rfl rfl (by simp [trials, Event.trial])
      (by simp [Event.savedAt])
  | commitUnread now faults stored a error wifi active =>
    exact inv.concluded active _ _ _ (by simp [Final]) rfl rfl (by simp [trials, Event.trial])
      (by simp [Event.savedAt])
  | commitFailed now faults stored failure a error wifi active =>
    exact inv.concluded active _ _ _ (by simp [Final]) rfl rfl (by simp [trials, Event.trial])
      (by simp [Event.savedAt])
  | proofFailed now a error wifi active =>
    exact inv.concluded active _ _ _ (by simp [Final]) rfl rfl rfl (fun _ => rfl)
  | slotSelected active =>
    have running : TrialOutcomes _ (saveOutcome s.otaSlot .running none none s) :=
      inv.downloaded pending apart active .running none rfl rfl rfl
    exact running.kept rfl (by simp [trials, Event.trial]) (by simp [Event.savedAt])
  | bootUnknown active => exact inv.downloaded pending apart active _ _ rfl rfl rfl
  | failureLost f saved stored active => exact inv.downloaded pending apart active _ _ rfl rfl rfl
  | releaseFailed f stored active => exact inv.downloaded pending apart active _ _ rfl rfl rfl
  | otaFailed f stored active => exact inv.downloaded pending apart active _ _ rfl rfl rfl
  | _ => exact inv

def Event.commit : Event → Option (Nat × Nat × RemoteConfig × WifiRuntime)
  | .committing now deadline candidate wifi => some (now, deadline, candidate, wifi)
  | _ => none

def Event.attempt : Event → Option (Nat × RemoteConfig × Nat × BlobCell)
  | .trialStarted slot candidate startedAt stored => some (slot, candidate, startedAt, stored)
  | _ => none

structure Proven (now deadline : Nat) (candidate : RemoteConfig) (wifi : WifiRuntime) : Prop where
  early : now < deadline
  selected : wifi.config = candidate.wifi
  connected : candidate.wifi.configured = true → wifiReady wifi = true
  off : candidate.wifi.configured = false → wifi.active = false ∧ wifi.stopping = false

theorem Connected.proven {started : Prop} {s : Control} (inv : Connected started s) {now : Nat} (active : s.trialActive = true)
    (ready : trialReady s) (early : now < s.trialDeadline) :
    Proven now s.trialDeadline s.candidate s.wifi := by
  refine ⟨early, inv.candidate active, fun configured => ?_, fun unconfigured => ?_⟩
  · simpa [trialReady, configured] using ready
  · have off : s.wifi.state = .unconfigured := by simpa [trialReady, unconfigured] using ready
    exact inv.idle off

/-- What a step can do to the trial in progress and to the durable configuration. -/
structure TrialStep (s t : Control) : Prop where
  commits : ∀ commit ∈ picked Event.commit (newEvents s t),
    ∃ now, commit = (now, s.trialDeadline, s.candidate, s.wifi) ∧ s.trialActive = true ∧
      t.trialActive = false ∧ Proven now s.trialDeadline s.candidate s.wifi
  writes : t.configStore ≠ s.configStore → s.trialActive = true ∧ t.trialActive = false
  continues : s.trialActive = true → t.trialActive = true →
    t.trialSlot = s.trialSlot ∧ t.candidate = s.candidate ∧ t.trialDeadline = s.trialDeadline
  failed : s.trialActive = true → t.trialActive = false →
    (t.outcomes s.trialSlot).state = some .failed → t.configStore = s.configStore
  succeeded : s.trialActive = true → t.trialActive = false →
    (t.outcomes s.trialSlot).state = some .succeeded →
    durableConfig t.configStore = some { s.candidate with revision := s.candidate.revision + 1 } ∧
      ∃ status, (t.outcomes s.trialSlot).status = some status ∧
        status.revision = s.candidate.revision + 1
  begins : s.trialActive = false → t.trialActive = true → ∃ startedAt,
    .trialStarted t.trialSlot t.candidate startedAt s.configStore ∈ newEvents s t ∧
      t.trialDeadline = startedAt + 20000
  starts : ∀ attempt ∈ picked Event.attempt (newEvents s t),
    attempt.2.2.2 = s.configStore ∧
      (t.trialActive = true ∧ t.trialSlot = attempt.1 ∧ t.candidate = attempt.2.1 ∧
          t.trialDeadline = attempt.2.2.1 + 20000 ∨
        t.trialActive = false ∧ (t.outcomes attempt.1).state = some .failed)

theorem TrialStep.aside {s t : Control} (uncommitted : picked Event.commit (newEvents s t) = [])
    (untried : picked Event.attempt (newEvents s t) = []) (stored : t.configStore = s.configStore)
    (active : t.trialActive = s.trialActive) (slot : t.trialSlot = s.trialSlot)
    (candidate : t.candidate = s.candidate) (deadline : t.trialDeadline = s.trialDeadline) :
    TrialStep s t := by
  refine ⟨?_, fun changed => absurd stored changed, fun _ _ => ⟨slot, candidate, deadline⟩, ?_, ?_, ?_,
    ?_⟩
  · intro commit member
    rw [uncommitted] at member
    cases member
  · intro was ended
    rw [active, was] at ended
    cases ended
  · intro was ended
    rw [active, was] at ended
    cases ended
  · intro idle begun
    rw [active, idle] at begun
    cases begun
  · intro attempt member
    rw [untried] at member
    cases member

theorem TrialStep.ends {s t : Control} (was : s.trialActive = true) (ended : t.trialActive = false)
    (untried : picked Event.attempt (newEvents s t) = [])
    (commits : ∀ commit ∈ picked Event.commit (newEvents s t),
      ∃ now, commit = (now, s.trialDeadline, s.candidate, s.wifi) ∧
        Proven now s.trialDeadline s.candidate s.wifi)
    (failed : (t.outcomes s.trialSlot).state = some .failed → t.configStore = s.configStore)
    (succeeded : (t.outcomes s.trialSlot).state = some .succeeded →
      durableConfig t.configStore = some { s.candidate with revision := s.candidate.revision + 1 } ∧
        ∃ status, (t.outcomes s.trialSlot).status = some status ∧
          status.revision = s.candidate.revision + 1) : TrialStep s t := by
  refine ⟨?_, fun _ => ⟨was, ended⟩, fun _ active => ?_, fun _ _ => failed, fun _ _ => succeeded,
    fun idle _ => ?_, ?_⟩
  · intro commit member
    obtain ⟨now, same, proven⟩ := commits commit member
    exact ⟨now, same, was, ended, proven⟩
  · rw [ended] at active
    cases active
  · rw [was] at idle
    cases idle
  · intro attempt member
    rw [untried] at member
    cases member

theorem effect_trial (started : Prop) (s t : Control) (effect : Effect build s t)
    (inv : Connected started s) : TrialStep s t := by
  have quiet := @picked_emission _ Event.commit (fun _ _ => rfl)
  have silent := @picked_emission _ Event.attempt (fun _ _ => rfl)
  cases effect with
  | replied events sent =>
    exact .aside (by simp [newEvents, @picked_sent _ Event.commit (fun _ _ => rfl) _ events sent])
      (by simp [newEvents, @picked_sent _ Event.attempt (fun _ _ => rfl) _ events sent]) rfl rfl rfl rfl
      rfl
  | trialStarted slot request guard candidate startedAt now a wifi accepted idle =>
    refine ⟨?_, ?_, ?_, ?_, ?_, ?_, ?_⟩
    · simp [newEvents, saveOutcome_eq, quiet, Event.commit]
    · simp [saveOutcome_eq]
    · simp [idle.trial]
    · simp [idle.trial]
    · simp [idle.trial]
    · simp [newEvents, saveOutcome_eq, idle.trial]
    · simp [newEvents, saveOutcome_eq, silent, Event.attempt, savedOutcome, idle.trial]
  | trialRefused slot request guard candidate startedAt now restoredAt a b error restored wifi back
      accepted idle =>
    refine ⟨?_, ?_, ?_, ?_, ?_, ?_, ?_⟩
    · simp [newEvents, saveOutcome_eq, quiet, Event.commit]
    · simp [saveOutcome_eq]
    · simp [idle.trial]
    · simp [idle.trial]
    · simp [idle.trial]
    · simp [newEvents, saveOutcome_eq, idle.trial]
    · simp [newEvents, saveOutcome_eq, silent, Event.attempt, savedOutcome, idle.trial]
  | committed now faults config stored a active ready early wrote =>
    obtain ⟨rfl, durable⟩ := remoteConfigCommitVerified_ok _ _ _ _ _ _ wrote
    refine .ends active (by simp [saveOutcome_eq]) ?_ ?_ ?_ ?_
    · simp [newEvents, saveOutcome_eq, silent, Event.attempt]
    · simp [newEvents, saveOutcome_eq, quiet, Event.commit, inv.proven active ready early]
    · simp [saveOutcome_eq, savedOutcome]
    · simp [saveOutcome_eq, savedOutcome, durable, snapshot]
  | commitReloaded now faults stored reload config a error wifi active ready early =>
    refine .ends active (by simp [saveOutcome_eq]) ?_ ?_ ?_ ?_
    · simp [newEvents, saveOutcome_eq, silent, Event.attempt]
    · simp [newEvents, saveOutcome_eq, quiet, Event.commit, inv.proven active ready early]
    · simp [saveOutcome_eq, savedOutcome]
    · simp [saveOutcome_eq, savedOutcome]
  | commitUnread now faults stored a error wifi active ready early =>
    refine .ends active (by simp [saveOutcome_eq]) ?_ ?_ ?_ ?_
    · simp [newEvents, saveOutcome_eq, silent, Event.attempt]
    · simp [newEvents, saveOutcome_eq, quiet, Event.commit, inv.proven active ready early]
    · simp [saveOutcome_eq, savedOutcome]
    · simp [saveOutcome_eq, savedOutcome]
  | commitFailed now faults stored failure a error wifi active ready early wrote certain =>
    obtain rfl := remoteConfigCommitVerified_certain _ _ _ _ _ _ wrote certain
    refine .ends active (by simp [saveOutcome_eq]) ?_ ?_ ?_ ?_
    · simp [newEvents, saveOutcome_eq, silent, Event.attempt]
    · simp [newEvents, saveOutcome_eq, quiet, Event.commit, inv.proven active ready early]
    · simp [saveOutcome_eq]
    · simp [saveOutcome_eq, savedOutcome]
  | proofFailed now a error wifi active =>
    refine .ends active (by simp [saveOutcome_eq]) ?_ ?_ ?_ ?_
    · simp [newEvents, saveOutcome_eq, silent, Event.attempt]
    · simp [newEvents, saveOutcome_eq, quiet, Event.commit]
    · simp [saveOutcome_eq]
    · simp [saveOutcome_eq, savedOutcome]
  | _ =>
    exact .aside (by simp [newEvents, saveOutcome_eq, quiet, Event.commit])
      (by simp [newEvents, saveOutcome_eq, silent, Event.attempt]) (by simp [saveOutcome_eq])
      (by simp [saveOutcome_eq]) (by simp [saveOutcome_eq]) (by simp [saveOutcome_eq])
      (by simp [saveOutcome_eq])

def TrialBegun (s : Control) : Prop :=
  s.trialActive = true → ∃ startedAt, s.trialDeadline = startedAt + 20000 ∧
    .trialStarted s.trialSlot s.candidate startedAt s.configStore ∈ s.log

theorem trialBegun_kept {s t : Control} (change : TrialStep s t) (log : t.log = s.log ++ newEvents s t)
    (inv : TrialBegun s) : TrialBegun t := by
  intro active
  rw [log]
  cases was : s.trialActive with
  | false =>
    obtain ⟨startedAt, member, deadline⟩ := change.begins was active
    have stored : t.configStore = s.configStore := by
      by_contra changed
      rw [(change.writes changed).2] at active
      cases active
    rw [stored]
    exact ⟨startedAt, deadline, List.mem_append_right _ member⟩
  | true =>
    obtain ⟨slot, candidate, deadline⟩ := change.continues was active
    have stored : t.configStore = s.configStore := by
      by_contra changed
      rw [(change.writes changed).2] at active
      cases active
    obtain ⟨startedAt, before, member⟩ := inv was
    rw [slot, candidate, deadline, stored]
    exact ⟨startedAt, before, List.mem_append_left _ member⟩

theorem writeError_busy (s : Control) (active : s.trialActive = true) :
    ∃ error, writeError s = some error := by
  simp only [writeError, active, if_true]
  split_ifs <;> exact ⟨_, rfl⟩

theorem otaStartError_busy (a : LineAnswers) (s : Control) (active : s.trialActive = true) :
    ∃ error, otaStartError build a s = some error := by
  simp only [otaStartError, active, if_true]
  split_ifs <;> exact ⟨_, rfl⟩

theorem saveOutcome_trialActive (slot : Nat) (state : ResultState) (error : Option String)
    (status : Option StatusSnapshot) (s : Control) :
    (saveOutcome slot state error status s).trialActive = s.trialActive := by
  rw [saveOutcome_eq]

theorem execute_busy (a : LineAnswers) (command : Command) (slot : Nat) (s : Control)
    (active : s.trialActive = true) : (execute build a command slot s).trialActive = true := by
  obtain ⟨busy, writing⟩ := writeError_busy s active
  obtain ⟨refusal, starting⟩ := otaStartError_busy build a s active
  unfold execute
  cases command.kind with
  | configSet =>
    simp only [writing]
    split
    · rwa [saveOutcome_trialActive]
    split
    · rwa [saveOutcome_trialActive]
    · rwa [saveOutcome_trialActive]
  | otaStart =>
    simp only [starting]
    rwa [saveOutcome_trialActive]
  | _ =>
    simp only [writing]
    rwa [saveOutcome_trialActive]

theorem handleLine_busy (a : LineAnswers) (line : Parsed) (s : Control) (active : s.trialActive = true) :
    (handleLine build a line s).trialActive = true := by
  have replied (requestId : CString) (state : Option ResultState) (error : Option String)
      (status : Option StatusSnapshot) : (reply requestId state error status s).trialActive = true := by
    rwa [reply_eq]
  unfold handleLine
  simp only
  split
  · exact replied _ _ _ _
  split
  · exact replied _ _ _ _
  · unfold handleOtaResult
    simp only
    split
    · obtain ⟨events, same, -⟩ := replyOtaResult_eq line.command.request.requestId
        (otaReceiptQuery build.eota a.query s.deviceId line.command.operationId
          (s.otaActive && s.otaRequest.operationId = line.command.operationId) s.receiptStore).2 s
      rwa [same]
    · exact replied _ _ _ _
  split
  · exact replied _ _ _ _
  · unfold handleWrite
    simp only
    split
    · rwa [emitOutcome_eq]
    · exact execute_busy build a line.command _ _ active
    · exact replied _ _ _ _

theorem commitTrial_commits (now : Nat) (a : ConfigurationAnswers) (s : Control) :
    ∀ commit ∈ picked Event.commit (newEvents s (commitTrial build now a s)), commit.1 = now := by
  have quiet := @picked_emission _ Event.commit (fun _ _ => rfl)
  unfold commitTrial
  simp only
  split
  · simp [newEvents, saveOutcome_eq, quiet, Event.commit]
  · split
    · simp [newEvents, saveOutcome_eq, restoreCommitted, quiet, Event.commit]
    · simp [newEvents, saveOutcome_eq, quiet, Event.commit]
  · simp [newEvents, saveOutcome_eq, restoreCommitted, quiet, Event.commit]

theorem pollConfiguration_commits (now : Nat) (a : ConfigurationAnswers) (s : Control) :
    ∀ commit ∈ picked Event.commit (newEvents s (pollConfiguration build now a s)),
      commit.1 = now := by
  have quiet := @picked_emission _ Event.commit (fun _ _ => rfl)
  unfold pollConfiguration
  split
  · simp [newEvents]
  split
  · exact commitTrial_commits build now a s
  split
  · simp [newEvents, saveOutcome_eq, restoreCommitted, quiet, Event.commit]
  · simp [newEvents]

theorem step_busy (label : Label) (s : Control) (active : s.trialActive = true)
    (apart : s.otaActive = true → s.trialActive = false) :
    (∃ now a, label = .pollConfiguration now a) ∨ (step build label s).trialActive = true := by
  unfold step
  split
  · exact .inr active
  cases label with
  | pollConfiguration now a => exact .inl ⟨now, a, rfl⟩
  | line viaMqtt a line =>
    right
    cases viaMqtt with
    | true => exact handleLine_busy build a line { s with replyMqtt := true } active
    | false => exact handleLine_busy build a line s active
  | pollOta a =>
    have none : s.otaActive = false := by
      by_contra ota
      simp [apart (by simpa using ota)] at active
    right
    simpa [act, pollOta, none] using active
  | workerProgress received =>
    right
    simp only [act, workerProgress]
    split
    · exact active
    · exact active
  | workerDone prepared selected =>
    right
    simp only [act, workerDone]
    split
    · exact active
    · exact active
  | otherClaim =>
    right
    simp only [act, otherClaim]
    split
    · exact active
    · exact active
  | otherRelease index =>
    right
    simp only [act, otherRelease]
    split
    · exact active
    · split
      · exact active
      · exact active
  | _ => exact .inr active

theorem pollConfiguration_ends (now : Nat) (a : ConfigurationAnswers) (s : Control)
    (late : s.trialDeadline ≤ now) : (pollConfiguration build now a s).trialActive = false := by
  unfold pollConfiguration
  split
  next none => simpa using none
  · split
    next proven =>
      simp only [Bool.and_eq_true, decide_eq_true_eq] at proven
      omega
    · simp [late, saveOutcome_eq, restoreCommitted]

structure TrialInvariant (started : Prop) (s : Control) : Prop where
  exclusive : Exclusive s
  ledger : Ledger none s
  pending : Pending s
  connected : Connected started s
  outcomes : TrialOutcomes s.trialInSlot s
  begun : TrialBegun s

def Boot.wifiStarted (b : Boot) : Prop :=
  (wifiStart b.wifiAnswers b.config.wifi b.startedAt .initial).1 = .ok

theorem trialInvariant_boot (b : Boot) : TrialInvariant b.wifiStarted b.control := by
  have selection := wifiStart_selection b.wifiAnswers b.config.wifi b.startedAt .initial
    (fun _ => ⟨rfl, rfl⟩)
  exact ⟨exclusive_boot b, ledger_boot b, ⟨nofun, nofun⟩,
    ⟨selection.2, nofun, fun on _ _ => selection.1 on⟩, nofun, nofun⟩

theorem trialInvariant_channel (started : Prop) (s : Control) (viaMqtt : Bool)
    (inv : TrialInvariant started s) : TrialInvariant started (s.withChannel viaMqtt) :=
  ⟨⟨inv.exclusive.claims, inv.exclusive.apart, inv.exclusive.certain, inv.exclusive.mirrored,
      inv.exclusive.held, inv.exclusive.workers⟩, inv.ledger.unchanged ⟨rfl, rfl, rfl, rfl⟩ rfl,
    ⟨inv.pending.trial, inv.pending.ota⟩,
    ⟨inv.connected.idle, inv.connected.candidate, inv.connected.committed⟩,
    inv.outcomes.kept rfl rfl (fun _ => rfl), inv.begun⟩

theorem trialInvariant_kept (started : Prop) (s t : Control) (effect : Effect build s t)
    (inv : TrialInvariant started s) : TrialInvariant started t :=
  ⟨exclusive_kept build s t effect inv.exclusive,
    ledger_kept build s t effect inv.ledger inv.pending,
    pending_kept build s t effect inv.exclusive.apart inv.pending,
    connected_kept build started s t effect inv.connected,
    trialOutcomes_kept build s t effect inv.ledger inv.pending inv.exclusive.apart inv.outcomes,
    trialBegun_kept (effect_trial build started s t effect inv.connected)
      (effect_log build s t effect) inv.begun⟩

theorem trialInvariant_reached (b : Boot) (labels : List Label) :
    (runBoot build b labels).replyMqtt = false ∧
      TrialInvariant b.wifiStarted (runBoot build b labels) :=
  run_keeps build (trialInvariant_channel b.wifiStarted) (trialInvariant_kept build b.wifiStarted)
    labels b.control rfl (trialInvariant_boot b)

theorem step_trial (b : Boot) (labels : List Label) (label : Label) :
    TrialStep (runBoot build b labels) (step build label (runBoot build b labels)) := by
  obtain ⟨usb, inv⟩ := trialInvariant_reached build b labels
  obtain ⟨viaMqtt, t, effect, same⟩ := step_effect build label _ usb
  have change := effect_trial build _ _ t effect
    ⟨inv.connected.idle, inv.connected.candidate, inv.connected.committed⟩
  rw [same]
  exact ⟨change.commits, change.writes, change.continues, change.failed, change.succeeded,
    change.begins, change.starts⟩

/-- In every run a commit belongs to a trial whose candidate is selected and proven before the
deadline; a trial ends in one outcome that tells what became of the durable configuration. -/
theorem trials_proven (b : Boot) (labels : List Label) :
    let s := runBoot build b labels
    (∀ label now deadline candidate wifi,
      .committing now deadline candidate wifi ∈ newEvents s (step build label s) →
        (∃ a, label = .pollConfiguration now a) ∧ s.trialActive = true ∧ deadline = s.trialDeadline ∧
          candidate = s.candidate ∧ wifi = s.wifi ∧ Proven now deadline candidate wifi) ∧
      (s.trialActive = true →
        (∃ startedAt, s.trialDeadline = startedAt + 20000 ∧
          .trialStarted s.trialSlot s.candidate startedAt s.configStore ∈ s.log) ∧
        ∀ now a, s.trialDeadline ≤ now → s.restarted = false →
          (step build (.pollConfiguration now a) s).trialActive = false) ∧
      (∀ slot candidate startedAt stored, .trialStarted slot candidate startedAt stored ∈ s.log →
        ∃ first, first.state = some .running ∧
          (s.trialInSlot = some slot ∧ history slot s.log = [first] ∨
            ∃ out, Final out.state ∧ history slot s.log = [first, out])) ∧
      (∀ label, TrialStep s (step build label s)) ∧
      (b.wifiStarted → s.trialActive = false →
        s.configUncertain = true ∨ s.wifi.config = s.config.wifi) := by
  intro s
  obtain ⟨-, inv⟩ := trialInvariant_reached build b labels
  refine ⟨?_, fun active => ⟨inv.begun active, ?_⟩, ?_, step_trial build b labels, ?_⟩
  · intro label now deadline candidate wifi member
    have committed : (now, deadline, candidate, wifi) ∈
        picked Event.commit (newEvents s (step build label s)) :=
      List.mem_filterMap.mpr ⟨_, member, rfl⟩
    obtain ⟨at_, same, active, ended, proven⟩ := (step_trial build b labels label).commits _ committed
    cases same
    refine ⟨?_, active, rfl, rfl, rfl, proven⟩
    rcases step_busy build label s active inv.exclusive.apart with ⟨polled, a, rfl⟩ | still
    · cases asleep : s.restarted with
      | true => simp [step, asleep, newEvents] at committed
      | false =>
        simp only [step, asleep, act] at committed
        have same : now = polled := pollConfiguration_commits build polled a s _ committed
        exact ⟨a, by rw [same]⟩
    · rw [ended] at still
      cases still
  · intro now a late awake
    simp only [step, awake, act]
    exact pollConfiguration_ends build now a s late
  · intro slot candidate startedAt stored member
    have trial : slot ∈ trials s.log := List.mem_filterMap.mpr ⟨_, member, rfl⟩
    have counted := inv.outcomes slot trial
    have inside : slot < s.guard.requests.length := by
      by_contra beyond
      have acted := trial_acted slot s.log trial
      rw [(inv.ledger.unused slot (Nat.not_lt.mp beyond)).2] at acted
      cases acted
    have last := inv.ledger.last slot inside (by simp)
    have running := inv.ledger.running slot
    split at counted
    next here =>
      obtain ⟨first, one⟩ := List.length_eq_one_iff.mp counted
      obtain ⟨active, rfl⟩ : s.trialActive = true ∧ s.trialSlot = slot := by
        simpa [Control.trialInSlot] using here
      rw [one] at last
      obtain rfl : first = s.outcomes s.trialSlot := Option.some.inj last
      exact ⟨_, (inv.pending.trial active).2, .inl ⟨here, one⟩⟩
    next =>
      obtain ⟨first, out, two⟩ := List.length_eq_two.mp counted.1
      rw [two] at last running
      obtain rfl : out = s.outcomes slot := Option.some.inj last
      exact ⟨first, running first (by simp), .inr ⟨_, counted.2, two⟩⟩
  · intro started none
    by_cases uncertain : s.configUncertain = true
    · exact .inl uncertain
    · exact .inr (inv.connected.committed started none (by simpa using uncertain))

end EspBase

import EspBase.Protocol.Authority

set_option autoImplicit false

namespace EspBase

open Transition

variable (build : Build)

def Event.success : Event → Option (Nat × Outcome)
  | .saved slot out => if out.state = some .succeeded then some (slot, out) else none
  | _ => none

abbrev successes (log : List Event) : List (Nat × Outcome) := picked Event.success log

theorem success_saved (slot : Nat) (out : Outcome) (log : List Event) (saved : .saved slot out ∈ log)
    (succeeded : out.state = some .succeeded) : (slot, out) ∈ successes log :=
  List.mem_filterMap.mpr ⟨.saved slot out, saved, if_pos succeeded⟩

theorem saveOutcome_successes (slot : Nat) (state : ResultState) (error : Option String)
    (status : Option StatusSnapshot) (s : Control) :
    successes (saveOutcome slot state error status s).log =
      successes s.log ++ (if state = .succeeded then
        [(slot, savedOutcome (s.outcomes slot).viaMqtt state error status)] else []) := by
  have silent := @picked_emission _ Event.success (fun _ _ => rfl)
  by_cases success : state = .succeeded <;>
    simp [successes, saveOutcome_eq, silent, Event.success, savedOutcome, success]

structure Commits (slot : Nat) (out : Outcome) (s t : Control) : Prop where
  active : s.trialActive = true
  slot : slot = s.trialSlot
  durable : durableConfig t.configStore = some { s.candidate with revision := s.candidate.revision + 1 }
  reported : ∃ x, out.status = some x ∧ x.revision = s.candidate.revision + 1

theorem effect_successes (s t : Control) (effect : Effect build s t) :
    ∀ success ∈ successes t.log, success ∈ successes s.log ∨ Commits success.1 success.2 s t := by
  have silent := @picked_emission _ Event.success (fun _ _ => rfl)
  intro success member
  cases effect with
  | replied events sent =>
    left
    have quiet : successes events = [] := picked_sent (fun _ _ => rfl) _ events sent
    simpa [successes, quiet] using member
  | committed now faults config stored a active ready early wrote =>
    obtain ⟨same, durable⟩ := remoteConfigCommitVerified_ok _ _ _ _ _ _ wrote
    rw [saveOutcome_successes] at member
    rcases List.mem_append.mp member with before | here
    · left
      simpa [successes, Event.success] using before
    · right
      obtain rfl := List.mem_singleton.mp here
      constructor
      case active => exact active
      case slot => rfl
      case durable =>
        rw [saveOutcome_eq, ← same]
        exact durable
      case reported => exact ⟨_, rfl, congrArg RemoteConfig.revision same⟩
  | _ =>
    left
    simpa [successes, saveOutcome_eq, silent, Event.success, savedOutcome] using member

theorem step_successes (label : Label) (s : Control) (usb : s.replyMqtt = false) :
    ∀ success ∈ successes (step build label s).log,
      success ∈ successes s.log ∨ Commits success.1 success.2 s (step build label s) := by
  obtain ⟨viaMqtt, t, effect, same⟩ := step_effect build label s usb
  rw [same]
  intro success member
  rcases effect_successes build (s.withChannel viaMqtt) t effect success member with before | commits
  · exact .inl before
  · exact .inr ⟨commits.active, commits.slot, commits.durable, commits.reported⟩

theorem effect_requests (s t : Control) (effect : Effect build s t) : s.guard.requests <+: t.guard.requests := by
  cases effect with
  | refused slot request guard error accepted => simp [saveOutcome_eq, accepted.requests]
  | otaRefused slot request guard ota a owner claim result stored accepted =>
    simp [saveOutcome_eq, accepted.requests]
  | otaUncertain slot request guard ota a owner claim stored accepted => simp [saveOutcome_eq, accepted.requests]
  | workerFailed slot request guard ota a f owner claim prepared stored accepted =>
    simp [saveOutcome_eq, accepted.requests]
  | workerLost slot request guard ota a f owner claim prepared stored result accepted =>
    simp [saveOutcome_eq, accepted.requests]
  | workerStarted slot request guard ota a owner claim prepared accepted =>
    simp [saveOutcome_eq, accepted.requests]
  | trialStarted slot request guard candidate startedAt now a wifi accepted =>
    simp [saveOutcome_eq, accepted.requests]
  | trialRefused slot request guard candidate startedAt now restoredAt a b error restored wifi back accepted =>
    simp [saveOutcome_eq, accepted.requests]
  | restarting slot request guard accepted => simp [saveOutcome_eq, accepted.requests]
  | _ => simp [saveOutcome_eq]

theorem run_requests (s : Control) (usb : s.replyMqtt = false) (more : List Label) :
    s.guard.requests <+: (run (step build) more s).guard.requests :=
  (@run_keeps build (fun t => s.guard.requests <+: t.guard.requests) (fun _ _ grown => grown)
    (fun t u effect grown => grown.trans (effect_requests build t u effect)) more s usb List.prefix_rfl).2

theorem saveOutcome_guard (slot : Nat) (state : ResultState) (error : Option String)
    (status : Option StatusSnapshot) (s : Control) : (saveOutcome slot state error status s).guard = s.guard := by
  rw [saveOutcome_eq]

theorem startOta_guard (a : LineAnswers) (request : OtaRequest) (slot : Nat) (s : Control) :
    (startOta build a request slot s).guard = s.guard := by
  simp only [startOta, startWorker]
  split_ifs <;> simp [saveOutcome_guard]

theorem startTrial_guard (a : LineAnswers) (config : RemoteConfig) (slot : Nat) (s : Control) :
    (startTrial a config slot s).guard = s.guard := by
  simp only [startTrial, restoreCommitted]
  split_ifs <;> simp [saveOutcome_guard]

theorem execute_guard (a : LineAnswers) (command : Command) (slot : Nat) (s : Control) :
    (execute build a command slot s).guard = s.guard := by
  unfold execute
  cases command.kind with
  | configSet =>
    dsimp only
    split
    · exact saveOutcome_guard _ _ _ _ s
    split
    · exact saveOutcome_guard _ _ _ _ s
    split
    · exact saveOutcome_guard _ _ _ _ s
    split
    · exact saveOutcome_guard _ _ _ _ s
    · exact startTrial_guard a command.config slot s
  | otaStart =>
    dsimp only
    split
    · exact saveOutcome_guard _ _ _ _ s
    · exact startOta_guard build a command.ota slot s
  | _ =>
    dsimp only
    split
    · exact saveOutcome_guard _ _ _ _ s
    · exact saveOutcome_guard slot .running none none s

theorem UsbSet.held {b : Boot} {labels : List Label} {slot : Nat} {candidate : RemoteConfig}
    (set : UsbSet build b labels slot candidate) :
    ∃ a line held, .line false a line ∈ labels ∧ line.error = none ∧ line.command.kind = .configSet ∧
      line.command.config = candidate ∧ (runBoot build b labels).guard.requests[slot]? = some held ∧
      held.requestId = line.command.request.requestId := by
  obtain ⟨earlier, a, line, later, rfl, awake, admits⟩ := set
  obtain ⟨request, guard, presented, decided⟩ := admits.admitted
  obtain ⟨usb, -⟩ := ledger_reached build b earlier
  have admitted := ebaseAdmit_cases (runBoot build b earlier).guard request (runBoot build b earlier).deviceId
    (runBoot build b earlier).bootId a.admitNow
  rw [decided] at admitted
  obtain ⟨-, appended, requests, -⟩ := admitted.resolve_left (fun refused => refused.1 rfl)
  dsimp only at appended requests
  have write : WriteLine build a line request :=
    ⟨admits.parsed, by simp [admits.kind], by simp [admits.kind], presented⟩
  have stepped : (step build (.line false a line) (runBoot build b earlier)).guard = guard := by
    rw [step_line build a line false _ usb awake, withChannel_same _ false usb,
      handleLine_write build a line request _ write]
    unfold handleWrite
    rw [decided]
    exact execute_guard build a line.command slot _
  have here : guard.requests[slot]? = some request := by
    rw [requests, appended]
    simp
  have next : runBoot build b (earlier ++ .line false a line :: later) =
      run (step build) later (runBoot build b (earlier ++ [.line false a line])) := by
    rw [runBoot, runBoot, ← run_append, List.append_assoc, List.singleton_append]
  have reached : runBoot build b (earlier ++ [.line false a line]) =
      step build (.line false a line) (runBoot build b earlier) := run_concat (step build) earlier _ b.control
  obtain ⟨again, -⟩ := ledger_reached build b (earlier ++ [.line false a line])
  obtain ⟨more, grown⟩ := run_requests build _ again later
  refine ⟨a, line, request, by simp, admits.parsed, admits.kind, admits.candidate, ?_,
    fingerprinted_id build a.hashed line.command request presented⟩
  rw [next, ← grown, reached, stepped]
  have inside : slot < guard.requests.length := (List.getElem?_eq_some_iff.mp here).1
  rw [List.getElem?_append_left inside, here]

def nextRevision (config : RemoteConfig) : RemoteConfig := { config with revision := config.revision + 1 }

structure TrialCommitted (b : Boot) (labels : List Label) (slot : Nat) (out : Outcome)
    (candidate : RemoteConfig) : Prop where
  tried : ∃ startedAt stored, .trialStarted slot candidate startedAt stored ∈ (runBoot build b labels).log
  durable : ∃ earlier, earlier <+: labels ∧
    durableConfig (runBoot build b earlier).configStore = some (nextRevision candidate)
  reported : ∃ x, out.status = some x ∧ x.revision = candidate.revision + 1

theorem successes_committed (b : Boot) (labels : List Label) :
    ∀ success ∈ successes (runBoot build b labels).log,
      ∃ candidate, TrialCommitted build b labels success.1 success.2 candidate := by
  induction labels using List.reverseRecOn with
  | nil =>
    intro success member
    cases member
  | append_singleton earlier label ih =>
    obtain ⟨usb, inv⟩ := trialInvariant_reached build b earlier
    obtain ⟨new, grown⟩ := run_grows build (runBoot build b earlier) usb [label]
    have reached : runBoot build b (earlier ++ [label]) = step build label (runBoot build b earlier) :=
      run_concat (step build) earlier label b.control
    have log : (runBoot build b (earlier ++ [label])).log = (runBoot build b earlier).log ++ new := by
      rw [reached]
      exact grown
    intro success member
    rw [reached] at member
    rcases step_successes build label _ usb success member with before | commits
    · obtain ⟨candidate, ⟨startedAt, stored, tried⟩, ⟨first, first_steps, durable⟩, reported⟩ := ih success before
      refine ⟨candidate, ⟨startedAt, stored, ?_⟩, ⟨first, ?_, durable⟩, reported⟩
      · rw [log]
        exact List.mem_append_left new tried
      · exact first_steps.trans (List.prefix_append earlier [label])
    · obtain ⟨startedAt, -, begun⟩ := inv.begun commits.active
      refine ⟨(runBoot build b earlier).candidate, ⟨startedAt, (runBoot build b earlier).configStore, ?_⟩,
        ⟨earlier ++ [label], List.prefix_rfl, ?_⟩, commits.reported⟩
      · rw [log, commits.slot]
        exact List.mem_append_left new begun
      · rw [reached]
        exact commits.durable

/-- The line is the `config.set` from USB that the success answers, and its configuration became durable. -/
structure CommitOf (b : Boot) (labels : List Label) (slot : Nat) (out : Outcome) (line : Parsed) : Prop where
  sent : ∃ a, .line false a line ∈ labels
  parsed : line.error = none
  kind : line.command.kind = .configSet
  held : ∃ held, (runBoot build b labels).guard.requests[slot]? = some held ∧
    held.requestId = line.command.request.requestId
  durable : ∃ earlier, earlier <+: labels ∧
    durableConfig (runBoot build b earlier).configStore = some (nextRevision line.command.config)
  reported : ∃ x, out.status = some x ∧ x.revision = line.command.config.revision + 1

/-- Nothing but a verified commit is ever saved as a success. -/
theorem success_commit (b : Boot) (labels : List Label) (slot : Nat) (out : Outcome)
    (saved : .saved slot out ∈ (runBoot build b labels).log) (succeeded : out.state = some .succeeded) :
    ∃ line, CommitOf build b labels slot out line := by
  have success := success_saved slot out _ saved succeeded
  obtain ⟨candidate, ⟨startedAt, stored, tried⟩, durable, reported⟩ := successes_committed build b labels _ success
  have stem : UsbSet build b labels slot candidate :=
    attempts_stem build b labels (slot, candidate, startedAt, stored) (List.mem_filterMap.mpr ⟨_, tried, rfl⟩)
  obtain ⟨a, line, held, sent, parsed, kind, same, here, id⟩ := stem.held
  subst same
  exact ⟨line, ⟨a, sent⟩, parsed, kind, ⟨held, here, id⟩, durable, reported⟩

end EspBase

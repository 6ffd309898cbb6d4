import EspBase.Wifi.Runs

set_option autoImplicit false

namespace EspBase

open Transition Trace

def WifiLabel.Succeeds : WifiLabel → WifiRun → Prop
  | .apply a _ _, _ => a = {}
  | .poll _ a, r =>
    a.lost = false ∧ a.connect = .ok ∧
      ∀ index < (r.runtime.events ++ a.arrivals).length,
        (a.events index).start = {} ∧ (a.events index).disconnect = .ok
  | .event _, r => r.runtime.events.length < wifiQueueLength

def WifiStartAnswers.Succeeds (a : WifiStartAnswers) : Prop := a.failure = .ok ∧ a.apply = {}

def WifiHappening.selected : WifiHappening → Option WifiConfig
  | .applied config .ok => some config
  | _ => none

/-- The configuration of the most recent `apply` that returned `ESP_OK`. -/
def latestSelection (trace : List WifiHappening) : Option WifiConfig :=
  (trace.filterMap WifiHappening.selected).getLast?

def RunsSelection (w : WifiRuntime) : Prop :=
  if w.config.configured then w.active = true ∧ w.stopping = false else w.state = .unconfigured

def RunsLatest (r : WifiRun) : Prop :=
  latestSelection r.trace = some r.runtime.config ∧ RunsSelection r.runtime

/-- A poll has given the stop up, and its event has not been processed since. -/
def GaveUp (trace : List WifiHappening) : Prop :=
  Since (· = .failed) (fun happening => ∃ a, happening = .handled .stopped a) trace

structure Started (w : WifiRuntime) : Prop where
  still : w.stopping = false
  on : w.config.configured = true → w.active = true ∧ w.state ≠ .failed
  off : w.config.configured = false → w.active = false ∧ w.state = .unconfigured

structure Dead (w : WifiRuntime) : Prop where
  still : w.stopping = false
  off : w.active = false
  failed : w.state = .failed

theorem startSelected_started (w : WifiRuntime) (still : w.stopping = false)
    (off : w.active = false) : Started (startSelected {} w).2 := by
  cases configured : w.config.configured with
  | true =>
    have on : (startSelected {} w).2 =
        { w.unproven with retryAt := 0, active := true, state := .connecting } := by
      simp [startSelected, WifiRuntime.unproven, configured]
    rw [on]
    refine ⟨still, fun _ => ⟨rfl, by simp⟩, fun none => ?_⟩
    exact absurd (configured.symm.trans none) (by decide)
  | false =>
    have idle : (startSelected {} w).2 =
        { w.unproven with retryAt := 0, state := .unconfigured } := by
      simp [startSelected, WifiRuntime.unproven, configured]
    rw [idle]
    refine ⟨still, fun yes => ?_, fun _ => ⟨off, rfl⟩⟩
    exact absurd (configured.symm.trans yes) (by decide)

theorem handleEvent_started (now : Nat) (event : WifiEvent) (a : EventAnswers) (w : WifiRuntime)
    (started : Started w) (start : a.start = {}) : Started (handleEvent now event a w) := by
  have fine : w.state ≠ .failed := by
    cases configured : w.config.configured with
    | true => exact (started.on configured).2
    | false => rw [(started.off configured).2]; decide
  unfold handleEvent
  split
  next =>
    simp only
    rw [if_neg (by simpa [WifiRuntime.unproven] using fine), start]
    exact startSelected_started _ rfl rfl
  split
  · exact started
  next awake =>
    simp only [Bool.or_eq_true, Bool.not_eq_true', not_or, Bool.not_eq_false] at awake
    have configured : w.config.configured = true := by
      by_contra none
      simp [(started.off (by simpa using none)).1] at awake
    have running (x : WifiRuntime) (still : x.stopping = false) (on : x.active = true)
        (state : x.state ≠ .failed) (same : x.config = w.config) : Started x :=
      ⟨still, fun _ => ⟨on, state⟩, fun none => by simp [same, configured] at none⟩
    cases event with
    | lostAddress =>
      simp only
      split
      · exact running _ started.still awake.1.1 (by simp [scheduleRetry]) rfl
      · exact running _ started.still awake.1.1 fine rfl
    | gotAddress =>
      simp only
      split
      · exact running _ started.still awake.1.1 (by simp) rfl
      · exact started
    | disconnected => exact running _ started.still awake.1.1 (by simp [scheduleRetry]) rfl
    | _ => exact running _ started.still awake.1.1 fine rfl

theorem handleEvent_dead (now : Nat) (event : WifiEvent) (a : EventAnswers) (w : WifiRuntime)
    (dead : Dead w) : Dead (handleEvent now event a w) := by
  unfold handleEvent
  split
  next =>
    simp only
    rw [if_pos (by simpa [WifiRuntime.unproven] using dead.failed)]
    exact ⟨rfl, rfl, dead.failed⟩
  next => simpa [dead.off] using dead

theorem handleEvent_halting (now : Nat) (event : WifiEvent) (a : EventAnswers) (w : WifiRuntime)
    (stopping : w.stopping = true) (other : event ≠ .stopped) : handleEvent now event a w = w := by
  simp [handleEvent, other, stopping]

theorem handleEvent_stopped (now : Nat) (a : EventAnswers) (w : WifiRuntime) (start : a.start = {}) :
    (w.state = .failed → Dead (handleEvent now .stopped a w)) ∧
      (w.state ≠ .failed → Started (handleEvent now .stopped a w)) := by
  simp only [handleEvent, if_true]
  constructor
  · intro failed
    rw [if_pos (by simpa [WifiRuntime.unproven] using failed)]
    exact ⟨rfl, rfl, failed⟩
  · intro fine
    rw [if_neg (by simpa [WifiRuntime.unproven] using fine), start]
    exact startSelected_started _ rfl rfl

theorem drainEvents_started (now : Nat) (answers : Nat → EventAnswers) (index : Nat)
    (events : List WifiEvent) (w : WifiRuntime) (started : Started w)
    (start : ∀ i < events.length, (answers (index + i)).start = {}) :
    Started (drainEvents now answers index events w) := by
  induction events generalizing index w with
  | nil => exact started
  | cons event rest ih =>
    refine ih (index + 1) _ ?_ ?_
    · exact handleEvent_started now event (answers index) w started (start 0 (by simp))
    · intro i early
      rw [Nat.add_assoc, Nat.add_comm 1]
      exact start (i + 1) (by simpa using early)

theorem drainEvents_dead (now : Nat) (answers : Nat → EventAnswers) (index : Nat)
    (events : List WifiEvent) (w : WifiRuntime) (dead : Dead w) :
    Dead (drainEvents now answers index events w) := by
  induction events generalizing index w with
  | nil => exact dead
  | cons event rest ih => exact ih (index + 1) _ (handleEvent_dead now event (answers index) w dead)

theorem drainEvents_stop (now : Nat) (answers : Nat → EventAnswers) (index : Nat)
    (events : List WifiEvent) (w : WifiRuntime) (stopping : w.stopping = true)
    (ends : .stopped ∈ events) (start : ∀ i < events.length, (answers (index + i)).start = {}) :
    (w.state = .failed → Dead (drainEvents now answers index events w)) ∧
      (w.state ≠ .failed → Started (drainEvents now answers index events w)) := by
  induction events generalizing index with
  | nil => cases ends
  | cons event rest ih =>
    have later : ∀ i < rest.length, (answers (index + 1 + i)).start = {} := by
      intro i early
      rw [Nat.add_assoc, Nat.add_comm 1]
      exact start (i + 1) (by simpa using early)
    simp only [drainEvents]
    by_cases stopped : event = .stopped
    · subst stopped
      obtain ⟨dead, started⟩ := handleEvent_stopped now (answers index) w (start 0 (by simp))
      exact ⟨fun failed => drainEvents_dead now answers _ rest _ (dead failed),
        fun fine => drainEvents_started now answers _ rest _ (started fine) later⟩
    · rw [handleEvent_halting now event (answers index) w stopping stopped]
      exact ih (index + 1) ((List.mem_cons.mp ends).resolve_left (Ne.symm stopped)) later

theorem gaveUp_concat (trace : List WifiHappening) (happening : WifiHappening) :
    GaveUp (trace ++ [happening]) ↔
      happening = .failed ∨ (GaveUp trace ∧ ¬∃ a, happening = .handled .stopped a) :=
  since_concat happening

theorem latestSelection_concat (trace : List WifiHappening) (happening : WifiHappening) :
    latestSelection (trace ++ [happening]) =
      happening.selected.or (latestSelection trace) := by
  cases selected : happening.selected with
  | none => simp [latestSelection, selected]
  | some config => simp [latestSelection, selected]

/-- What such runs keep: the latest selection is the selected one, and the runtime has failed during
a stop exactly when a poll gave the stop up. -/
structure Attended (r : WifiRun) : Prop where
  initialized : r.runtime.initialized = true
  room : r.runtime.overflow = false
  latest : latestSelection r.trace = some r.runtime.config ∨
    (r.runtime.config.configured = false ∧ r.runtime.active = false ∧ r.runtime.stopping = false)
  gaveUp : GaveUp r.trace ↔ r.runtime.stopping = true ∧ r.runtime.state = .failed

theorem startSelected_frame (a : StartAnswers) (w : WifiRuntime) :
    (startSelected a w).2.initialized = w.initialized ∧
      (startSelected a w).2.overflow = w.overflow ∧
      (startSelected a w).2.stopping = w.stopping ∧
      (w.config.configured = false → (startSelected a w).2.active = w.active) := by
  refine ⟨?_, ?_, ?_, fun unset => by simp [startSelected, WifiRuntime.unproven, unset]⟩
  all_goals
    rcases startSelected_cases a w with off | ⟨error, -, failed⟩ | on
    · rw [off]
      rfl
    · rw [failed]
      rfl
    · rw [on]
      rfl

theorem handleEvent_frame (now : Nat) (event : WifiEvent) (a : EventAnswers) (w : WifiRuntime) :
    (handleEvent now event a w).initialized = w.initialized ∧
      (handleEvent now event a w).overflow = w.overflow ∧
      (handleEvent now event a w).stopping = (w.stopping && event != .stopped) ∧
      (w.config.configured = false → w.active = false →
        (handleEvent now event a w).active = false) := by
  unfold handleEvent
  split
  next stopped =>
    subst stopped
    simp only [bne_self_eq_false, Bool.and_false]
    split
    · exact ⟨rfl, rfl, rfl, fun _ _ => rfl⟩
    · obtain ⟨ready, room, still, off⟩ := startSelected_frame a.start
        { w.unproven with active := false, stopping := false }
      exact ⟨ready, room, still, fun none _ => off none⟩
  next other =>
    have same : (w.stopping && event != .stopped) = w.stopping := by simp [other]
    rw [same]
    split
    · exact ⟨rfl, rfl, rfl, fun _ off => off⟩
    cases event with
    | lostAddress =>
      simp only
      split
      · exact ⟨rfl, rfl, rfl, fun _ off => off⟩
      · exact ⟨rfl, rfl, rfl, fun _ off => off⟩
    | gotAddress =>
      simp only
      split
      · exact ⟨rfl, rfl, rfl, fun _ off => off⟩
      · exact ⟨rfl, rfl, rfl, fun _ off => off⟩
    | _ => exact ⟨rfl, rfl, rfl, fun _ off => off⟩

theorem handleEvent_attended (now : Nat) (event : WifiEvent) (a : EventAnswers) (w : WifiRuntime)
    (trace : List WifiHappening) (idle : WifiIdle w) (attended : Attended ⟨w, trace⟩) :
    Attended ⟨handleEvent now event a w, trace ++ [.handled event a]⟩ := by
  obtain ⟨initialized, room, stopping, off⟩ := handleEvent_frame now event a w
  have same := (handleEvent_selection now event a w idle).1
  refine ⟨initialized.trans attended.initialized, room.trans attended.room, ?_, ?_⟩
  · rw [latestSelection_concat]
    rcases attended.latest with latest | ⟨unset, inactive, still⟩
    · left
      simpa only [same, WifiHappening.selected, Option.none_or] using latest
    · have still : w.stopping = false := still
      exact .inr ⟨same ▸ unset, off unset inactive, by simp [stopping, still]⟩
  · have before := attended.gaveUp
    rw [gaveUp_concat, before]
    by_cases ended : event = .stopped
    · subst ended
      simp [stopping]
    · cases halting : w.stopping with
      | true => simp [handleEvent_halting now event a w halting ended, halting, ended]
      | false => simp [stopping, halting]

theorem drainEvents_attended (now : Nat) (answers : Nat → EventAnswers) (index : Nat)
    (events : List WifiEvent) (w : WifiRuntime) (trace : List WifiHappening) (idle : WifiIdle w)
    (attended : Attended ⟨w, trace⟩) :
    Attended ⟨drainEvents now answers index events w, trace ++ drainTrace answers index events⟩ := by
  induction events generalizing index w trace with
  | nil => simpa [drainEvents, drainTrace] using attended
  | cons event rest ih =>
    have one := handleEvent_attended now event (answers index) w trace idle attended
    have still := (handleEvent_selection now event (answers index) w idle).2
    simpa [drainEvents, drainTrace] using ih (index + 1) _ _ still one

theorem connectWhenDue_frame (now : Nat) (a : WifiPollAnswers) (w : WifiRuntime) :
    (connectWhenDue now a w).initialized = w.initialized ∧
      (connectWhenDue now a w).overflow = w.overflow ∧
      (connectWhenDue now a w).stopping = w.stopping ∧
      (connectWhenDue now a w).active = w.active ∧
      (connectWhenDue now a w = w ∨ (w.stopping = false ∧ w.active = true)) := by
  unfold connectWhenDue
  split
  next due =>
    simp only [Bool.and_eq_true, Bool.not_eq_true'] at due
    simp only
    split
    · exact ⟨rfl, rfl, rfl, rfl, .inr ⟨due.1.1.1.2, due.1.1.1.1⟩⟩
    · exact ⟨rfl, rfl, rfl, rfl, .inr ⟨due.1.1.1.2, due.1.1.1.1⟩⟩
  · exact ⟨rfl, rfl, rfl, rfl, .inl rfl⟩

theorem wifiPoll_attended (now : Nat) (a : WifiPollAnswers) (r : WifiRun)
    (succeeds : (WifiLabel.poll now a).Succeeds r) (idle : WifiIdle r.runtime)
    (attended : Attended r) : Attended (wifiStep (.poll now a) r) := by
  have emptied : Attended ⟨{ r.runtime with events := [] }, r.trace⟩ :=
    ⟨attended.initialized, attended.room, attended.latest, attended.gaveUp⟩
  have handled := drainEvents_attended now a.events 0 (r.runtime.events ++ a.arrivals)
    { r.runtime with events := [] } r.trace idle emptied
  have still := (drainEvents_selection now a.events 0 (r.runtime.events ++ a.arrivals)
    { r.runtime with events := [] } idle).2
  have polled := wifiPoll_polled now a r.runtime
  simp only [wifiStep]
  generalize wifiPoll now a r.runtime = after, pollTrace now a r.runtime = trace at polled ⊢
  cases polled with
  | uninitialized raw => exact absurd (attended.initialized.symm.trans raw) (by decide)
  | overflowed ready lost => exact absurd (attended.room.symm.trans lost) (by decide)
  | expired ready room late =>
    have stopping : (drained now a r.runtime).stopping = true := by
      simp only [stopExpired, Bool.and_eq_true] at late
      exact late.1
    rw [← List.append_assoc]
    refine ⟨handled.initialized, succeeds.1, ?_, ?_⟩
    · rw [latestSelection_concat]
      exact handled.latest.imp_right fun none => absurd (none.2.2.symm.trans stopping) (by decide)
    · rw [gaveUp_concat]
      exact ⟨fun _ => ⟨stopping, rfl⟩, fun _ => .inl rfl⟩
  | went ready room early =>
    have same := (connectWhenDue_selection now a { drained now a r.runtime with overflow := a.lost }
      still).1
    obtain ⟨initialized, overflow, stopping, active, moved⟩ := connectWhenDue_frame now a
      { drained now a r.runtime with overflow := a.lost }
    refine ⟨initialized.trans handled.initialized, overflow.trans succeeds.1, ?_, ?_⟩
    · simp only [same, stopping, active]
      exact handled.latest
    · rcases moved with kept | ⟨still, -⟩
      · rw [kept]
        exact handled.gaveUp
      · refine handled.gaveUp.trans ⟨fun held => ?_, fun held => ?_⟩
        · exact absurd (held.1.symm.trans still) (by decide)
        · exact absurd (held.1.symm.trans (stopping.trans still)) (by decide)

theorem wifiApply_succeeds (config : WifiConfig) (now : Nat) (w : WifiRuntime)
    (ready : w.initialized = true) (valid : wifiConfigValid config = true) :
    let chosen := { w.unproven with config := config, retryAt := 0, failures := 0 }
    (w.stopping = true ∧ wifiApply {} config now w = (.ok, chosen)) ∨
      (w.stopping = false ∧ w.active = false ∧
        wifiApply {} config now w = (.ok, (startSelected {} chosen).2)) ∨
      (w.stopping = false ∧ w.active = true ∧
        wifiApply {} config now w =
          (.ok, { chosen with
            stopping := true, stopDeadline := now + wifiStopMs, state := .connecting })) := by
  cases stopping : w.stopping with
  | true =>
    left
    simp [wifiApply, WifiRuntime.unproven, ready, valid, stopping]
  | false =>
    right
    cases active : w.active with
    | false =>
      left
      have started (v : WifiRuntime) : startSelected {} v = (.ok, (startSelected {} v).2) := by
        cases configured : v.config.configured with
        | true => simp [startSelected, WifiRuntime.unproven, configured]
        | false => simp [startSelected, WifiRuntime.unproven, configured]
      refine ⟨rfl, rfl, ?_⟩
      rw [← started]
      simp [wifiApply, WifiRuntime.unproven, ready, valid, stopping, active]
    | true =>
      right
      simp [wifiApply, WifiRuntime.unproven, ready, valid, stopping, active]

theorem wifiApply_attended (config : WifiConfig) (now : Nat) (r : WifiRun) (attended : Attended r) :
    Attended (wifiStep (.apply {} config now) r) := by
  have ready := attended.initialized
  by_cases valid : wifiConfigValid config = true
  · have noted (result : EspErr) (after : WifiRuntime)
        (same : wifiApply {} config now r.runtime = (result, after)) :
        wifiStep (.apply {} config now) r =
          { runtime := after, trace := r.trace ++ [.applied config result] } := by
      simp [wifiStep, applyTrace, ready, valid, same]
    have quiet : GaveUp (r.trace ++ [.applied config .ok]) ↔
        r.runtime.stopping = true ∧ r.runtime.state = .failed := by
      rw [gaveUp_concat]
      simpa using attended.gaveUp
    have chosen : latestSelection (r.trace ++ [.applied config .ok]) = some config := by
      rw [latestSelection_concat]
      rfl
    rcases wifiApply_succeeds config now r.runtime ready valid with
      ⟨stopping, same⟩ | ⟨still, off, same⟩ | ⟨still, on, same⟩
    · rw [noted _ _ same]
      exact ⟨ready, attended.room, .inl chosen, quiet⟩
    · rw [noted _ _ same]
      obtain ⟨initialized, room, stopping, -⟩ := startSelected_frame {}
        { r.runtime.unproven with config := config, retryAt := 0, failures := 0 }
      refine ⟨initialized.trans ready, room.trans attended.room, .inl ?_, quiet.trans ?_⟩
      · rw [chosen, startSelected_config]
      · exact ⟨fun held => absurd (held.1.symm.trans still) (by decide),
          fun held => absurd (held.1.symm.trans (stopping.trans still)) (by decide)⟩
    · rw [noted _ _ same]
      refine ⟨ready, attended.room, .inl chosen, quiet.trans ?_⟩
      exact ⟨fun held => absurd (held.1.symm.trans still) (by decide), by simp⟩
  · have same : wifiStep (.apply {} config now) r = r := by
      simp [wifiStep, applyTrace, wifiApply, ready, valid]
    rw [same]
    exact attended

theorem attended_kept (label : WifiLabel) (r : WifiRun) (succeeds : label.Succeeds r)
    (sound : WifiSound r) (attended : Attended r) : Attended (wifiStep label r) := by
  cases label with
  | apply a config now =>
    have same : a = {} := succeeds
    subst same
    exact wifiApply_attended config now r attended
  | poll now a => exact wifiPoll_attended now a r succeeds sound.idle attended
  | event event =>
    have room : r.runtime.events.length < wifiQueueLength := succeeds
    have received : eventReceived event r.runtime =
        { r.runtime with events := r.runtime.events ++ [event] } := by
      unfold eventReceived
      rw [if_neg (by simp [attended.initialized]), if_pos room]
    simp only [wifiStep, received]
    exact ⟨attended.initialized, attended.room, attended.latest, attended.gaveUp⟩

theorem attended_started (a : WifiStartAnswers) (config : WifiConfig) (now : Nat)
    (succeeds : a.Succeeds) : Attended (wifiStarted a config now) := by
  obtain ⟨fine, applied⟩ := succeeds
  have initial : Attended ⟨{ WifiRuntime.initial with initialized := true }, []⟩ := by
    refine ⟨rfl, rfl, .inr ⟨rfl, rfl, rfl⟩, ⟨?_, nofun⟩⟩
    rintro ⟨before, mark, after, split, -⟩
    simp at split
  have first := wifiApply_attended config now _ initial
  simpa [wifiStarted, wifiStart, WifiRuntime.initial, fine, applied, wifiStep] using first

theorem latestSelection_drain (answers : Nat → EventAnswers) (index : Nat)
    (events : List WifiEvent) (trace : List WifiHappening) :
    latestSelection (trace ++ drainTrace answers index events) = latestSelection trace := by
  have silent : (drainTrace answers index events).filterMap WifiHappening.selected = [] := by
    induction events generalizing index with
    | nil => rfl
    | cons event rest ih => simpa [drainTrace, WifiHappening.selected] using ih (index + 1)
  simp [latestSelection, silent]

theorem connectWhenDue_off (now : Nat) (a : WifiPollAnswers) (w : WifiRuntime)
    (off : w.active = false) : connectWhenDue now a w = w := by
  simp [connectWhenDue, off]

theorem Started.runs {w : WifiRuntime} (started : Started w) (now : Nat) (a : WifiPollAnswers)
    (idle : WifiIdle w) : RunsSelection (connectWhenDue now a w) := by
  obtain ⟨-, -, stopping, active, -⟩ := connectWhenDue_frame now a w
  rw [RunsSelection, (connectWhenDue_selection now a w idle).1, stopping, active]
  split
  next configured => exact ⟨(started.on configured).1, started.still⟩
  next unset =>
    obtain ⟨off, state⟩ := started.off (by simpa using unset)
    rw [connectWhenDue_off now a w off]
    exact state

theorem Dead.stays {w : WifiRuntime} (dead : Dead w) (now : Nat) (a : WifiPollAnswers) :
    ¬RunsSelection (connectWhenDue now a w) := by
  rw [connectWhenDue_off now a w dead.off, RunsSelection]
  split
  · exact fun ⟨on, _⟩ => absurd (on.symm.trans dead.off) (by decide)
  · exact fun state => absurd (state.symm.trans dead.failed) (by decide)

/-- In every run in which the driver succeeds, a poll that takes the event ending a stop leaves the
latest selection running exactly when no poll has given that stop up before. -/
theorem latest_selection_starts (a : WifiStartAnswers) (config : WifiConfig) (now : Nat)
    (labels : List WifiLabel) (polledAt : Nat) (answers : WifiPollAnswers)
    (initialised : a.Succeeds)
    (succeeds : Along wifiStep WifiLabel.Succeeds (labels ++ [.poll polledAt answers])
      (wifiStarted a config now)) :
    let r := runWifi a config now labels
    r.runtime.stopping = true → .stopped ∈ r.runtime.events ++ answers.arrivals →
      (RunsLatest (wifiStep (.poll polledAt answers) r) ↔ ¬GaveUp r.trace) := by
  intro r stopping ends
  obtain ⟨along, polling, -⟩ := (along_append wifiStep labels _ _).mp succeeds
  obtain ⟨sound, attended⟩ : WifiSound r ∧ Attended r := by
    refine @run_invariant_along _ _ _ (fun r => WifiSound r ∧ Attended r) _ ?_ labels _ along
      ⟨wifiSound_started a config now, attended_started a config now initialised⟩
    rintro label r fine ⟨sound, attended⟩
    exact ⟨wifiSound_kept label r sound, attended_kept label r fine sound attended⟩
  obtain ⟨dead, started⟩ := drainEvents_stop polledAt answers.events 0
    (r.runtime.events ++ answers.arrivals) { r.runtime with events := [] } stopping ends
    (fun i early => by simpa using (polling.2.2 i early).1)
  have still : (drained polledAt answers r.runtime).stopping = false := by
    by_cases failed : r.runtime.state = .failed
    · exact (dead failed).still
    · exact (started failed).still
  have idle : WifiIdle (drained polledAt answers r.runtime) :=
    (drainEvents_selection polledAt answers.events 0 (r.runtime.events ++ answers.arrivals)
      { r.runtime with events := [] } sound.idle).2
  have same : (drained polledAt answers r.runtime).config = r.runtime.config :=
    (drainEvents_selection polledAt answers.events 0 (r.runtime.events ++ answers.arrivals)
      { r.runtime with events := [] } sound.idle).1
  have latest : latestSelection r.trace = some r.runtime.config :=
    attended.latest.resolve_right fun unset => absurd (unset.2.2.symm.trans stopping) (by decide)
  have failing : GaveUp r.trace ↔ r.runtime.state = .failed :=
    attended.gaveUp.trans ⟨And.right, fun failed => ⟨stopping, failed⟩⟩
  have polled := wifiPoll_polled polledAt answers r.runtime
  simp only [RunsLatest, wifiStep]
  generalize wifiPoll polledAt answers r.runtime = after, pollTrace polledAt answers r.runtime = trace
    at polled ⊢
  cases polled with
  | uninitialized raw => exact absurd (attended.initialized.symm.trans raw) (by decide)
  | overflowed ready lost => exact absurd (attended.room.symm.trans lost) (by decide)
  | expired ready room late => simp [stopExpired, still] at late
  | went ready room early =>
    have kept := (connectWhenDue_selection polledAt answers
      { drained polledAt answers r.runtime with overflow := answers.lost } idle).1
    rw [latestSelection_drain, latest, kept, same, failing, and_iff_right rfl]
    constructor
    · intro runs failed
      have ended : Dead { drained polledAt answers r.runtime with overflow := answers.lost } :=
        ⟨(dead failed).still, (dead failed).off, (dead failed).failed⟩
      exact ended.stays polledAt answers runs
    · intro fine
      have begun : Started { drained polledAt answers r.runtime with overflow := answers.lost } :=
        ⟨(started fine).still, (started fine).on, (started fine).off⟩
      exact begun.runs polledAt answers idle

instance (w : WifiRuntime) : Decidable (RunsSelection w) :=
  inferInstanceAs (Decidable (if w.config.configured then _ else _))

instance (r : WifiRun) : Decidable (RunsLatest r) :=
  inferInstanceAs (Decidable (latestSelection r.trace = some r.runtime.config ∧ RunsSelection r.runtime))

instance : ∀ (label : WifiLabel) (r : WifiRun), Decidable (label.Succeeds r)
  | .apply a _ _, _ => inferInstanceAs (Decidable (a = {}))
  | .poll _ a, r =>
    inferInstanceAs (Decidable (a.lost = false ∧ a.connect = .ok ∧
      ∀ index < (r.runtime.events ++ a.arrivals).length,
        (a.events index).start = {} ∧ (a.events index).disconnect = .ok))
  | .event _, r => inferInstanceAs (Decidable (r.runtime.events.length < wifiQueueLength))

-- A candidate is tried on a running station, and the station stops in time.
def trying : List WifiLabel :=
  [.apply {} { sampleWifi with ssid := Vector.replicate 33 0 |>.set 0 0x61 } 1000, .event .stopped]

theorem latest_selection_starts_in_time : ¬GaveUp (runWifi {} sampleWifi 0 trying).trace :=
  (latest_selection_starts {} sampleWifi 0 trying 1500 {} ⟨rfl, rfl⟩ (by decide +kernel)
    (by decide +kernel) (by decide +kernel)).mp (by decide +kernel)

-- The stop takes longer than 2 s, and the committed network is selected again meanwhile.
def restoring : List WifiLabel :=
  [.apply {} { sampleWifi with ssid := Vector.replicate 33 0 |>.set 0 0x61 } 1000, .poll 3000 {},
    .apply {} sampleWifi 3000, .event .stopped]

theorem restored_selection_never_starts :
    ¬∀ (a : WifiStartAnswers) (config : WifiConfig) (now : Nat) (labels : List WifiLabel)
        (polledAt : Nat) (answers : WifiPollAnswers), a.Succeeds →
      Along wifiStep WifiLabel.Succeeds (labels ++ [.poll polledAt answers])
        (wifiStarted a config now) →
      let r := runWifi a config now labels
      r.runtime.stopping = true → .stopped ∈ r.runtime.events ++ answers.arrivals →
        RunsLatest (wifiStep (.poll polledAt answers) r) := by
  intro claim
  have starts := claim {} sampleWifi 0 restoring 4000 {} ⟨rfl, rfl⟩ (by decide +kernel)
    (by decide +kernel) (by decide +kernel)
  exact absurd starts (by decide +kernel)

end EspBase

import EspBase.Wifi.Runs

set_option autoImplicit false

namespace EspBase

open Transition

-- What ends the time in which the state is `connected` without readiness.
def endsLoss (now : Nat) (event : WifiEvent) (a : EventAnswers) (w : WifiRuntime) : Bool :=
  match event with
  | .stopped | .disconnected => true
  | .gotAddress => w.associated && a.proves w.config
  | .lostAddress => a.disconnect != .ok
  -- The next connection attempt is due at once, and sets the state.
  | .started => now != 0
  | .associated => false

-- What keeps the connection attempt of a second start from finding the station ready.
def endsRestart (event : WifiEvent) (a : EventAnswers) (w : WifiRuntime) : Bool :=
  match event with
  | .stopped | .disconnected | .lostAddress => true
  | .gotAddress => w.associated && a.proves w.config
  | .started | .associated => false

section Poll

variable (now : Nat) (a : WifiPollAnswers)

-- None of the events that are left in the poll ends it.
def lasts (ends : WifiEvent → EventAnswers → WifiRuntime → Bool) : Nat → List WifiEvent → WifiRuntime → Bool
  | _, [], _ => true
  | index, event :: rest, w =>
    !ends event (a.events index) w && lasts ends (index + 1) rest (handleEvent now event (a.events index) w)

/-- The two branches that change readiness or the reported state and leave the other: an address
lost while the station is ready, when the disconnect is under way, and a second start of a ready
station, whose next connection attempt begins. -/
def drainMisleads : Nat → List WifiEvent → WifiRuntime → Bool
  | _, [], _ => false
  | index, event :: rest, w =>
    let handled := handleEvent now event (a.events index) w
    (w.ready &&
        (event == .lostAddress && (a.events index).disconnect == .ok && w.retryAt == 0 &&
            lasts now a (endsLoss now) (index + 1) rest handled ||
          event == .started && now != 0 && a.connect == .ok && lasts now a endsRestart (index + 1) rest handled)) ||
      drainMisleads (index + 1) rest handled

end Poll

def WifiLabel.misleads : WifiLabel → WifiRun → Bool
  | .poll now a, r =>
    r.runtime.initialized && !r.runtime.overflow &&
      drainMisleads now a 0 (r.runtime.events ++ a.arrivals) { r.runtime with events := [] }
  | _, _ => false

def Truthful (w : WifiRuntime) : Prop := w.state = .connected ↔ w.ready = true

structure Rested (w : WifiRuntime) : Prop where
  truthful : Truthful w
  live : Live w
  quiet : w.ready = true → w.connecting = false
  settled : w.ready = true → w.retryAt = 0

-- The address is gone, and the state may still be `connected`.
structure Unaddressed (w : WifiRuntime) : Prop where
  unready : w.ready = false
  awake : w.active = true ∧ w.stopping = false ∧ w.state ≠ .failed
  quiet : w.connecting = false

-- A ready station that is to connect once more.
structure Restarted (now : Nat) (w : WifiRuntime) : Prop where
  ready : w.ready = true
  state : w.state = .connected
  awake : w.active = true ∧ w.stopping = false
  quiet : w.connecting = false
  due : w.retryAt = now ∧ now ≠ 0

-- Where a poll stands that has the events `rest` left.
inductive Standing (now : Nat) (a : WifiPollAnswers) (index : Nat) (rest : List WifiEvent) (w : WifiRuntime) : Prop
    where
  | rested (rested : Rested w)
  | lost (unaddressed : Unaddressed w) (ends : lasts now a (endsLoss now) index rest w = false)
  | due (unaddressed : Unaddressed w) (due : w.retryAt = now ∧ now ≠ 0)
  | restarted (restarted : Restarted now w)
      (ends : a.connect ≠ .ok ∨ lasts now a endsRestart index rest w = false)

theorem rested_of_unready (w : WifiRuntime) (unready : w.ready = false)
    (state : w.state ≠ .connected) : Rested w := by
  constructor
  · simp [Truthful, unready, state]
  · simp [Live, unready]
  · simp [unready]
  · simp [unready]

theorem startSelected_rested (a : StartAnswers) (w : WifiRuntime) :
    Rested (startSelected a w).2 := by
  apply rested_of_unready _ (startSelected_ready a w)
  rcases startSelected_cases a w with off | ⟨error, -, failed⟩ | on
  · simp [off]
  · simp [failed, wifiFailed]
  · simp [on]

theorem scheduleRetry_rested (now random : Nat) (w : WifiRuntime) :
    Rested (scheduleRetry now random w) :=
  rested_of_unready _ rfl (by simp [scheduleRetry])

theorem wifiFailed_rested (w : WifiRuntime) : Rested (wifiFailed w) :=
  rested_of_unready _ rfl (by simp [wifiFailed])

section Events

variable {now : Nat} {w : WifiRuntime}

theorem stopped_rested (a : EventAnswers) : Rested (handleEvent now .stopped a w) := by
  unfold handleEvent
  simp only [if_true]
  split
  next failed => exact rested_of_unready _ rfl (by simp [failed])
  next => exact startSelected_rested a.start _

theorem gotAddress_rested (awake : w.active = true ∧ w.stopping = false) :
    Rested { w with ready := true, connecting := false, retryAt := 0, failures := 0, state := .connected } where
  truthful := by simp [Truthful]
  live := fun _ => ⟨awake.1, awake.2, nofun⟩
  quiet := fun _ => rfl
  settled := fun _ => rfl

theorem Rested.handled (rested : Rested w) (event : WifiEvent) (a : EventAnswers) :
    Rested (handleEvent now event a w) ∨
      (w.ready = true ∧ event = .lostAddress ∧ a.disconnect = .ok ∧ w.retryAt = 0 ∧
        Unaddressed (handleEvent now event a w)) ∨
      (w.ready = true ∧ event = .started ∧ now ≠ 0 ∧ Restarted now (handleEvent now event a w)) := by
  by_cases stop : event = .stopped
  · rw [stop]
    exact .inl (stopped_rested a)
  by_cases asleep : (!w.active || w.stopping || w.state == .failed) = true
  · unfold handleEvent
    rw [if_neg stop, if_pos asleep]
    exact .inl rested
  have awake : w.active = true ∧ w.stopping = false ∧ w.state ≠ .failed := by
    simpa [and_assoc] using asleep
  unfold handleEvent
  rw [if_neg stop, if_neg asleep]
  cases event with
  | stopped => exact absurd rfl stop
  | associated => exact .inl ⟨rested.truthful, rested.live, rested.quiet, rested.settled⟩
  | disconnected => exact .inl (scheduleRetry_rested now a.random w)
  | gotAddress =>
    dsimp only
    split
    · exact .inl (gotAddress_rested ⟨awake.1, awake.2.1⟩)
    · exact .inl rested
  | lostAddress =>
    dsimp only
    split
    · exact .inl (scheduleRetry_rested now a.random _)
    next gone =>
      by_cases ready : w.ready = true
      · exact .inr (.inl ⟨ready, rfl, not_not.mp gone, rested.settled ready, rfl, awake, rested.quiet ready⟩)
      · refine .inl (rested_of_unready _ rfl fun connected => ?_)
        exact ready (rested.truthful.mp connected)
  | started =>
    by_cases ready : w.ready = true
    · by_cases zero : now = 0
      · exact .inl ⟨rested.truthful, rested.live, rested.quiet, fun _ => zero⟩
      · exact .inr (.inr ⟨ready, rfl, zero, ready, rested.truthful.mpr ready, ⟨awake.1, awake.2.1⟩,
          rested.quiet ready, rfl, zero⟩)
    · exact .inl ⟨rested.truthful, rested.live, rested.quiet, fun now_ready => absurd now_ready ready⟩

theorem Unaddressed.handled (unaddressed : Unaddressed w) (event : WifiEvent) (a : EventAnswers) :
    Rested (handleEvent now event a w) ∨ Unaddressed (handleEvent now event a w) ∧
      ((handleEvent now event a w).retryAt = w.retryAt ∧ endsLoss now event a w = false ∨
        (handleEvent now event a w).retryAt = now ∧ (now ≠ 0 ∨ endsLoss now event a w = false)) := by
  obtain ⟨unready, awake, quiet⟩ := unaddressed
  by_cases stop : event = .stopped
  · rw [stop]
    exact .inl (stopped_rested a)
  unfold handleEvent
  rw [if_neg stop, if_neg (by simp [awake])]
  cases event with
  | stopped => exact absurd rfl stop
  | associated => exact .inr ⟨⟨unready, awake, quiet⟩, .inl ⟨rfl, rfl⟩⟩
  | disconnected => exact .inl (scheduleRetry_rested now a.random w)
  | gotAddress =>
    dsimp only
    split
    · exact .inl (gotAddress_rested ⟨awake.1, awake.2.1⟩)
    next unproven => exact .inr ⟨⟨unready, awake, quiet⟩, .inl ⟨rfl, by simpa [endsLoss] using unproven⟩⟩
  | lostAddress =>
    dsimp only
    split
    · exact .inl (scheduleRetry_rested now a.random _)
    next gone => exact .inr ⟨⟨rfl, awake, quiet⟩, .inl ⟨rfl, by simpa [endsLoss] using gone⟩⟩
  | started =>
    refine .inr ⟨⟨unready, awake, quiet⟩, .inr ⟨rfl, ?_⟩⟩
    by_cases zero : now = 0
    · exact .inr (by simp [endsLoss, zero])
    · exact .inl zero

theorem Restarted.handled (restarted : Restarted now w) (event : WifiEvent) (a : EventAnswers) :
    Rested (handleEvent now event a w) ∨
      (Unaddressed (handleEvent now event a w) ∧ (handleEvent now event a w).retryAt = now) ∨
      (Restarted now (handleEvent now event a w) ∧ endsRestart event a w = false) := by
  obtain ⟨ready, state, ⟨active, still⟩, quiet, due⟩ := restarted
  have awake : w.active = true ∧ w.stopping = false ∧ w.state ≠ .failed := ⟨active, still, by simp [state]⟩
  by_cases stop : event = .stopped
  · rw [stop]
    exact .inl (stopped_rested a)
  unfold handleEvent
  rw [if_neg stop, if_neg (by simp [awake])]
  cases event with
  | stopped => exact absurd rfl stop
  | associated => exact .inr (.inr ⟨⟨ready, state, ⟨active, still⟩, quiet, due⟩, rfl⟩)
  | started => exact .inr (.inr ⟨⟨ready, state, ⟨active, still⟩, quiet, rfl, due.2⟩, rfl⟩)
  | disconnected => exact .inl (scheduleRetry_rested now a.random w)
  | gotAddress =>
    dsimp only
    split
    · exact .inl (gotAddress_rested ⟨active, still⟩)
    next unproven =>
      exact .inr (.inr ⟨⟨ready, state, ⟨active, still⟩, quiet, due⟩, by simpa [endsRestart] using unproven⟩)
  | lostAddress =>
    dsimp only
    split
    · exact .inl (scheduleRetry_rested now a.random _)
    · exact .inr (.inl ⟨⟨rfl, awake, quiet⟩, due.1⟩)

end Events

theorem Standing.handled {now : Nat} {a : WifiPollAnswers} {index : Nat} {event : WifiEvent} {rest : List WifiEvent}
    {w : WifiRuntime} (standing : Standing now a index (event :: rest) w)
    (honest : drainMisleads now a index (event :: rest) w = false) :
    Standing now a (index + 1) rest (handleEvent now event (a.events index) w) := by
  cases standing with
  | rested rested =>
    simp only [drainMisleads, Bool.or_eq_false_iff] at honest
    rcases rested.handled event (a.events index) with still | ⟨ready, rfl, gone, settled, lost⟩ |
      ⟨ready, rfl, nonzero, again⟩
    · exact .rested still
    · refine .lost lost ?_
      simpa [ready, gone, settled] using honest.1
    · refine .restarted again ?_
      simpa [ready, nonzero, or_iff_not_imp_left] using honest.1
  | lost unaddressed ends =>
    rcases unaddressed.handled event (a.events index) with rested | ⟨still, ⟨-, lasting⟩ | ⟨due, nonzero | lasting⟩⟩
    · exact .rested rested
    · exact .lost still (by simpa [lasts, lasting] using ends)
    · exact .due still ⟨due, nonzero⟩
    · exact .lost still (by simpa [lasts, lasting] using ends)
  | due unaddressed due =>
    rcases unaddressed.handled event (a.events index) with rested | ⟨still, ⟨same, -⟩ | ⟨again, -⟩⟩
    · exact .rested rested
    · exact .due still ⟨same.trans due.1, due.2⟩
    · exact .due still ⟨again, due.2⟩
  | restarted restarted ends =>
    rcases restarted.handled event (a.events index) with rested | ⟨unaddressed, due⟩ | ⟨still, lasting⟩
    · exact .rested rested
    · exact .due unaddressed ⟨due, restarted.due.2⟩
    · exact .restarted still (ends.imp_right fun ends => by simpa [lasts, lasting] using ends)

theorem drainEvents_standing (now : Nat) (a : WifiPollAnswers) (index : Nat) (events : List WifiEvent)
    (w : WifiRuntime) (standing : Standing now a index events w)
    (honest : drainMisleads now a index events w = false) :
    Standing now a (index + events.length) [] (drainEvents now a.events index events w) := by
  induction events generalizing index w with
  | nil => exact standing
  | cons event rest ih =>
    have later := standing.handled honest
    simp only [drainMisleads, Bool.or_eq_false_iff] at honest
    have drained := ih (index + 1) _ later honest.2
    rwa [Nat.add_assoc, Nat.add_comm 1] at drained

theorem connectWhenDue_due (now : Nat) (a : WifiPollAnswers) (w : WifiRuntime)
    (awake : w.active = true ∧ w.stopping = false) (due : w.retryAt = now ∧ now ≠ 0) (quiet : w.connecting = false) :
    connectWhenDue now a w =
      if a.connect = .ok then { w with retryAt := 0, connecting := true, state := .connecting }
      else scheduleRetry now a.random { w with retryAt := 0 } := by
  unfold connectWhenDue
  rw [if_pos (by simp [awake, due, quiet])]

theorem connectWhenDue_rested (now : Nat) (a : WifiPollAnswers) (index : Nat) (w : WifiRuntime)
    (standing : Standing now a index [] w) : Rested (connectWhenDue now a w) := by
  cases standing with
  | rested rested =>
    unfold connectWhenDue
    split
    next due =>
      simp only [Bool.and_eq_true, Bool.not_eq_true', bne_iff_ne, decide_eq_true_eq] at due
      dsimp only
      split
      next fine =>
        have unready : w.ready = false := by
          by_contra ready
          exact due.1.1.2 (rested.settled (by simpa using ready))
        exact rested_of_unready _ unready nofun
      next => exact scheduleRetry_rested now a.random _
    next idle => exact rested
  | lost unaddressed ends => cases ends
  | due unaddressed due =>
    rw [connectWhenDue_due now a w ⟨unaddressed.awake.1, unaddressed.awake.2.1⟩ due unaddressed.quiet]
    split
    · exact rested_of_unready _ unaddressed.unready nofun
    · exact scheduleRetry_rested now a.random _
  | restarted restarted ends =>
    have refused : a.connect ≠ .ok := ends.resolve_right nofun
    rw [connectWhenDue_due now a w restarted.awake restarted.due restarted.quiet, if_neg refused]
    exact scheduleRetry_rested now a.random _

-- The overflow mark is no part of it.
theorem Standing.marked {now : Nat} {a : WifiPollAnswers} {index : Nat} {w : WifiRuntime}
    (standing : Standing now a index [] w) (overflow : Bool) :
    Standing now a index [] { w with overflow := overflow } := by
  cases standing with
  | rested rested => exact .rested ⟨rested.truthful, rested.live, rested.quiet, rested.settled⟩
  | lost unaddressed ends => cases ends
  | due unaddressed due => exact .due ⟨unaddressed.unready, unaddressed.awake, unaddressed.quiet⟩ due
  | restarted restarted ends =>
    exact .restarted ⟨restarted.ready, restarted.state, restarted.awake, restarted.quiet, restarted.due⟩
      (.inl (ends.resolve_right nofun))

theorem wifiPoll_rested (now : Nat) (a : WifiPollAnswers) (r : WifiRun) (rested : Rested r.runtime)
    (honest : (WifiLabel.poll now a).misleads r = false) : Rested (wifiPoll now a r.runtime) := by
  have polled := wifiPoll_polled now a r.runtime
  generalize wifiPoll now a r.runtime = after, pollTrace now a r.runtime = trace at polled ⊢
  cases polled with
  | uninitialized raw => exact rested
  | overflowed ready lost => exact wifiFailed_rested _
  | expired ready room late => exact wifiFailed_rested _
  | went ready room early =>
    simp only [WifiLabel.misleads, Bool.and_eq_false_iff, Bool.not_eq_false'] at honest
    rcases honest with (raw | lost) | honest
    · exact absurd (ready.symm.trans raw) (by decide)
    · exact absurd (room.symm.trans lost) (by decide)
    have begun : Rested { r.runtime with events := [] } :=
      ⟨rested.truthful, rested.live, rested.quiet, rested.settled⟩
    have drained := drainEvents_standing now a 0 (r.runtime.events ++ a.arrivals) _ (.rested begun) honest
    exact connectWhenDue_rested now a _ _ (drained.marked a.lost)

theorem wifiApply_rested (a : ApplyAnswers) (config : WifiConfig) (now : Nat) (w : WifiRuntime)
    (rested : Rested w) : Rested (wifiApply a config now w).2 := by
  unfold wifiApply
  split
  · exact rested
  split
  · exact rested
  simp only
  split
  next stopping =>
    refine rested_of_unready _ rfl fun connected => ?_
    have still := (rested.live (rested.truthful.mp connected)).2.1
    exact absurd (stopping.symm.trans still) (by decide)
  split
  · exact startSelected_rested _ _
  split
  · exact startSelected_rested _ _
  split
  · exact wifiFailed_rested _
  · exact rested_of_unready _ rfl nofun

theorem rested_kept (label : WifiLabel) (r : WifiRun) (honest : label.misleads r = false)
    (rested : Rested r.runtime) : Rested (wifiStep label r).runtime := by
  cases label with
  | apply a config now => exact wifiApply_rested a config now r.runtime rested
  | poll now a => exact wifiPoll_rested now a r rested honest
  | event event =>
    simp only [wifiStep, eventReceived]
    split_ifs <;> exact ⟨rested.truthful, rested.live, rested.quiet, rested.settled⟩

theorem rested_started (a : WifiStartAnswers) (config : WifiConfig) (now : Nat) :
    Rested (wifiStarted a config now).runtime := by
  have initial : Rested { WifiRuntime.initial with initialized := true } :=
    rested_of_unready _ rfl nofun
  simp only [wifiStarted, wifiStart, WifiRuntime.initial, Bool.false_eq_true, if_false]
  split
  · exact wifiFailed_rested _
  · exact wifiApply_rested a.apply config now _ initial

/-- In every run that takes neither misleading branch the state is `connected` exactly when the
station is ready. -/
theorem state_truthful (a : WifiStartAnswers) (config : WifiConfig) (now : Nat)
    (labels : List WifiLabel)
    (honest : Along wifiStep (fun label r => label.misleads r = false) labels
      (wifiStarted a config now)) :
    let w := (runWifi a config now labels).runtime
    w.state = .connected ↔ wifiReady w = true := by
  have rested := @run_invariant_along _ _ _ (fun r : WifiRun => Rested r.runtime) _ rested_kept labels
    (wifiStarted a config now) honest (rested_started a config now)
  simp only [wifiReady, Bool.and_eq_true, Bool.not_eq_true']
  exact ⟨fun connected => ⟨rested.truthful.mp connected,
    (rested.live (rested.truthful.mp connected)).2.1⟩, fun ready => rested.truthful.mpr ready.1⟩

theorem state_truthful_connecting :
    let w := (runWifi {} sampleWifi 0 connecting).runtime
    w.state = .connected ↔ wifiReady w = true :=
  state_truthful {} sampleWifi 0 connecting (by decide +kernel)

-- The address is lost, the disconnect is accepted, and its event is still to come.
def losing : List WifiLabel := connecting ++ [.event .lostAddress]

theorem lost_address_still_connected :
    ¬∀ (a : WifiStartAnswers) (config : WifiConfig) (now : Nat) (labels : List WifiLabel)
        (polledAt : Nat) (answers : WifiPollAnswers),
      let w := (runWifi a config now (labels ++ [.poll polledAt answers])).runtime
      w.state = .connected ↔ wifiReady w = true := by
  intro claim
  have told := claim {} sampleWifi 0 losing 600 {}
  exact absurd told (by decide +kernel)

end EspBase

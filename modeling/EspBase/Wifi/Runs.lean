import EspBase.Shared.Run
import EspBase.Shared.Since
import EspBase.Wifi.Selection

set_option autoImplicit false

namespace EspBase

open Transition Trace

/-- What the runtime has done: a selection that passed its checks and what `apply` returned for it,
an event taken from the queue with the driver's answers, or a failure. -/
inductive WifiHappening where
  | applied (config : WifiConfig) (result : EspErr)
  | handled (event : WifiEvent) (a : EventAnswers)
  | failed

inductive WifiLabel where
  | apply (a : ApplyAnswers) (config : WifiConfig) (now : Nat)
  | poll (now : Nat) (a : WifiPollAnswers)
  | event (event : WifiEvent)

def applyTrace (a : ApplyAnswers) (config : WifiConfig) (now : Nat) (w : WifiRuntime) :
    List WifiHappening :=
  if !w.initialized || !wifiConfigValid config then []
  else [.applied config (wifiApply a config now w).1]

def drainTrace (answers : Nat → EventAnswers) : Nat → List WifiEvent → List WifiHappening
  | _, [] => []
  | index, event :: rest => .handled event (answers index) :: drainTrace answers (index + 1) rest

def drained (now : Nat) (a : WifiPollAnswers) (w : WifiRuntime) : WifiRuntime :=
  drainEvents now a.events 0 (w.events ++ a.arrivals) { w with events := [] }

def stopExpired (now : Nat) (w : WifiRuntime) : Bool := w.stopping && w.stopDeadline ≤ now

-- A start that fails after a stop is not noted apart from the stop.
def pollTrace (now : Nat) (a : WifiPollAnswers) (w : WifiRuntime) : List WifiHappening :=
  if !w.initialized then []
  else if w.overflow then [.failed]
  else
    drainTrace a.events 0 (w.events ++ a.arrivals) ++
      if stopExpired now (drained now a w) then [.failed] else []

structure WifiRun where
  runtime : WifiRuntime
  trace : List WifiHappening

def wifiStep : WifiLabel → WifiRun → WifiRun
  | .apply a config now, r =>
    { runtime := (wifiApply a config now r.runtime).2
      trace := r.trace ++ applyTrace a config now r.runtime }
  | .poll now a, r =>
    { runtime := wifiPoll now a r.runtime
      trace := r.trace ++ pollTrace now a r.runtime }
  | .event event, r => { r with runtime := eventReceived event r.runtime }

def wifiStarted (a : WifiStartAnswers) (config : WifiConfig) (now : Nat) : WifiRun :=
  { runtime := (wifiStart a config now .initial).2
    trace :=
      if a.failure ≠ .ok then [.failed]
      else applyTrace a.apply config now { WifiRuntime.initial with initialized := true } }

abbrev runWifi (a : WifiStartAnswers) (config : WifiConfig) (now : Nat) (labels : List WifiLabel) :
    WifiRun :=
  run wifiStep labels (wifiStarted a config now)

def WifiHappening.Resets : WifiHappening → Prop
  | .applied _ _ | .failed => True
  | .handled .disconnected _ | .handled .lostAddress _ | .handled .stopped _ => True
  | .handled _ _ => False

def WifiHappening.Proves (config : WifiConfig) : WifiHappening → Prop
  | .handled .gotAddress a => a.proves config = true
  | _ => False

/-- A ready station has proven its selection since anything that could have undone the proof. -/
def Proved (r : WifiRun) : Prop :=
  r.runtime.ready = true →
    Since (WifiHappening.Proves r.runtime.config) WifiHappening.Resets r.trace

theorem startSelected_ready (a : StartAnswers) (w : WifiRuntime) :
    (startSelected a w).2.ready = false := by
  rcases startSelected_cases a w with off | ⟨error, -, failed⟩ | on
  · rw [off]
    rfl
  · rw [failed]
    rfl
  · rw [on]
    rfl

-- Events are ignored only while nothing is ready.
def Live (w : WifiRuntime) : Prop :=
  w.ready = true → w.active = true ∧ w.stopping = false ∧ w.state ≠ .failed

theorem handleEvent_live (now : Nat) (event : WifiEvent) (a : EventAnswers) (w : WifiRuntime)
    (live : Live w) : Live (handleEvent now event a w) := by
  unfold handleEvent
  split
  next =>
    simp only
    split
    · exact nofun
    · intro ready
      rw [startSelected_ready] at ready
      cases ready
  split
  · exact live
  next awake =>
    simp only [Bool.or_eq_true, Bool.not_eq_true', beq_iff_eq, not_or, Bool.not_eq_false] at awake
    cases event with
    | lostAddress =>
      simp only
      split
      · exact nofun
      · exact nofun
    | gotAddress =>
      simp only
      split
      · exact fun _ => ⟨awake.1.1, by simpa using awake.1.2, by simp⟩
      · exact live
    | disconnected => exact nofun
    | _ => exact live

theorem handleEvent_ready (now : Nat) (event : WifiEvent) (a : EventAnswers) (w : WifiRuntime)
    (live : Live w) (ready : (handleEvent now event a w).ready = true) :
    (w.ready = true ∧ ¬(WifiHappening.handled event a).Resets) ∨
      (WifiHappening.handled event a).Proves w.config := by
  unfold handleEvent at ready
  split at ready
  next =>
    simp only at ready
    split at ready
    · cases ready
    · rw [startSelected_ready] at ready
      cases ready
  split at ready
  next asleep =>
    obtain ⟨active, still, fine⟩ := live ready
    simp [active, still, fine] at asleep
  next =>
    cases event with
    | lostAddress =>
      simp only at ready
      split at ready
      · cases ready
      · cases ready
    | gotAddress =>
      simp only at ready
      split at ready
      next proven =>
        simp only [Bool.and_eq_true] at proven
        exact .inr proven.2
      · exact .inl ⟨ready, nofun⟩
    | disconnected => cases ready
    | stopped => contradiction
    | _ => exact .inl ⟨ready, nofun⟩

theorem drainEvents_live (now : Nat) (answers : Nat → EventAnswers) (index : Nat)
    (events : List WifiEvent) (w : WifiRuntime) (live : Live w) :
    Live (drainEvents now answers index events w) := by
  induction events generalizing index w with
  | nil => exact live
  | cons event rest ih => exact ih (index + 1) _ (handleEvent_live now event (answers index) w live)

theorem drainEvents_proved (now : Nat) (answers : Nat → EventAnswers) (index : Nat)
    (events : List WifiEvent) (w : WifiRuntime) (trace : List WifiHappening) (idle : WifiIdle w)
    (live : Live w) (proved : Proved ⟨w, trace⟩) :
    Proved ⟨drainEvents now answers index events w, trace ++ drainTrace answers index events⟩ := by
  induction events generalizing index w trace with
  | nil => simpa [drainTrace, drainEvents] using proved
  | cons event rest ih =>
    obtain ⟨same, still⟩ := handleEvent_selection now event (answers index) w idle
    have one : Proved ⟨handleEvent now event (answers index) w,
        trace ++ [.handled event (answers index)]⟩ := by
      intro ready
      simp only [same]
      rcases handleEvent_ready now event (answers index) w live ready with ⟨before, quiet⟩ | proves
      · exact (proved before).kept (by simpa using quiet)
      · exact .happened proves
    have rest_proved := ih (index + 1) _ _ still (handleEvent_live now event (answers index) w live) one
    simpa [drainEvents, drainTrace] using rest_proved

theorem connectWhenDue_ready (now : Nat) (a : WifiPollAnswers) (w : WifiRuntime)
    (ready : (connectWhenDue now a w).ready = true) : w.ready = true := by
  unfold connectWhenDue at ready
  split at ready
  · simp only at ready
    split at ready
    · exact ready
    · cases ready
  · exact ready

theorem connectWhenDue_live (now : Nat) (a : WifiPollAnswers) (w : WifiRuntime) (live : Live w) :
    Live (connectWhenDue now a w) := by
  unfold connectWhenDue
  split
  · simp only
    split
    · exact fun ready => ⟨(live ready).1, (live ready).2.1, nofun⟩
    · exact nofun
  · exact live

inductive Polled (now : Nat) (a : WifiPollAnswers) (w : WifiRuntime) :
    WifiRuntime → List WifiHappening → Prop where
  | uninitialized (raw : w.initialized = false) : Polled now a w w []
  | overflowed (ready : w.initialized = true) (lost : w.overflow = true) :
      Polled now a w (wifiFailed { w with overflow := false }) [.failed]
  | expired (ready : w.initialized = true) (room : w.overflow = false)
      (late : stopExpired now (drained now a w) = true) :
      Polled now a w (wifiFailed { drained now a w with overflow := a.lost })
        (drainTrace a.events 0 (w.events ++ a.arrivals) ++ [.failed])
  | went (ready : w.initialized = true) (room : w.overflow = false)
      (early : stopExpired now (drained now a w) = false) :
      Polled now a w (connectWhenDue now a { drained now a w with overflow := a.lost })
        (drainTrace a.events 0 (w.events ++ a.arrivals))

theorem wifiPoll_eq (now : Nat) (a : WifiPollAnswers) (w : WifiRuntime) :
    wifiPoll now a w =
      if !w.initialized then w
      else if w.overflow then wifiFailed { w with overflow := false }
      else if stopExpired now (drained now a w) then
        wifiFailed { drained now a w with overflow := a.lost }
      else connectWhenDue now a { drained now a w with overflow := a.lost } := rfl

theorem wifiPoll_polled (now : Nat) (a : WifiPollAnswers) (w : WifiRuntime) :
    Polled now a w (wifiPoll now a w) (pollTrace now a w) := by
  rw [wifiPoll_eq, pollTrace]
  by_cases raw : (!w.initialized) = true
  · rw [if_pos raw, if_pos raw]
    exact .uninitialized (by simpa using raw)
  rw [if_neg raw, if_neg raw]
  have ready : w.initialized = true := by simpa using raw
  by_cases lost : w.overflow = true
  · rw [if_pos lost, if_pos lost]
    exact .overflowed ready lost
  rw [if_neg lost, if_neg lost]
  have room : w.overflow = false := by simpa using lost
  by_cases late : stopExpired now (drained now a w) = true
  · rw [if_pos late, if_pos late]
    exact .expired ready room late
  · rw [if_neg late, if_neg late, List.append_nil]
    exact .went ready room (by simpa using late)

theorem drained_proved (now : Nat) (a : WifiPollAnswers) (r : WifiRun) (idle : WifiIdle r.runtime)
    (live : Live r.runtime) (proved : Proved r) :
    WifiIdle (drained now a r.runtime) ∧ Live (drained now a r.runtime) ∧
      Proved ⟨drained now a r.runtime,
        r.trace ++ drainTrace a.events 0 (r.runtime.events ++ a.arrivals)⟩ :=
  ⟨(drainEvents_selection now a.events 0 _ { r.runtime with events := [] } idle).2,
    drainEvents_live now a.events 0 _ { r.runtime with events := [] } live,
    drainEvents_proved now a.events 0 _ { r.runtime with events := [] } r.trace idle live proved⟩

theorem wifiPoll_proved (now : Nat) (a : WifiPollAnswers) (r : WifiRun) (idle : WifiIdle r.runtime)
    (live : Live r.runtime) (proved : Proved r) :
    Live (wifiPoll now a r.runtime) ∧ Proved (wifiStep (.poll now a) r) := by
  obtain ⟨still, handled, since⟩ := drained_proved now a r idle live proved
  have polled := wifiPoll_polled now a r.runtime
  simp only [wifiStep]
  generalize wifiPoll now a r.runtime = after, pollTrace now a r.runtime = trace at polled ⊢
  cases polled with
  | uninitialized raw => exact ⟨live, by simpa using proved⟩
  | overflowed ready lost => exact ⟨nofun, nofun⟩
  | expired ready room late => exact ⟨nofun, nofun⟩
  | went ready room early =>
    refine ⟨connectWhenDue_live _ _ _ handled, fun ready => ?_⟩
    have before := connectWhenDue_ready _ _ _ ready
    obtain ⟨kept, -⟩ := connectWhenDue_selection now a
      { drained now a r.runtime with overflow := a.lost } still
    simp only [kept]
    exact since before

theorem wifiApply_ready (a : ApplyAnswers) (config : WifiConfig) (now : Nat) (w : WifiRuntime) :
    (wifiApply a config now w = ((wifiApply a config now w).1, w) ∧
        applyTrace a config now w = []) ∨
      (wifiApply a config now w).2.ready = false := by
  by_cases checked : (!w.initialized || !wifiConfigValid config) = true
  · left
    simp only [applyTrace, checked, if_true, and_true]
    unfold wifiApply
    simp only [Bool.or_eq_true] at checked
    rcases checked with raw | invalid
    · simp [raw]
    · simp only [invalid, if_true]
      split <;> rfl
  · right
    simp only [Bool.or_eq_true, not_or] at checked
    simp only [wifiApply, checked.1, checked.2, Bool.false_eq_true, if_false]
    split_ifs <;> first | exact startSelected_ready _ _ | rfl

theorem wifiApply_proved (a : ApplyAnswers) (config : WifiConfig) (now : Nat) (r : WifiRun)
    (live : Live r.runtime) (proved : Proved r) :
    Live (wifiApply a config now r.runtime).2 ∧ Proved (wifiStep (.apply a config now) r) := by
  rcases wifiApply_ready a config now r.runtime with ⟨same, silent⟩ | unready
  · simp only [wifiStep]
    rw [same, silent, List.append_nil]
    exact ⟨live, proved⟩
  · constructor
    · exact fun ready => by simp [unready] at ready
    · exact fun ready => by simp [wifiStep, unready] at ready

structure WifiSound (r : WifiRun) : Prop where
  idle : WifiIdle r.runtime
  live : Live r.runtime
  proved : Proved r

theorem wifiSound_kept (label : WifiLabel) (r : WifiRun) (sound : WifiSound r) :
    WifiSound (wifiStep label r) := by
  cases label with
  | apply a config now =>
    obtain ⟨live, proved⟩ := wifiApply_proved a config now r sound.live sound.proved
    exact ⟨(wifiApply_selection a config now r.runtime sound.idle).2, live, proved⟩
  | poll now a =>
    obtain ⟨live, proved⟩ := wifiPoll_proved now a r sound.idle sound.live sound.proved
    exact ⟨(wifiPoll_selection now a r.runtime sound.idle).2, live, proved⟩
  | event event =>
    have received : (eventReceived event r.runtime).ready = r.runtime.ready ∧
        (eventReceived event r.runtime).active = r.runtime.active ∧
        (eventReceived event r.runtime).stopping = r.runtime.stopping ∧
        (eventReceived event r.runtime).state = r.runtime.state := by
      unfold eventReceived
      split_ifs <;> exact ⟨rfl, rfl, rfl, rfl⟩
    obtain ⟨same, idle⟩ := eventReceived_selection event r.runtime sound.idle
    obtain ⟨ready, active, stopping, state⟩ := received
    refine ⟨idle, ?_, ?_⟩
    · simpa only [wifiStep, Live, ready, active, stopping, state] using sound.live
    · simpa only [wifiStep, Proved, ready, same] using sound.proved

theorem wifiSound_started (a : WifiStartAnswers) (config : WifiConfig) (now : Nat) :
    WifiSound (wifiStarted a config now) := by
  have initial : WifiSound ⟨{ WifiRuntime.initial with initialized := true }, []⟩ :=
    ⟨fun _ => ⟨rfl, rfl⟩, nofun, nofun⟩
  have applied := wifiSound_kept (.apply a.apply config now) _ initial
  unfold wifiStarted wifiStart
  simp only [WifiRuntime.initial, Bool.false_eq_true, if_false]
  split
  · exact ⟨nofun, nofun, nofun⟩
  · exact applied

theorem wifiSound_reached (a : WifiStartAnswers) (config : WifiConfig) (now : Nat)
    (labels : List WifiLabel) : WifiSound (runWifi a config now labels) :=
  run_invariant wifiSound_kept labels _ (wifiSound_started a config now)

theorem textOf_take (text : List UInt8) : text.take (textOf text).length = textOf text :=
  List.prefix_iff_eq_take.mp (List.takeWhile_prefix _) |>.symm

theorem matches_ssid (ap : ApRecord) (config : WifiConfig) (same : ap.matches config = true) :
    textOf (ap.ssid.toList.take 32) = textOf config.ssid.toList := by
  simp only [ApRecord.matches, Bool.and_eq_true, beq_iff_eq] at same
  obtain ⟨long, equal⟩ := same
  have short : (textOf (ap.ssid.toList.take 32)).length ≤ 32 :=
    (List.takeWhile_prefix _).length_le.trans (List.length_take_le _ _)
  rw [← equal, ← long, ← textOf_take (ap.ssid.toList.take 32), List.take_take]
  simp [short]

/-- In every run a ready station got an address since the latest selection and since anything that
undoes a proof, at an access point with exactly the selected SSID; an unconfigured one is off. -/
theorem ready_proven (a : WifiStartAnswers) (config : WifiConfig) (now : Nat)
    (labels : List WifiLabel) :
    let r := runWifi a config now labels
    (wifiReady r.runtime = true →
      ∃ before e after ap address, r.trace = before ++ .handled .gotAddress e :: after ∧
        (∀ later ∈ after, ¬later.Resets) ∧ e.apInfo = some ap ∧
        textOf (ap.ssid.toList.take 32) = textOf r.runtime.config.ssid.toList ∧
        ap.authmode ∈ [.wpa2Psk, .wpaWpa2Psk, .wpa3Psk, .wpa2Wpa3Psk] ∧ e.netifUp = true ∧
        e.address = some address ∧ address ≠ 0) ∧
      (r.runtime.state = .unconfigured →
        r.runtime.active = false ∧ r.runtime.stopping = false) := by
  have sound := wifiSound_reached a config now labels
  refine ⟨fun ready => ?_, sound.idle⟩
  simp only [wifiReady, Bool.and_eq_true] at ready
  obtain ⟨before, event, after, split, proves, quiet⟩ := sound.proved ready.1
  cases event with
  | handled event e =>
    cases event with
    | gotAddress =>
      simp only [WifiHappening.Proves, EventAnswers.proves] at proves
      cases found : e.apInfo with
      | none => simp [found] at proves
      | some ap =>
        cases bound : e.address with
        | none => simp [found, bound] at proves
        | some address =>
          simp only [found, bound, Bool.and_eq_true, bne_iff_ne] at proves
          obtain ⟨⟨⟨up, nonzero⟩, same⟩, personal⟩ := proves
          refine ⟨before, e, after, ap, address, split, quiet, found, matches_ssid ap _ same, ?_, up,
            bound, nonzero⟩
          cases mode : ap.authmode with
          | other code => simp [mode, AuthMode.personal] at personal
          | _ => simp
    | _ => cases proves
  | _ => cases proves

def sampleWifi : WifiConfig :=
  { configured := true
    ssid := Vector.ofFn (fun i => (bytesOf "base").getD i 0)
    password := Vector.ofFn (fun i => (bytesOf "0123456789").getD i 0) }

def sampleAddress : EventAnswers :=
  { apInfo := some { ssid := sampleWifi.ssid, authmode := .wpa2Psk }
    netifUp := true
    address := some 1 }

def connecting : List WifiLabel :=
  [.event .started, .event .associated, .event .gotAddress, .poll 500 { events := fun _ => sampleAddress }]

end EspBase

import EspBase.Wifi.Runtime

set_option autoImplicit false

namespace EspBase

def WifiIdle (w : WifiRuntime) : Prop :=
  w.state = .unconfigured → w.active = false ∧ w.stopping = false

theorem startSelected_cases (a : StartAnswers) (w : WifiRuntime) :
    startSelected a w = (.ok, { w.unproven with retryAt := 0, state := .unconfigured }) ∨
      (∃ error, error ≠ .ok ∧ startSelected a w = (error, wifiFailed { w.unproven with retryAt := 0 })) ∨
      startSelected a w = (.ok, { w.unproven with retryAt := 0, active := true, state := .connecting }) := by
  by_cases configured : w.config.configured = true
  · right
    by_cases fine : (if a.setConfig = .ok then a.start else a.setConfig) = .ok
    · right
      simp [startSelected, WifiRuntime.unproven, configured, fine]
    · left
      exact ⟨_, fine, by simp [startSelected, WifiRuntime.unproven, configured, fine]⟩
  · left
    simp [startSelected, WifiRuntime.unproven, configured]

theorem startSelected_config (a : StartAnswers) (w : WifiRuntime) :
    (startSelected a w).2.config = w.config := by
  rcases startSelected_cases a w with off | ⟨error, -, failed⟩ | on
  · rw [off]
    rfl
  · rw [failed]
    rfl
  · rw [on]
    rfl

theorem startSelected_idle (a : StartAnswers) (w : WifiRuntime) (inactive : w.active = false)
    (still : w.stopping = false) : WifiIdle (startSelected a w).2 := by
  rcases startSelected_cases a w with off | ⟨error, -, failed⟩ | on
  · rw [off]
    exact fun _ => ⟨inactive, still⟩
  · rw [failed]
    exact nofun
  · rw [on]
    exact nofun

theorem handleEvent_selection (now : Nat) (event : WifiEvent) (a : EventAnswers) (w : WifiRuntime)
    (idle : WifiIdle w) :
    (handleEvent now event a w).config = w.config ∧ WifiIdle (handleEvent now event a w) := by
  unfold handleEvent
  split
  next =>
    simp only
    split
    next failed => exact ⟨rfl, fun off => by simp_all⟩
    next => exact ⟨startSelected_config _ _, startSelected_idle _ _ rfl rfl⟩
  split
  · exact ⟨rfl, idle⟩
  cases event with
  | lostAddress =>
    simp only
    split
    · exact ⟨rfl, nofun⟩
    · exact ⟨rfl, idle⟩
  | gotAddress =>
    simp only
    split
    · exact ⟨rfl, nofun⟩
    · exact ⟨rfl, idle⟩
  | disconnected => exact ⟨rfl, nofun⟩
  | started => exact ⟨rfl, idle⟩
  | associated => exact ⟨rfl, idle⟩
  | stopped => exact ⟨rfl, idle⟩

theorem drainEvents_selection (now : Nat) (answers : Nat → EventAnswers) (index : Nat)
    (events : List WifiEvent) (w : WifiRuntime) (idle : WifiIdle w) :
    (drainEvents now answers index events w).config = w.config ∧
      WifiIdle (drainEvents now answers index events w) := by
  induction events generalizing index w with
  | nil => exact ⟨rfl, idle⟩
  | cons event rest ih =>
    obtain ⟨same, still⟩ := handleEvent_selection now event (answers index) w idle
    obtain ⟨kept, after⟩ := ih (index + 1) _ still
    exact ⟨kept.trans same, after⟩

theorem connectWhenDue_selection (now : Nat) (a : WifiPollAnswers) (w : WifiRuntime)
    (idle : WifiIdle w) :
    (connectWhenDue now a w).config = w.config ∧ WifiIdle (connectWhenDue now a w) := by
  unfold connectWhenDue
  split
  · simp only
    split
    · exact ⟨rfl, nofun⟩
    · exact ⟨rfl, nofun⟩
  · exact ⟨rfl, idle⟩

theorem wifiPoll_selection (now : Nat) (a : WifiPollAnswers) (w : WifiRuntime) (idle : WifiIdle w) :
    (wifiPoll now a w).config = w.config ∧ WifiIdle (wifiPoll now a w) := by
  unfold wifiPoll
  split
  · exact ⟨rfl, idle⟩
  split
  · exact ⟨rfl, nofun⟩
  obtain ⟨same, still⟩ := drainEvents_selection now a.events 0 (w.events ++ a.arrivals)
    { w with events := [] } idle
  simp only
  split
  · exact ⟨same, nofun⟩
  · obtain ⟨kept, after⟩ := connectWhenDue_selection now a
      { drainEvents now a.events 0 (w.events ++ a.arrivals) { w with events := [] } with
        overflow := a.lost } still
    exact ⟨kept.trans same, after⟩

theorem eventReceived_selection (event : WifiEvent) (w : WifiRuntime) (idle : WifiIdle w) :
    (eventReceived event w).config = w.config ∧ WifiIdle (eventReceived event w) := by
  unfold eventReceived
  split
  · exact ⟨rfl, idle⟩
  split
  · exact ⟨rfl, idle⟩
  · exact ⟨rfl, idle⟩

theorem wifiApply_selection (a : ApplyAnswers) (config : WifiConfig) (now : Nat) (w : WifiRuntime)
    (idle : WifiIdle w) :
    ((wifiApply a config now w).1 = .ok → (wifiApply a config now w).2.config = config) ∧
      WifiIdle (wifiApply a config now w).2 := by
  unfold wifiApply
  split
  · exact ⟨nofun, idle⟩
  split
  · exact ⟨nofun, idle⟩
  simp only
  split
  · exact ⟨fun _ => rfl, idle⟩
  next still =>
    split
    next inactive =>
      simp only [Bool.not_eq_true'] at inactive
      exact ⟨fun _ => startSelected_config _ _,
        startSelected_idle _ _ inactive (Bool.not_eq_true _ ▸ still)⟩
    next =>
      split
      · exact ⟨fun _ => startSelected_config _ _, startSelected_idle _ _ rfl rfl⟩
      split
      · exact ⟨fun _ => rfl, nofun⟩
      · exact ⟨fun _ => rfl, nofun⟩

theorem wifiStart_selection (a : WifiStartAnswers) (config : WifiConfig) (now : Nat) (w : WifiRuntime)
    (idle : WifiIdle w) :
    ((wifiStart a config now w).1 = .ok → (wifiStart a config now w).2.config = config) ∧
      WifiIdle (wifiStart a config now w).2 := by
  unfold wifiStart
  split
  · exact ⟨nofun, idle⟩
  split
  next failed => exact ⟨fun fine => absurd fine failed, nofun⟩
  next => exact wifiApply_selection _ _ _ _ idle

end EspBase

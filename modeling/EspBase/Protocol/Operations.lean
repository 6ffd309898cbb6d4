import EspBase.Protocol.ResultRuns

set_option autoImplicit false

namespace EspBase

open DurableCell Transition

variable {build : Build} {unsaved : Option Nat} {s : Control}

def EotaBuild.Names (build : EotaBuild) : Prop := ∀ result, Identifier (build.error result)

theorem pollConfiguration_speaks (now : Nat) (a : ConfigurationAnswers) (sized : a.snapshot.Sized)
    (speaks : Speaks none s) : Speaks none (pollConfiguration build now a s) := by
  unfold pollConfiguration
  split
  · exact speaks
  split
  · exact commitTrial_speaks now a sized speaks
  split
  · refine saveOutcome_speaks _ _ _ _ ?_ (agrees_error _ _ failed_state (by decide)) (by simp)
    exact speaks.same rfl
  · exact speaks

theorem cleared_speaks (slot : Nat) (state : ResultState) (error : Option String) (speaks : Speaks none s)
    (agrees : Agrees state error) :
    Speaks none { saveOutcome slot state error none s with otaRequest := .zero } :=
  (saveOutcome_speaks slot state error none speaks agrees (by simp)).same rfl

theorem finishOta_speaks (names : build.eota.Names) (result : EotaResult) (speaks : Speaks none s) :
    Speaks none (finishOta build result s) := by
  have agrees : Agrees (if result = eotaUpdateBootStateUnknown then .unknown else .failed)
      (some (build.eota.error result)) := by
    split
    · exact agrees_error _ _ unknown_state (names result)
    · exact agrees_error _ _ failed_state (names result)
  have idle : Speaks none { s with
      controlState := { s.controlState with otaDownloadActive := false }
      otaActive := false
      otaReceived := 0 } := speaks.received_now 0 (by decide)
  exact cleared_speaks s.otaSlot _ _ idle agrees

theorem pollOta_speaks (names : build.eota.Names) (a : FailureAnswers) (speaks : Speaks none s) :
    Speaks none (pollOta build a s) := by
  have uncertain : Agrees .unknown (some "storage_uncertain") := agrees_error _ _ unknown_state storage_uncertain
  unfold pollOta
  split
  · exact speaks
  split
  · have saved := saveOutcome_speaks s.otaSlot .running none none speaks agrees_running (by simp)
    exact (saved.noted .slotSelected rfl).same rfl
  split
  · exact finishOta_speaks names _ (speaks.same rfl)
  dsimp only
  split
  · have idle : Speaks none { s with
        receiptStore := (otaReceiptRecordFailure build.eota a s.deviceId s.otaRequest.operationId s.otaResult
          s.receiptStore).2
        configUncertain := true
        controlState := { s.controlState with otaDownloadActive := false }
        otaActive := false
        otaReceived := 0 } := speaks.received_now 0 (by decide)
    exact cleared_speaks s.otaSlot _ _ idle uncertain
  split
  · exact cleared_speaks s.otaSlot _ _ (speaks.same rfl) uncertain
  · exact finishOta_speaks names _ (speaks.same rfl)

def Begun (command : Command) (slot : Nat) (s t : Control) : Prop :=
  match command.kind with
  | .configSet => t.trialActive = true ∧ t.trialSlot = slot ∧ t.candidate = command.config
  | .otaStart =>
    t.otaActive = true ∧ t.otaSlot = slot ∧ t.otaRequest = command.ota ∧ t.workers = s.workers ++ [command.ota]
  | _ => t.restarted = true

structure Unbegun (s t : Control) : Prop where
  trial : t.trialActive = s.trialActive
  ota : t.otaActive = s.otaActive
  workers : t.workers = s.workers
  restarted : t.restarted = s.restarted
  config : t.config = s.config
  stored : t.configStore = s.configStore

/-- A command is running once it has begun; one that has not is reported failed or unknown. -/
inductive Taken (command : Command) (slot : Nat) (s t : Control) : ResultState → Prop where
  | begun (begun : Begun command slot s t) : Taken command slot s t .running
  | failed (unbegun : Unbegun s t) : Taken command slot s t .failed
  | unknown (unbegun : Unbegun s t) : Taken command slot s t .unknown

/-- The answer repeats the outcome that the slot now holds, and tells how the command was taken. -/
structure Decided (command : Command) (slot : Nat) (s t : Control) (answer : Answer) : Prop where
  conveys : answer.Conveys (t.outcomes slot)
  taken : Taken command slot s t answer.state

theorem decides {command : Command} {slot : Nat} {t : Control} {state : ResultState} {error : Option String}
    (saved : ∃ viaMqtt, t.outcomes slot = savedOutcome viaMqtt state error none)
    (taken : Taken command slot s t state) (answer : Answer) (said : answer.Says state error .null) :
    Decided command slot s t answer := by
  obtain ⟨rfl, rfl, result⟩ := said
  obtain ⟨viaMqtt, saved⟩ := saved
  refine ⟨?_, taken⟩
  rw [saved]
  exact ⟨rfl, rfl, result⟩

theorem saveOutcome_outcome (slot : Nat) (state : ResultState) (error : Option String)
    (status : Option StatusSnapshot) (m : Control) :
    ∃ viaMqtt, (saveOutcome slot state error status m).outcomes slot = savedOutcome viaMqtt state error status := by
  rw [saveOutcome_eq]
  exact ⟨_, Function.update_self _ _ _⟩

-- Of what decides an answer only the log has grown.
structure Kept (s m : Control) : Prop where
  outcomes : m.outcomes = s.outcomes
  guard : m.guard = s.guard
  device : m.deviceId = s.deviceId
  boot : m.bootId = s.bootId
  log : s.log <+: m.log

theorem Kept.noted (event : Event) : Kept s { s with log := s.log ++ [event] } :=
  ⟨rfl, rfl, rfl, rfl, List.prefix_append _ _⟩

theorem decided_replies (slot : Nat) (state : ResultState) (error : Option String) (m : Control)
    (speaks : Speaks (some slot) m) (agrees : Agrees state error) (kept : Kept s m) :
    Replies (s.outcomes slot).viaMqtt (slotRequestId s.guard slot) (fun answer => answer.Says state error .null) s
      (saveOutcome slot state error none m) := by
  have only (other : Nat) (same : some slot = some other) : other = slot := (Option.some.inj same).symm
  have saved := saveOutcome_replies slot state error none speaks only agrees (by simp)
  rw [kept.outcomes, kept.guard] at saved
  exact saved.after kept.log kept.device kept.boot

theorem Unbegun.saved {m : Control} (unbegun : Unbegun s m) (slot : Nat) (state : ResultState)
    (error : Option String) (status : Option StatusSnapshot) : Unbegun s (saveOutcome slot state error status m) := by
  rw [saveOutcome_eq]
  exact ⟨unbegun.trial, unbegun.ota, unbegun.workers, unbegun.restarted, unbegun.config, unbegun.stored⟩

theorem failed_replies (command : Command) (slot : Nat) (error : String) (m : Control)
    (speaks : Speaks (some slot) m) (identifier : Identifier error) (kept : Kept s m) (unbegun : Unbegun s m) :
    Replies (s.outcomes slot).viaMqtt (slotRequestId s.guard slot)
      (Decided command slot s (saveOutcome slot .failed (some error) none m)) s
      (saveOutcome slot .failed (some error) none m) :=
  (decided_replies slot _ _ m speaks (agrees_error _ _ failed_state identifier) kept).weaken
    (decides (saveOutcome_outcome _ _ _ _ _) (.failed (unbegun.saved slot _ _ _)))

theorem uncertain_replies (command : Command) (slot : Nat) (m : Control) (speaks : Speaks (some slot) m)
    (kept : Kept s m) (unbegun : Unbegun s m) :
    Replies (s.outcomes slot).viaMqtt (slotRequestId s.guard slot)
      (Decided command slot s (saveOutcome slot .unknown (some "storage_uncertain") none m)) s
      (saveOutcome slot .unknown (some "storage_uncertain") none m) :=
  (decided_replies slot _ _ m speaks (agrees_error _ _ unknown_state storage_uncertain) kept).weaken
    (decides (saveOutcome_outcome _ _ _ _ _) (.unknown (unbegun.saved slot _ _ _)))

theorem startWorker_replies (a : LineAnswers) (command : Command) (kind : command.kind = .otaStart) (slot : Nat)
    (m : Control) (speaks : Speaks (some slot) m) (kept : Kept s m) (unbegun : Unbegun s m)
    (idle : s.otaActive = false) :
    Replies (s.outcomes slot).viaMqtt (slotRequestId s.guard slot)
      (Decided command slot s (startWorker build a command.ota slot m)) s
      (startWorker build a command.ota slot m) := by
  have received : Speaks (some slot) { m with otaReceived := 0 } := speaks.received_now 0 (by decide)
  have same : Kept s { m with otaReceived := 0 } := ⟨kept.outcomes, kept.guard, kept.device, kept.boot, kept.log⟩
  have left : Unbegun s { m with otaActive := false } :=
    ⟨unbegun.trial, idle.symm, unbegun.workers, unbegun.restarted, unbegun.config, unbegun.stored⟩
  unfold startWorker
  dsimp only
  split
  · split
    · split
      · refine failed_replies command slot _ _ ?_ (by decide) ?_ ?_
        · exact received.same rfl
        · exact ⟨same.outcomes, same.guard, same.device, same.boot, same.log⟩
        · exact ⟨left.trial, left.ota, left.workers, left.restarted, left.config, left.stored⟩
      · refine uncertain_replies command slot _ ?_ ?_ ?_
        · exact received.same rfl
        · exact ⟨same.outcomes, same.guard, same.device, same.boot, same.log⟩
        · exact ⟨left.trial, left.ota, left.workers, left.restarted, left.config, left.stored⟩
    · refine uncertain_replies command slot _ ?_ ?_ ?_
      · exact received.same rfl
      · exact ⟨same.outcomes, same.guard, same.device, same.boot, same.log⟩
      · exact ⟨left.trial, left.ota, left.workers, left.restarted, left.config, left.stored⟩
  · refine (decided_replies slot .running none _ ?_ agrees_running ?_).weaken (decides ?_ (.begun ?_))
    · exact (received.noted (.workerCreated slot command.ota) rfl).same rfl
    · exact ⟨same.outcomes, same.guard, same.device, same.boot, same.log.trans (List.prefix_append _ _)⟩
    · exact saveOutcome_outcome slot .running none none _
    · rw [saveOutcome_eq, Begun, kind, ← unbegun.workers]
      exact ⟨rfl, rfl, rfl, rfl⟩

theorem startOta_replies (a : LineAnswers) (command : Command) (kind : command.kind = .otaStart) (slot : Nat)
    (speaks : Speaks (some slot) s) (idle : s.otaActive = false) :
    Replies (s.outcomes slot).viaMqtt (slotRequestId s.guard slot)
      (Decided command slot s (startOta build a command.ota slot s)) s (startOta build a command.ota slot s) := by
  have same : Kept s s := ⟨rfl, rfl, rfl, rfl, List.prefix_rfl⟩
  have still : Unbegun s s := ⟨rfl, rfl, rfl, rfl, rfl, rfl⟩
  unfold startOta
  dsimp only
  split
  · refine failed_replies command slot _ _ ?_ (by decide) ?_ ?_
    · exact speaks.same rfl
    · exact ⟨rfl, rfl, rfl, rfl, same.log⟩
    · exact ⟨rfl, rfl, rfl, rfl, rfl, rfl⟩
  have registering := speaks.noted (.registering slot command.ota
    (otaReceiptRegister build.eota a.register s.deviceId command.ota s.receiptStore).1) rfl
  have noted := Kept.noted (s := s) (.registering slot command.ota
    (otaReceiptRegister build.eota a.register s.deviceId command.ota s.receiptStore).1)
  split
  · split
    · refine uncertain_replies command slot _ ?_ ?_ ?_
      · exact registering.same rfl
      · exact ⟨rfl, rfl, rfl, rfl, noted.log⟩
      · exact ⟨rfl, rfl, rfl, rfl, rfl, rfl⟩
    split
    · refine uncertain_replies command slot _ ?_ ?_ ?_
      · exact registering.same rfl
      · exact ⟨rfl, rfl, rfl, rfl, noted.log⟩
      · exact ⟨rfl, rfl, rfl, rfl, rfl, rfl⟩
    · refine failed_replies command slot _ _ ?_ (otaReceiptError_identifier _) ?_ ?_
      · exact registering.same rfl
      · exact ⟨rfl, rfl, rfl, rfl, noted.log⟩
      · exact ⟨rfl, rfl, rfl, rfl, rfl, rfl⟩
  · refine startWorker_replies a command kind slot _ ?_ ?_ ?_ idle
    · exact registering.same rfl
    · exact ⟨rfl, rfl, rfl, rfl, noted.log⟩
    · exact ⟨rfl, rfl, rfl, rfl, rfl, rfl⟩

theorem startTrial_replies (a : LineAnswers) (command : Command) (kind : command.kind = .configSet) (slot : Nat)
    (speaks : Speaks (some slot) s) :
    Replies (s.outcomes slot).viaMqtt (slotRequestId s.guard slot)
      (Decided command slot s (startTrial a command.config slot s)) s (startTrial a command.config slot s) := by
  obtain ⟨m, tried⟩ : ∃ m, m =
      { s with candidate := command.config
               trialSlot := slot
               trialDeadline := a.deadlineNow + 20000
               log := s.log ++ [Event.trialStarted slot command.config a.deadlineNow s.configStore] } := ⟨_, rfl⟩
  have trying : Speaks (some slot) m := by
    rw [tried]
    exact (speaks.noted (Event.trialStarted slot command.config a.deadlineNow s.configStore) rfl).same rfl
  have kept : Kept s m := by
    rw [tried]
    exact ⟨rfl, rfl, rfl, rfl, List.prefix_append _ _⟩
  have unbegun : Unbegun s m := by
    rw [tried]
    exact ⟨rfl, rfl, rfl, rfl, rfl, rfl⟩
  have started := decided_replies slot .running none m trying agrees_running kept
  have held := unbegun.saved slot .running none none
  have chosen : (saveOutcome slot .running none none m).candidate = command.config := by
    rw [saveOutcome_eq, tried]
  have where_ : (saveOutcome slot .running none none m).trialSlot = slot := by
    rw [saveOutcome_eq, tried]
  have via : ((saveOutcome slot .running none none m).outcomes slot).viaMqtt = (s.outcomes slot).viaMqtt := by
    rw [saveOutcome_eq, ← kept.outcomes]
    simp [savedOutcome]
  have answered : (saveOutcome slot .running none none m).guard = s.guard ∧
      (saveOutcome slot .running none none m).deviceId = s.deviceId ∧
      (saveOutcome slot .running none none m).bootId = s.bootId := by
    rw [saveOutcome_eq]
    exact ⟨kept.guard, kept.device, kept.boot⟩
  have outcome := saveOutcome_outcome slot .running none none m
  have grown : s.log <+: (saveOutcome slot .running none none m).log := by
    rw [saveOutcome_eq]
    exact kept.log.trans (List.prefix_append _ _)
  have named : slotRequestId (saveOutcome slot .running none none m).guard slot = slotRequestId s.guard slot := by
    rw [answered.1]
  unfold startTrial
  dsimp only
  rw [← tried]
  generalize saveOutcome slot .running none none m = t at started held chosen where_ via answered named outcome grown
  split
  · have ended : Replies (t.outcomes slot).viaMqtt (slotRequestId t.guard slot)
        (fun answer => answer.Says .failed (some "connection_proof_failed") .null) _ _ :=
      saveOutcome_replies slot .failed (some "connection_proof_failed") none
        (s := restoreCommitted a.restore a.restoreNow
          { t with wifi := (wifiApply a.apply t.candidate.wifi a.applyNow t.wifi).2, candidate := .zero })
        (started.speaks.same rfl) (by simp) (agrees_error _ _ failed_state (by decide)) (by simp)
    rw [← via, ← named]
    refine Replies.weaken (ended.after grown answered.2.1 answered.2.2) (decides ?_ (.failed ?_))
    · exact saveOutcome_outcome slot .failed _ none _
    · refine Unbegun.saved ?_ slot _ _ _
      exact ⟨held.trial, held.ota, held.workers, held.restarted, held.config, held.stored⟩
  · refine Replies.weaken (started.before [] ?_ (by simp) (started.speaks.same ?_)) (decides ?_ (.begun ?_))
    · exact (List.append_nil _).symm
    · rfl
    · exact outcome
    · rw [Begun, kind]
      exact ⟨rfl, where_, chosen⟩

theorem execute_replies (a : LineAnswers) (command : Command) (slot : Nat) (speaks : Speaks (some slot) s) :
    Replies (s.outcomes slot).viaMqtt (slotRequestId s.guard slot)
      (Decided command slot s (execute build a command slot s)) s (execute build a command slot s) := by
  have refuse (error : String) (identifier : Identifier error) :
      Replies (s.outcomes slot).viaMqtt (slotRequestId s.guard slot)
        (Decided command slot s (saveOutcome slot .failed (some error) none s)) s
        (saveOutcome slot .failed (some error) none s) :=
    failed_replies command slot error s speaks identifier ⟨rfl, rfl, rfl, rfl, List.prefix_rfl⟩
      ⟨rfl, rfl, rfl, rfl, rfl, rfl⟩
  unfold execute
  split
  next kind =>
    split
    · exact refuse _ (by decide)
    split
    next error reported => exact refuse error (configWriteError_reported _ _ reported)
    split
    next error reported => exact refuse error (writeError_reported _ _ reported)
    split
    next error reported => exact refuse error (configSetError_reported _ _ _ reported)
    · exact startTrial_replies a command kind slot speaks
  next kind =>
    split
    next error reported => exact refuse error (otaStartError_reported _ _ _ reported)
    next fine =>
      have idle : s.otaActive = false := by
        unfold otaStartError at fine
        split_ifs at fine with unavailable pending active
        simpa using active
      exact startOta_replies a command kind slot speaks idle
  next unset unstarted =>
    dsimp only
    split
    next error reported => exact refuse error (writeError_reported _ _ reported)
    · have running := decided_replies slot .running none s speaks agrees_running
        ⟨rfl, rfl, rfl, rfl, List.prefix_rfl⟩
      refine (running.before [.restarting slot] rfl (by simp [Event.spoken]) ?_).weaken (decides ?_ (.begun ?_))
      · exact (running.speaks.noted (.restarting slot) rfl).same rfl
      · exact saveOutcome_outcome slot .running none none s
      · unfold Begun
        split
        next kind => exact absurd kind unset
        next kind => exact absurd kind unstarted
        · rfl

end EspBase

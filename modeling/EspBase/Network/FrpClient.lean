import EspBase.Network.FrpOwner
import EspBase.Protocol.Reply
import EspBase.Shared.Run
import Mathlib.Algebra.Ring.Int.Defs

set_option autoImplicit false

/-!
# One FRP client at a time

A run is any sequence of `configure` and `poll` calls; the log keeps the calls that
the owner makes of the library and every write to what a live client points into.
-/

namespace EspBase

open Transition

-- The arguments of one poll, and the time gate that it reads itself.
structure FrpGates where
  now : Nat
  networkReady : Bool
  trustedTimeReady : Bool
  endpointReady : Bool
  timeReady : Bool
deriving DecidableEq

def FrpGates.allTrue (g : FrpGates) : Bool :=
  g.networkReady && g.trustedTimeReady && g.timeReady && g.endpointReady

inductive FrpAction where
  | polled (gates : FrpGates)
  | destroyed (result : EfrpResult)
  | created (owner : FrpOwner) (gates : FrpGates) (result : EfrpResult)
  | started (result : EfrpResult)
  | rewritten (config : FrpConfig) (deviceId : CString)

-- `efrp_destroy` is called only on a handle.
def releaseActions (result : EfrpResult) (o : FrpOwner) : List FrpAction :=
  if o.client then [.destroyed result] else []

def configureActions (destroyed : EfrpResult) (config : FrpConfig) (deviceId : CString)
    (o : FrpOwner) : List FrpAction :=
  if deviceId.bytes.length ≠ 36 then []
  else
    releaseActions destroyed o ++
      if (releaseClient destroyed { o with reconfiguring := true }).1 then [.rewritten config deviceId]
      else []

def startActions (a : FrpOwnerAnswers) (gates : FrpGates) (o : FrpOwner) : List FrpAction :=
  .created o gates a.created ::
    if a.created ≠ .ok then []
    else .started a.started :: if a.started = .ok then [] else [.destroyed a.destroyedAfter]

def gatedOwner (gates : FrpGates) (o : FrpOwner) : FrpOwner :=
  { o with
    networkReady := gates.networkReady && gates.trustedTimeReady && gates.timeReady
    endpointReady := gates.endpointReady }

def gatedActions (a : FrpOwnerAnswers) (gates : FrpGates) (o : FrpOwner) : List FrpAction :=
  if o.reconfiguring || !o.config.configured || !o.networkReady || !o.endpointReady then
    releaseActions a.destroyed o
  else if !o.draining then
    if o.client || gates.now < o.retryAtMs then [] else startActions a gates o
  else
    match releaseClient a.destroyed o with
    | (false, _) => releaseActions a.destroyed o
    | (true, released) =>
      releaseActions a.destroyed o ++
        if released.client || gates.now < released.retryAtMs then [] else startActions a gates released

def pollActions (a : FrpOwnerAnswers) (gates : FrpGates) (o : FrpOwner) : List FrpAction :=
  gatedActions a gates (gatedOwner gates o)

structure FrpRun where
  owner : FrpOwner
  log : List FrpAction

def FrpRun.initial : FrpRun := { owner := .initial, log := [] }

inductive FrpLabel where
  | configure (destroyed : EfrpResult) (config : FrpConfig) (deviceId : CString)
  | poll (a : FrpOwnerAnswers) (now : Nat) (networkReady trustedTimeReady endpointReady : Bool)

def frpStep (label : FrpLabel) (r : FrpRun) : FrpRun :=
  match label with
  | .configure destroyed config deviceId =>
    { owner := (frpOwnerConfigure destroyed config deviceId r.owner).2
      log := r.log ++ configureActions destroyed config deviceId r.owner }
  | .poll a now networkReady trustedTimeReady endpointReady =>
    let gates := ⟨now, networkReady, trustedTimeReady, endpointReady, a.timeReady⟩
    { owner := frpOwnerPoll a now networkReady trustedTimeReady endpointReady r.owner
      log := r.log ++ .polled gates :: pollActions a gates r.owner }

abbrev runFrp (labels : List FrpLabel) : FrpRun := run frpStep labels .initial

inductive EfrpPhase where
  | ready
  | backoff
  | failed
  | draining
  | stopped
  | other
deriving DecidableEq, Repr

def frpOwnerSnapshot (status : Option EfrpPhase) (o : FrpOwner) : FrpState :=
  if !o.config.configured then .unconfigured
  else if !o.endpointReady then .endpointUnavailable
  else if !o.networkReady then .networkUnavailable
  else if o.draining || o.reconfiguring then .stopping
  else if o.client then
    match status with
    | some .ready => .ready
    | some .backoff => .backoff
    | some .failed => .failed
    | some .draining => .stopping
    | some .stopped => .stopping
    | some .other => .connecting
    | none => .unknown
  else if o.error ≠ .ok then .failed else .connecting

def FrpAction.handles : FrpAction → Int
  | .created _ _ .ok => 1
  | .destroyed .ok => -1
  | _ => 0

def outstanding (log : List FrpAction) : Int := (log.map FrpAction.handles).sum

def FrpAction.gates : FrpAction → Option FrpGates
  | .polled gates => some gates
  | _ => none

def lastGates (log : List FrpAction) : Option FrpGates := (log.filterMap FrpAction.gates).getLast?

def FrpAction.written : FrpAction → Option (FrpConfig × CString)
  | .rewritten config deviceId => some (config, deviceId)
  | _ => none

def lastWritten (log : List FrpAction) : FrpConfig × CString :=
  ((log.filterMap FrpAction.written).getLast?).getD (.zero, .empty)

def FrpAction.Sound (log : List FrpAction) : FrpAction → Prop
  | .created owner gates _ => outstanding log = 0 ∧ owner.config.configured = true ∧
      owner.reconfiguring = false ∧ gates.allTrue = true ∧ owner.retryAtMs ≤ gates.now ∧
      (owner.config, owner.deviceId) = lastWritten log
  | .rewritten _ _ => outstanding log = 0
  | .destroyed _ => outstanding log = 1
  | _ => True

def FrpLogSound (log : List FrpAction) : Prop :=
  ∀ earlier action later, log = earlier ++ action :: later → action.Sound earlier

theorem outstanding_append (log actions : List FrpAction) :
    outstanding (log ++ actions) = outstanding log + outstanding actions := by
  simp [outstanding]

theorem FrpLogSound.snoc {log : List FrpAction} {action : FrpAction} (sound : FrpLogSound log)
    (here : action.Sound log) : FrpLogSound (log ++ [action]) := by
  intro earlier middle later split
  rcases List.append_eq_append_iff.mp split with ⟨between, rfl, rest⟩ | ⟨between, same, rest⟩
  · cases between with
    | nil =>
      simp only [List.nil_append, List.cons.injEq] at rest
      simpa [rest.1] using here
    | cons head tail => simp at rest
  · cases between with
    | nil =>
      simp only [List.nil_append, List.cons.injEq] at rest
      simpa [same, rest.1] using here
    | cons head tail =>
      simp only [List.cons_append, List.cons.injEq] at rest
      obtain ⟨rfl, -⟩ := rest
      exact sound earlier middle tail same

theorem outstanding_prefix (log : List FrpAction) (sound : FrpLogSound log) :
    0 ≤ outstanding log ∧ outstanding log ≤ 1 := by
  induction log using List.reverseRecOn with
  | nil => simp [outstanding]
  | append_singleton log action ih =>
    have before := ih (fun earlier middle later split =>
      sound earlier middle (later ++ [action]) (by rw [split]; simp))
    have here := sound log action [] rfl
    rw [outstanding_append]
    cases action with
    | created owner gates result =>
      cases result <;> simp_all [outstanding, FrpAction.handles, FrpAction.Sound]
    | destroyed result =>
      cases result <;> simp_all [outstanding, FrpAction.handles, FrpAction.Sound]
    | _ => simpa [outstanding, FrpAction.handles] using before

structure Tracked (o : FrpOwner) (log : List FrpAction) : Prop where
  sound : FrpLogSound log
  count : outstanding log = if o.client then 1 else 0
  written : (o.config, o.deviceId) = lastWritten log

theorem lastWritten_append (log actions : List FrpAction)
    (none : actions.filterMap FrpAction.written = []) : lastWritten (log ++ actions) = lastWritten log := by
  simp [lastWritten, none]

theorem Tracked.of_same {o other : FrpOwner} {log : List FrpAction} (tracked : Tracked o log)
    (client : other.client = o.client) (config : other.config = o.config)
    (deviceId : other.deviceId = o.deviceId) : Tracked other log :=
  ⟨tracked.sound, by rw [client]; exact tracked.count, by rw [config, deviceId]; exact tracked.written⟩

theorem releaseClient_kept (destroyed : EfrpResult) (o : FrpOwner) :
    let released := releaseClient destroyed o
    released.2.config = o.config ∧ released.2.deviceId = o.deviceId ∧
      released.2.retryAtMs = o.retryAtMs ∧ released.2.reconfiguring = o.reconfiguring ∧
      released.2.networkReady = o.networkReady ∧ released.2.endpointReady = o.endpointReady ∧
      (released.1 = true → released.2.client = false) := by
  cases held : o.client with
  | false => simp [releaseClient, held]
  | true => cases destroyed <;> simp [releaseClient, held]

theorem Tracked.act {o other : FrpOwner} {log : List FrpAction} {action : FrpAction}
    (tracked : Tracked o log) (sound : action.Sound log) (plain : action.written = none)
    (config : other.config = o.config) (deviceId : other.deviceId = o.deviceId)
    (count : (if other.client then 1 else 0 : Int) = (if o.client then 1 else 0) + action.handles) :
    Tracked other (log ++ [action]) := by
  refine ⟨tracked.sound.snoc sound, ?_, ?_⟩
  · rw [outstanding_append, tracked.count, count]
    simp [outstanding]
  · rw [lastWritten_append _ _ (by simp [plain]), config, deviceId]
    exact tracked.written

theorem release_tracked (destroyed : EfrpResult) (o : FrpOwner) (log : List FrpAction)
    (tracked : Tracked o log) :
    Tracked (releaseClient destroyed o).2 (log ++ releaseActions destroyed o) := by
  have kept := releaseClient_kept destroyed o
  cases held : o.client with
  | false =>
    have idle : Tracked { o with draining := false } log := tracked.of_same rfl rfl rfl
    simpa [releaseActions, releaseClient, held] using idle
  | true =>
    have one : outstanding log = 1 := by simpa [held] using tracked.count
    simp only [releaseActions, held, if_true]
    refine tracked.act one rfl kept.1 kept.2.1 ?_
    cases destroyed <;> simp [releaseClient, held, FrpAction.handles]

theorem start_tracked (a : FrpOwnerAnswers) (gates : FrpGates) (o : FrpOwner) (log : List FrpAction)
    (tracked : Tracked o log) (free : o.client = false)
    (allowed : (FrpAction.created o gates a.created).Sound log) :
    Tracked (startClient a gates.now o) (log ++ startActions a gates o) := by
  by_cases created : a.created = .ok
  · have live : Tracked { o with client := true } (log ++ [.created o gates a.created]) :=
      tracked.act allowed rfl rfl rfl (by simp [free, created, FrpAction.handles])
    have begun : Tracked { o with client := true }
        (log ++ [.created o gates a.created] ++ [.started a.started]) :=
      live.act trivial rfl rfl rfl (by simp [FrpAction.handles])
    by_cases started : a.started = .ok
    · have owner : startClient a gates.now o = { o with client := true } := by
        simp [startClient, created, started]
      have actions : startActions a gates o = [.created o gates a.created, .started a.started] := by
        simp [startActions, created, started]
      rw [owner, actions]
      simpa using begun
    · have owner : startClient a gates.now o = (releaseClient a.destroyedAfter
          { o with client := true, error := a.started, retryAtMs := gates.now + frpRetryMs }).2 := by
        simp [startClient, created, started]
      have actions : startActions a gates o =
          [.created o gates a.created, .started a.started, .destroyed a.destroyedAfter] := by
        simp [startActions, created, started]
      have ended := release_tracked a.destroyedAfter
        { o with client := true, error := a.started, retryAtMs := gates.now + frpRetryMs } _
        (begun.of_same rfl rfl rfl)
      rw [owner, actions]
      simpa [releaseActions] using ended
  · have owner : startClient a gates.now o =
        { o with error := a.created, retryAtMs := gates.now + frpRetryMs, draining := false } := by
      simp [startClient, created, releaseClient, free]
    have actions : startActions a gates o = [.created o gates a.created] := by
      simp [startActions, created]
    have failed : (FrpAction.created o gates a.created).handles = 0 := by
      cases answer : a.created <;> simp_all [FrpAction.handles]
    rw [owner, actions]
    exact tracked.act allowed rfl rfl rfl (by simp [free, failed])

theorem configure_tracked (destroyed : EfrpResult) (config : FrpConfig) (deviceId : CString)
    (o : FrpOwner) (log : List FrpAction) (tracked : Tracked o log) :
    Tracked (frpOwnerConfigure destroyed config deviceId o).2
      (log ++ configureActions destroyed config deviceId o) := by
  by_cases wrong : deviceId.bytes.length = 36
  · have kept := releaseClient_kept destroyed { o with reconfiguring := true }
    have released := release_tracked destroyed { o with reconfiguring := true } log
      (tracked.of_same rfl rfl rfl)
    simp only [frpOwnerConfigure, configureActions, wrong]
    cases answer : releaseClient destroyed { o with reconfiguring := true } with
    | mk free next =>
      simp only [answer, releaseActions] at released kept
      cases free with
      | false => simpa [releaseActions] using released
      | true =>
        have none : next.client = false := kept.2.2.2.2.2.2 rfl
        have empty := released.count
        simp only [none, Bool.false_eq_true, if_false] at empty
        have written : FrpLogSound (log ++ (if o.client then [.destroyed destroyed] else []) ++
            [.rewritten config deviceId]) := released.sound.snoc empty
        simp only [releaseActions]
        refine ⟨by simpa using written, ?_, ?_⟩
        · simpa [none, outstanding, FrpAction.handles] using empty
        · simp [lastWritten, FrpAction.written]
  · simpa [frpOwnerConfigure, configureActions, wrong] using tracked

def gatedPoll (a : FrpOwnerAnswers) (now : Nat) (o : FrpOwner) : FrpOwner :=
  if o.reconfiguring || !o.config.configured || !o.networkReady || !o.endpointReady then
    (releaseClient a.destroyed o).2
  else if !o.draining then
    if o.client || now < o.retryAtMs then o else startClient a now o
  else
    match releaseClient a.destroyed o with
    | (false, o) => o
    | (true, o) => if o.client || now < o.retryAtMs then o else startClient a now o

theorem frpOwnerPoll_gated (a : FrpOwnerAnswers) (gates : FrpGates) (o : FrpOwner)
    (time : gates.timeReady = a.timeReady) :
    frpOwnerPoll a gates.now gates.networkReady gates.trustedTimeReady gates.endpointReady o =
      gatedPoll a gates.now (gatedOwner gates o) := by
  simp only [gatedOwner, time]
  rfl

theorem gated_tracked (a : FrpOwnerAnswers) (gates : FrpGates) (o : FrpOwner) (log : List FrpAction)
    (noted : o.networkReady = true → gates.networkReady = true ∧ gates.trustedTimeReady = true ∧
      gates.timeReady = true)
    (bound : o.endpointReady = true → gates.endpointReady = true) (tracked : Tracked o log) :
    Tracked (gatedPoll a gates.now o) (log ++ gatedActions a gates o) := by
  by_cases shut : (o.reconfiguring || !o.config.configured || !o.networkReady || !o.endpointReady) = true
  · simpa [gatedPoll, gatedActions, shut] using release_tracked a.destroyed o log tracked
  · obtain ⟨⟨⟨settled, present⟩, network⟩, endpoint⟩ :
        ((o.reconfiguring = false ∧ o.config.configured = true) ∧ o.networkReady = true) ∧
          o.endpointReady = true := by simpa using shut
    have all : gates.allTrue = true := by simp [FrpGates.allTrue, noted network, bound endpoint]
    -- A client may be created from here on, whatever release came before.
    have allowed (next : FrpOwner) (earlier : List FrpAction) (here : Tracked next earlier)
        (same : next.config = o.config ∧ next.reconfiguring = o.reconfiguring)
        (free : next.client = false) (due : next.retryAtMs ≤ gates.now) :
        (FrpAction.created next gates a.created).Sound earlier := by
      refine ⟨by simpa [free] using here.count, ?_, ?_, all, due, here.written⟩
      · rw [same.1, present]
      · rw [same.2, settled]
    simp only [gatedPoll, gatedActions, shut]
    by_cases draining : o.draining = true
    · have kept := releaseClient_kept a.destroyed o
      have released := release_tracked a.destroyed o log tracked
      simp only [draining, Bool.not_true, Bool.false_eq_true, if_false]
      cases answer : releaseClient a.destroyed o with
      | mk free next =>
        simp only [answer] at kept released
        cases free with
        | false => exact released
        | true =>
          by_cases idle : (next.client || decide (gates.now < next.retryAtMs)) = true
          · simpa [idle] using released
          · obtain ⟨free, due⟩ : next.client = false ∧ next.retryAtMs ≤ gates.now := by
              simpa using idle
            have started := start_tracked a gates next _ released free
              (allowed next _ released ⟨kept.1, kept.2.2.2.1⟩ free due)
            simpa [idle] using started
    · by_cases idle : (o.client || decide (gates.now < o.retryAtMs)) = true
      · simpa [draining, idle] using tracked
      · obtain ⟨free, due⟩ : o.client = false ∧ o.retryAtMs ≤ gates.now := by simpa using idle
        have started := start_tracked a gates o log tracked free
          (allowed o log tracked ⟨rfl, rfl⟩ free due)
        simpa [draining, idle] using started

structure GatesHeld (r : FrpRun) : Prop where
  network : r.owner.networkReady = true → ∃ gates, lastGates r.log = some gates ∧
    gates.networkReady = true ∧ gates.trustedTimeReady = true ∧ gates.timeReady = true
  endpoint : r.owner.endpointReady = true → ∃ gates, lastGates r.log = some gates ∧
    gates.endpointReady = true

theorem lastGates_append (log actions : List FrpAction)
    (none : actions.filterMap FrpAction.gates = []) : lastGates (log ++ actions) = lastGates log := by
  simp [lastGates, none]

theorem releaseActions_ungated (result : EfrpResult) (o : FrpOwner) :
    (releaseActions result o).filterMap FrpAction.gates = [] := by
  cases held : o.client <;> simp [releaseActions, held, FrpAction.gates]

theorem startActions_ungated (a : FrpOwnerAnswers) (gates : FrpGates) (o : FrpOwner) :
    (startActions a gates o).filterMap FrpAction.gates = [] := by
  simp only [startActions]
  split_ifs <;> simp [FrpAction.gates]

theorem gatedActions_ungated (a : FrpOwnerAnswers) (gates : FrpGates) (o : FrpOwner) :
    (gatedActions a gates o).filterMap FrpAction.gates = [] := by
  simp only [gatedActions]
  split_ifs
  · exact releaseActions_ungated _ _
  · rfl
  · exact startActions_ungated _ _ _
  · split
    · exact releaseActions_ungated _ _
    · rw [List.filterMap_append, releaseActions_ungated]
      split_ifs <;> simp [startActions_ungated]

theorem startClient_flags (a : FrpOwnerAnswers) (now : Nat) (o : FrpOwner) :
    (startClient a now o).networkReady = o.networkReady ∧
      (startClient a now o).endpointReady = o.endpointReady := by
  simp only [startClient]
  split_ifs
  · exact ⟨rfl, rfl⟩
  all_goals
    have kept := releaseClient_kept a.destroyedAfter
    exact ⟨(kept _).2.2.2.2.1, (kept _).2.2.2.2.2.1⟩

theorem gatedPoll_flags (a : FrpOwnerAnswers) (now : Nat) (o : FrpOwner) :
    (gatedPoll a now o).networkReady = o.networkReady ∧
      (gatedPoll a now o).endpointReady = o.endpointReady := by
  have kept := releaseClient_kept a.destroyed o
  simp only [gatedPoll]
  split_ifs
  · exact ⟨kept.2.2.2.2.1, kept.2.2.2.2.2.1⟩
  · exact ⟨rfl, rfl⟩
  · exact startClient_flags a now o
  · cases answer : releaseClient a.destroyed o with
    | mk free next =>
      simp only [answer] at kept
      cases free with
      | false => exact ⟨kept.2.2.2.2.1, kept.2.2.2.2.2.1⟩
      | true =>
        have flags := startClient_flags a now next
        simp only
        split_ifs
        · exact ⟨kept.2.2.2.2.1, kept.2.2.2.2.2.1⟩
        · exact ⟨flags.1.trans kept.2.2.2.2.1, flags.2.trans kept.2.2.2.2.2.1⟩

theorem configure_gates (destroyed : EfrpResult) (config : FrpConfig) (deviceId : CString)
    (r : FrpRun) (held : GatesHeld r) : GatesHeld (frpStep (.configure destroyed config deviceId) r) := by
  have kept := releaseClient_kept destroyed { r.owner with reconfiguring := true }
  have none : (configureActions destroyed config deviceId r.owner).filterMap FrpAction.gates = [] := by
    simp only [configureActions]
    split_ifs <;> simp [releaseActions_ungated, FrpAction.gates]
  have flags : let owner := (frpOwnerConfigure destroyed config deviceId r.owner).2
      (owner.networkReady = r.owner.networkReady ∧ owner.endpointReady = r.owner.endpointReady) ∨
        (owner.networkReady = false ∧ owner.endpointReady = false) := by
    simp only [frpOwnerConfigure]
    split_ifs
    · exact .inl ⟨rfl, rfl⟩
    · cases answer : releaseClient destroyed { r.owner with reconfiguring := true } with
      | mk free next =>
        simp only [answer] at kept
        cases free with
        | false => exact .inl ⟨kept.2.2.2.2.1, kept.2.2.2.2.2.1⟩
        | true => exact .inr ⟨rfl, rfl⟩
  simp only [frpStep]
  constructor
  · intro ready
    rw [lastGates_append _ _ none]
    rcases flags with ⟨same, -⟩ | ⟨closed, -⟩
    · exact held.network (same.symm.trans ready)
    · exact absurd (closed.symm.trans ready) (by decide)
  · intro ready
    rw [lastGates_append _ _ none]
    rcases flags with ⟨-, same⟩ | ⟨-, closed⟩
    · exact held.endpoint (same.symm.trans ready)
    · exact absurd (closed.symm.trans ready) (by decide)

theorem poll_gates (a : FrpOwnerAnswers) (gates : FrpGates) (o : FrpOwner) (log : List FrpAction) :
    GatesHeld { owner := gatedPoll a gates.now (gatedOwner gates o),
                log := log ++ .polled gates :: pollActions a gates o } := by
  have flags := gatedPoll_flags a gates.now (gatedOwner gates o)
  have last : lastGates (log ++ .polled gates :: pollActions a gates o) = some gates := by
    rw [show log ++ .polled gates :: pollActions a gates o =
      log ++ [.polled gates] ++ pollActions a gates o by simp, pollActions,
      lastGates_append _ _ (gatedActions_ungated _ _ _)]
    simp [lastGates, FrpAction.gates]
  constructor
  · intro ready
    have all : (gatedOwner gates o).networkReady = true := flags.1.symm.trans ready
    simp only [gatedOwner, Bool.and_eq_true] at all
    exact ⟨gates, last, all.1.1, all.1.2, all.2⟩
  · intro ready
    exact ⟨gates, last, flags.2.symm.trans ready⟩

structure FrpInvariant (r : FrpRun) : Prop where
  tracked : Tracked r.owner r.log
  gates : GatesHeld r

theorem frpStep_invariant (label : FrpLabel) (r : FrpRun) (kept : FrpInvariant r) :
    FrpInvariant (frpStep label r) := by
  cases label with
  | configure destroyed config deviceId =>
    exact ⟨configure_tracked destroyed config deviceId r.owner r.log kept.tracked,
      configure_gates destroyed config deviceId r kept.gates⟩
  | poll a now networkReady trustedTimeReady endpointReady =>
    have same := frpOwnerPoll_gated a ⟨now, networkReady, trustedTimeReady, endpointReady, a.timeReady⟩
      r.owner rfl
    simp only at same
    simp only [frpStep, same]
    refine ⟨?_, poll_gates a _ r.owner r.log⟩
    have polled : Tracked (gatedOwner ⟨now, networkReady, trustedTimeReady, endpointReady, a.timeReady⟩
        r.owner) (r.log ++ [.polled ⟨now, networkReady, trustedTimeReady, endpointReady, a.timeReady⟩]) :=
      kept.tracked.act trivial rfl rfl rfl (Int.add_zero _).symm
    have done := gated_tracked a ⟨now, networkReady, trustedTimeReady, endpointReady, a.timeReady⟩ _ _
      (by intro all; simpa [gatedOwner, and_assoc] using all) (by simp [gatedOwner]) polled
    simpa [pollActions] using done

theorem frpInvariant_initial : FrpInvariant .initial :=
  ⟨⟨by intro earlier action later split; simp [FrpRun.initial] at split,
    by simp [FrpRun.initial, FrpOwner.initial, outstanding], rfl⟩,
    ⟨by simp [FrpRun.initial, FrpOwner.initial], by simp [FrpRun.initial, FrpOwner.initial]⟩⟩

theorem gatedActions_shut (a : FrpOwnerAnswers) (gates : FrpGates) (o : FrpOwner)
    (shut : o.config.configured = false ∨ o.reconfiguring = true ∨ o.networkReady = false ∨
      o.endpointReady = false) : gatedActions a gates o = releaseActions a.destroyed o := by
  have closed :
      (o.reconfiguring || !o.config.configured || !o.networkReady || !o.endpointReady) = true := by
    rcases shut with none | pending | down | unbound
    · simp [none]
    · simp [pending]
    · simp [down]
    · simp [unbound]
  simp [gatedActions, closed]

theorem poll_shut (a : FrpOwnerAnswers) (now : Nat) (networkReady trustedTimeReady endpointReady : Bool)
    (r : FrpRun)
    (shut : r.owner.config.configured = false ∨ r.owner.reconfiguring = true ∨ networkReady = false ∨
      trustedTimeReady = false ∨ a.timeReady = false ∨ endpointReady = false) :
    (frpStep (.poll a now networkReady trustedTimeReady endpointReady) r).log =
      r.log ++ .polled ⟨now, networkReady, trustedTimeReady, endpointReady, a.timeReady⟩ ::
        if r.owner.client then [.destroyed a.destroyed] else [] := by
  have closed := gatedActions_shut a
    ⟨now, networkReady, trustedTimeReady, endpointReady, a.timeReady⟩
    (gatedOwner ⟨now, networkReady, trustedTimeReady, endpointReady, a.timeReady⟩ r.owner) (by
      rcases shut with none | pending | down | down | down | unbound
      · exact .inl none
      · exact .inr (.inl pending)
      · simp [gatedOwner, down]
      · simp [gatedOwner, down]
      · simp [gatedOwner, down]
      · simp [gatedOwner, unbound])
  simp only [frpStep, pollActions, closed]
  rfl

theorem frpOwnerSnapshot_ready (status : Option EfrpPhase) (o : FrpOwner)
    (ready : frpOwnerSnapshot status o = .ready) :
    o.client = true ∧ o.draining = false ∧ status = some .ready ∧ o.networkReady = true ∧
      o.endpointReady = true := by
  revert ready
  simp only [frpOwnerSnapshot]
  split_ifs <;> simp_all
  cases status with
  | none => simp
  | some phase => cases phase <;> simp

/-- At most one client at any time, created only behind every gate, and reported ready only there. -/
theorem frp_single_client (labels : List FrpLabel) :
    let r := runFrp labels
    (∀ earlier later, r.log = earlier ++ later →
      0 ≤ outstanding earlier ∧ outstanding earlier ≤ 1) ∧
    FrpLogSound r.log ∧
    outstanding r.log = (if r.owner.client then 1 else 0) ∧
    (r.owner.config, r.owner.deviceId) = lastWritten r.log ∧
    (∀ (a : FrpOwnerAnswers) (now : Nat) (networkReady trustedTimeReady endpointReady : Bool),
      (r.owner.config.configured = false ∨ r.owner.reconfiguring = true ∨ networkReady = false ∨
        trustedTimeReady = false ∨ a.timeReady = false ∨ endpointReady = false) →
      (frpStep (.poll a now networkReady trustedTimeReady endpointReady) r).log =
        r.log ++ .polled ⟨now, networkReady, trustedTimeReady, endpointReady, a.timeReady⟩ ::
          if r.owner.client then [.destroyed a.destroyed] else []) ∧
    (∀ status, frpOwnerSnapshot status r.owner = .ready →
      r.owner.client = true ∧ r.owner.draining = false ∧ status = some .ready ∧
        ∃ gates, lastGates r.log = some gates ∧ gates.allTrue = true) := by
  have kept := @run_invariant _ _ _ (fun r : FrpRun => FrpInvariant r) frpStep_invariant labels .initial
    frpInvariant_initial
  refine ⟨?_, kept.tracked.sound, kept.tracked.count, kept.tracked.written, ?_, ?_⟩
  · intro earlier later split
    refine outstanding_prefix earlier fun first action rest cut => ?_
    exact kept.tracked.sound first action (rest ++ later) (by rw [split, cut]; simp)
  · intro a now networkReady trustedTimeReady endpointReady shut
    exact poll_shut a now networkReady trustedTimeReady endpointReady _ shut
  · intro status ready
    obtain ⟨client, live, phase, network, endpoint⟩ := frpOwnerSnapshot_ready status _ ready
    obtain ⟨gates, last, net, trusted, time⟩ := kept.gates.network network
    obtain ⟨others, same, bound⟩ := kept.gates.endpoint endpoint
    obtain rfl : others = gates := Option.some.inj (same.symm.trans last)
    exact ⟨client, live, phase, others, last, by simp [FrpGates.allTrue, net, trusted, time, bound]⟩

end EspBase

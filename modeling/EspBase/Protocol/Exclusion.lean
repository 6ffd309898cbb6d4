import EspBase.Protocol.Effects

set_option autoImplicit false

namespace EspBase

open Transition

/-- The protocol or one other party holds the storage owner, never both. -/
structure ClaimsApart (owner : StorageOwner) (claim : StorageClaim) (others : List StorageClaim) :
    Prop where
  protocol : claim = .empty ∨ owner.HeldBy claim
  single : others = [] ∨ ∃ other, others = [other] ∧ owner.HeldBy other
  apart : claim = .empty ∨ others = []

section Claims

variable {owner after : StorageOwner} {claim taken : StorageClaim} {others : List StorageClaim}

theorem ClaimsApart.free (claims : ClaimsApart owner claim others) (free : owner.activeToken = 0) :
    claim = .empty ∧ others = [] := by
  have unheld (c : StorageClaim) : ¬owner.HeldBy c :=
    fun held => held.issued (held.active ▸ free)
  refine ⟨claims.protocol.resolve_right (unheld claim), claims.single.resolve_right ?_⟩
  rintro ⟨other, -, held⟩
  exact unheld other held

theorem ClaimsApart.claimed (claims : ClaimsApart owner claim others)
    (claiming : storageClaim owner claim = (true, after, taken)) : ClaimsApart after taken others := by
  obtain ⟨free, held, -⟩ := storageClaim_claimed _ _ _ _ claiming
  have nobody := (claims.free free).2
  exact ⟨.inr held, .inl nobody, .inr nobody⟩

theorem ClaimsApart.released (claims : ClaimsApart owner claim others) (held : owner.HeldBy claim) :
    ClaimsApart { owner with activeToken := 0 } .empty others := by
  have holding : claim ≠ .empty := by
    rintro rfl
    exact held.issued rfl
  exact ⟨.inl rfl, .inl (claims.apart.resolve_left holding), .inl rfl⟩

theorem ClaimsApart.otherClaimed (claims : ClaimsApart owner claim others)
    (claiming : storageClaim owner .empty = (true, after, taken)) :
    ClaimsApart after claim (others ++ [taken]) := by
  obtain ⟨free, held, -⟩ := storageClaim_claimed _ _ _ _ claiming
  obtain ⟨rfl, rfl⟩ := claims.free free
  exact ⟨.inl rfl, .inr ⟨taken, rfl, held⟩, .inl rfl⟩

theorem ClaimsApart.otherReleased (claims : ClaimsApart owner claim others) (index : Nat)
    (other : StorageClaim) (here : others[index]? = some other) :
    ClaimsApart { owner with activeToken := 0 } claim (others.eraseIdx index) := by
  rcases claims.single with rfl | ⟨only, rfl, -⟩
  · cases here
  have nobody : claim = .empty := claims.apart.resolve_right (List.cons_ne_nil _ _)
  obtain rfl : index = 0 := by
    have inside := (List.getElem?_eq_some_iff.mp here).choose
    simpa using inside
  exact ⟨.inl nobody, .inl rfl, .inl nobody⟩

end Claims

structure Exclusive (s : Control) : Prop where
  claims : ClaimsApart s.storageOwner s.otaStorageClaim s.otherClaims
  apart : s.otaActive = true → s.trialActive = false
  certain : s.otaActive = true ∨ s.trialActive = true →
    s.configUncertain = false ∧ s.otaBootUncertain = false
  mirrored : s.controlState.otaDownloadActive = s.otaActive
  held : s.otaActive = true → s.storageOwner.HeldBy s.otaStorageClaim
  workers : s.workers = [] ∨
    (s.workers = [s.otaRequest] ∧ s.otaActive = true ∧ s.otaDone = false)

theorem Idle.quiet {s : Control} (idle : Idle s) : ¬(s.otaActive = true ∨ s.trialActive = true) := by
  simp [idle.ota, idle.trial]

section Exclusive

variable {s : Control} {owner : StorageOwner} {claim : StorageClaim}

theorem Exclusive.alone (inv : Exclusive s) (trial : s.trialActive = true) : s.otaActive = false := by
  by_contra ota
  simp [inv.apart (Bool.not_eq_false _ ▸ ota)] at trial

theorem Exclusive.unemployed (inv : Exclusive s) (ota : s.otaActive = false) : s.workers = [] :=
  inv.workers.resolve_right fun working => by simp [working.2.1] at ota

theorem Exclusive.published (inv : Exclusive s) (done : s.otaDone = true) : s.workers = [] :=
  inv.workers.resolve_right fun working => by simp [working.2.2] at done

theorem Exclusive.saved (inv : Exclusive s) (slot : Nat) (state : ResultState) (error : Option String)
    (status : Option StatusSnapshot) : Exclusive (saveOutcome slot state error status s) := by
  rw [saveOutcome_eq]
  exact ⟨inv.claims, inv.apart, inv.certain, inv.mirrored, inv.held, inv.workers⟩

theorem Exclusive.resting (claims : ClaimsApart s.storageOwner s.otaStorageClaim s.otherClaims)
    (ota : s.otaActive = false) (trial : s.trialActive = false)
    (mirrored : s.controlState.otaDownloadActive = false) (workers : s.workers = []) : Exclusive s where
  claims := claims
  apart := fun _ => trial
  certain := fun busy => by simp [ota, trial] at busy
  mirrored := mirrored.trans ota.symm
  held := fun active => by simp [ota] at active
  workers := .inl workers

theorem Exclusive.begun (inv : Exclusive s) (idle : Idle s)
    (claiming : storageClaim s.storageOwner s.otaStorageClaim = (true, owner, claim)) (slot : Nat)
    (request : Request) (guard : Guard) (ota : OtaRequest) (prepared : BlobCell) :
    Exclusive (((s.accept slot request guard).registered slot ota owner claim .ok prepared).downloading
      slot ota) := by
  have held := (storageClaim_claimed _ _ _ _ claiming).2.1
  refine ⟨inv.claims.claimed claiming, fun _ => idle.trial, fun _ => ⟨idle.config, idle.boot⟩, rfl,
    fun _ => held, .inr ⟨?_, rfl, rfl⟩⟩
  change s.workers ++ [ota] = [ota]
  rw [inv.unemployed idle.ota, List.nil_append]

theorem Exclusive.finished (inv : Exclusive s) (ota : OtaRequest) (others : List OtaRequest)
    (running : s.workers = ota :: others) : others = [] := by
  rcases inv.workers with none | ⟨one, -⟩
  · rw [running] at none
    cases none
  · exact (List.cons.inj (running.symm.trans one)).2

-- The download holds the owner: nobody else can claim it, and nobody else has it to release.
theorem Exclusive.otherClaimed (inv : Exclusive s)
    (claiming : storageClaim s.storageOwner .empty = (true, owner, claim)) : s.otaActive = false := by
  by_contra active
  have held := inv.held (Bool.not_eq_false _ ▸ active)
  have free := (storageClaim_claimed _ _ _ _ claiming).1
  exact held.issued (held.active.symm.trans free)

theorem Exclusive.otherReleased (inv : Exclusive s) (index : Nat) (here : s.otherClaims[index]? = some claim) :
    s.otaActive = false := by
  by_contra active
  have held := inv.held (Bool.not_eq_false _ ▸ active)
  have holding : s.otaStorageClaim ≠ .empty := by
    intro empty
    exact held.issued (by rw [empty]; rfl)
  rw [inv.claims.apart.resolve_left holding] at here
  cases here

end Exclusive

variable (build : Build)

theorem exclusive_kept (s t : Control) (effect : Effect build s t) (inv : Exclusive s) :
    Exclusive t := by
  -- What is accepted, selected or reported leaves the invariant's components as they are.
  cases effect with
  | replied | wifiMoved | progressed | confirmed =>
    exact ⟨inv.claims, inv.apart, inv.certain, inv.mirrored, inv.held, inv.workers⟩
  | refused =>
    refine Exclusive.saved ?_ _ _ _ _
    exact ⟨inv.claims, inv.apart, inv.certain, inv.mirrored, inv.held, inv.workers⟩
  | restarting | slotSelected =>
    rw [saveOutcome_eq]
    exact ⟨inv.claims, inv.apart, inv.certain, inv.mirrored, inv.held, inv.workers⟩
  | otaRefused slot request guard ota a owner claim result stored accepted idle verified claimed =>
    have held := (storageClaim_claimed _ _ _ _ claimed).2.1
    rw [saveOutcome_eq]
    exact .resting ((inv.claims.claimed claimed).released held) idle.ota idle.trial (inv.mirrored.trans idle.ota)
      (inv.unemployed idle.ota)
  | otaUncertain slot request guard ota a owner claim stored accepted idle verified claimed =>
    rw [saveOutcome_eq]
    exact .resting (inv.claims.claimed claimed) idle.ota idle.trial (inv.mirrored.trans idle.ota)
      (inv.unemployed idle.ota)
  | workerFailed slot request guard ota a f owner claim prepared stored accepted idle verified
      claimed =>
    have held := (storageClaim_claimed _ _ _ _ claimed).2.1
    rw [saveOutcome_eq]
    exact .resting ((inv.claims.claimed claimed).released held) rfl idle.trial rfl (inv.unemployed idle.ota)
  | workerLost slot request guard ota a f owner claim prepared stored result accepted idle verified
      claimed =>
    rw [saveOutcome_eq]
    exact .resting (inv.claims.claimed claimed) rfl idle.trial rfl (inv.unemployed idle.ota)
  | workerStarted slot request guard ota a owner claim prepared accepted idle verified claimed =>
    exact (inv.begun idle claimed slot request guard ota prepared).saved _ _ _ _
  | trialStarted slot request guard candidate startedAt now a wifi accepted idle =>
    rw [saveOutcome_eq]
    exact ⟨inv.claims, fun active => absurd (.inl active) idle.quiet,
      fun _ => ⟨idle.config, idle.boot⟩, inv.mirrored, inv.held, inv.workers⟩
  | trialRefused slot request guard candidate startedAt now restoredAt a b error restored wifi back
      accepted idle =>
    rw [saveOutcome_eq, saveOutcome_eq]
    exact .resting inv.claims idle.ota idle.trial (inv.mirrored.trans idle.ota) (inv.unemployed idle.ota)
  | committed now faults config stored a active
  | commitReloaded now faults stored reload config a error wifi active
  | commitUnread now faults stored a error wifi active
  | commitFailed now faults stored failure a error wifi active
  | proofFailed now a error wifi active =>
    have alone := inv.alone active
    rw [saveOutcome_eq]
    exact .resting inv.claims alone rfl (inv.mirrored.trans alone) (inv.unemployed alone)
  | bootUnknown active done
  | failureLost f saved stored active done =>
    rw [saveOutcome_eq]
    exact .resting inv.claims rfl (inv.apart active) rfl (inv.published done)
  | releaseFailed f stored active done result recorded kept =>
    exact absurd (inv.held active) kept
  | otaFailed f stored active done =>
    rw [saveOutcome_eq]
    exact .resting (inv.claims.released (inv.held active)) rfl (inv.apart active) rfl (inv.published done)
  | workerDone ota others result running =>
    exact ⟨inv.claims, inv.apart, inv.certain, inv.mirrored, inv.held, .inl (inv.finished ota others running)⟩
  | otherClaimed owner claim claimed =>
    have idle := inv.otherClaimed claimed
    exact ⟨inv.claims.otherClaimed claimed, inv.apart, inv.certain, inv.mirrored,
      fun active => by simp [idle] at active, inv.workers⟩
  | otherReleased index claim here held =>
    have idle := inv.otherReleased index here
    exact ⟨inv.claims.otherReleased index claim here, inv.apart, inv.certain, inv.mirrored,
      fun active => by simp [idle] at active, inv.workers⟩

theorem exclusive_boot (b : Boot) : Exclusive b.control := by
  refine ⟨⟨.inl rfl, .inr ⟨_, rfl, ?_⟩, .inl rfl⟩, nofun, nofun, rfl, nofun, .inl rfl⟩
  exact ⟨rfl, by decide, by decide, rfl⟩

theorem exclusive_reached (b : Boot) (labels : List Label) :
    (runBoot build b labels).replyMqtt = false ∧ Exclusive (runBoot build b labels) :=
  run_keeps build
    (fun _ _ inv => ⟨inv.claims, inv.apart, inv.certain, inv.mirrored, inv.held, inv.workers⟩)
    (exclusive_kept build) labels b.control rfl (exclusive_boot b)

-- The slot of the write that the event starts.
def Event.startsWrite : Event → Option Nat
  | .trialStarted slot _ _ _ | .registering slot _ _ | .workerCreated slot _ => some slot
  | _ => none

def Event.restarts : Event → Option Unit
  | .restarting _ | .slotSelected => some ()
  | _ => none

theorem effect_startsWrite (s t : Control) (effect : Effect build s t)
    (starts : picked Event.startsWrite (newEvents s t) ≠ []) :
    Idle s ∧ s.controlState.otaVerificationPending = false := by
  have silent := @picked_emission _ Event.startsWrite (fun _ _ => rfl)
  cases effect with
  | otaRefused _ _ _ _ _ _ _ _ _ _ idle verified => exact ⟨idle, verified⟩
  | otaUncertain _ _ _ _ _ _ _ _ _ idle verified => exact ⟨idle, verified⟩
  | workerFailed _ _ _ _ _ _ _ _ _ _ _ idle verified => exact ⟨idle, verified⟩
  | workerLost _ _ _ _ _ _ _ _ _ _ _ _ idle verified => exact ⟨idle, verified⟩
  | workerStarted _ _ _ _ _ _ _ _ _ idle verified => exact ⟨idle, verified⟩
  | trialStarted _ _ _ _ _ _ _ _ _ idle verified => exact ⟨idle, verified⟩
  | trialRefused _ _ _ _ _ _ _ _ _ _ _ _ _ _ idle verified => exact ⟨idle, verified⟩
  | replied events sent =>
    simp [newEvents, @picked_sent _ Event.startsWrite (fun _ _ => rfl) _ events sent] at starts
  | _ => simp [newEvents, saveOutcome_eq, silent, Event.startsWrite] at starts

theorem effect_restarts (s t : Control) (effect : Effect build s t)
    (restarts : picked Event.restarts (newEvents s t) ≠ []) : Idle s ∨ s.otaActive = true := by
  have silent := @picked_emission _ Event.restarts (fun _ _ => rfl)
  cases effect with
  | restarting _ _ _ _ idle => exact .inl idle
  | slotSelected active => exact .inr active
  | replied events sent =>
    simp [newEvents, @picked_sent _ Event.restarts (fun _ _ => rfl) _ events sent] at restarts
  | _ => simp [newEvents, saveOutcome_eq, silent, Event.restarts] at restarts

theorem effect_uncertain (s t : Control) (effect : Effect build s t) :
    (s.configUncertain = true → t.configUncertain = true) ∧
      (s.otaBootUncertain = true → t.otaBootUncertain = true) := by
  cases effect with
  | trialRefused slot request guard candidate startedAt now restoredAt a b error restored wifi back
      accepted idle => simp [saveOutcome_eq, idle.config]
  | commitFailed => simp +contextual [saveOutcome_eq]
  | proofFailed => simp +contextual [saveOutcome_eq]
  | _ => simp [saveOutcome_eq]

def Event.worker : Event → Option OtaRequest
  | .workerCreated _ request => some request
  | _ => none

def lastWorker (log : List Event) : Option OtaRequest := (picked Event.worker log).getLast?

theorem effect_workers (s t : Control) (effect : Effect build s t) :
    picked Event.worker (newEvents s t) = [t.otaRequest] ∨
      (picked Event.worker (newEvents s t) = [] ∧
        (t.otaActive = true → s.otaActive = true ∧ t.otaRequest = s.otaRequest)) := by
  have silent := @picked_emission _ Event.worker (fun _ _ => rfl)
  cases effect with
  | replied events sent =>
    refine .inr ⟨?_, fun active => ⟨active, rfl⟩⟩
    simpa [newEvents] using picked_sent (fun _ _ => rfl) _ events sent
  | workerStarted => exact .inl (by simp [newEvents, saveOutcome_eq, silent, Event.worker])
  | _ =>
    exact .inr ⟨by simp [newEvents, saveOutcome_eq, silent, Event.worker], by simp [saveOutcome_eq]⟩

theorem lastWorker_kept (s t : Control) (effect : Effect build s t)
    (known : s.otaActive = true → lastWorker s.log = some s.otaRequest) :
    t.otaActive = true → lastWorker t.log = some t.otaRequest := by
  intro active
  rw [effect_log build s t effect, lastWorker, picked_append]
  rcases effect_workers build s t effect with created | ⟨none, before⟩
  · rw [created, List.getLast?_concat]
  · obtain ⟨was, same⟩ := before active
    rw [none, List.append_nil, same]
    exact known was

theorem effect_request (s t : Control) (effect : Effect build s t) (active : s.otaActive = true)
    (still : t.otaActive = true) : t.otaRequest = s.otaRequest := by
  cases effect with
  | workerStarted _ _ _ _ _ _ _ _ _ idle => simp [idle.ota] at active
  | _ => first | rfl | simp [saveOutcome_eq] at still ⊢

-- A download ends only by consuming the result of its worker.
theorem effect_consumes (s t : Control) (effect : Effect build s t) (active : s.otaActive = true)
    (ended : t.otaActive = false) : s.otaDone = true := by
  have busy (idle : Idle s) : False := by simp [idle.ota] at active
  cases effect with
  | workerFailed _ _ _ _ _ _ _ _ _ _ _ idle => exact (busy idle).elim
  | workerLost _ _ _ _ _ _ _ _ _ _ _ _ idle => exact (busy idle).elim
  | bootUnknown _ done => exact done
  | failureLost _ _ _ _ done => exact done
  | releaseFailed _ _ _ done => exact done
  | otaFailed _ _ _ done => exact done
  | _ => simp [saveOutcome_eq, active] at ended

theorem lastWorker_reached (b : Boot) (labels : List Label) :
    (runBoot build b labels).otaActive = true →
      lastWorker (runBoot build b labels).log = some (runBoot build b labels).otaRequest :=
  (@run_keeps build (fun s => s.otaActive = true → lastWorker s.log = some s.otaRequest)
    (fun _ _ known => known) (lastWorker_kept build) labels b.control rfl nofun).2

/-- A run keeps the writes apart; from an uncertain state no step starts a write or a restart. -/
theorem writes_exclusive (b : Boot) (labels : List Label) (label : Label) :
    let s := runBoot build b labels
    let t := step build label s
    ¬(s.trialActive = true ∧ s.otaActive = true) ∧
      s.workers.length ≤ 1 ∧
      s.controlState.otaDownloadActive = s.otaActive ∧
      (s.otaActive = true → s.storageOwner.HeldBy s.otaStorageClaim) ∧
      (s.workers ≠ [] → s.otaActive = true) ∧
      (s.otaActive = true → lastWorker s.log = some s.otaRequest) ∧
      (s.otaActive = true → t.otaActive = true → t.otaRequest = s.otaRequest) ∧
      (s.otaActive = true → t.otaActive = false → s.otaDone = true) ∧
      (s.controlState.otaVerificationPending = true →
        picked Event.startsWrite (newEvents s t) = []) ∧
      (s.configUncertain = true ∨ s.otaBootUncertain = true →
        picked Event.startsWrite (newEvents s t) = [] ∧
          picked Event.restarts (newEvents s t) = []) ∧
      (s.configUncertain = true → t.configUncertain = true) ∧
      (s.otaBootUncertain = true → t.otaBootUncertain = true) := by
  intro s t
  obtain ⟨usb, inv⟩ := exclusive_reached build b labels
  obtain ⟨viaMqtt, u, effect, same⟩ := step_effect build label s usb
  have events : newEvents s t = newEvents (s.withChannel viaMqtt) u := by
    simp only [t, same]
    rfl
  have starts (writes : picked Event.startsWrite (newEvents s t) ≠ []) :
      Idle s ∧ s.controlState.otaVerificationPending = false := by
    rw [events] at writes
    obtain ⟨idle, verified⟩ := effect_startsWrite build _ _ effect writes
    exact ⟨⟨idle.ota, idle.boot, idle.trial, idle.config⟩, verified⟩
  have restarts (restarting : picked Event.restarts (newEvents s t) ≠ []) :
      Idle s ∨ s.otaActive = true := by
    rw [events] at restarting
    exact (effect_restarts build _ _ effect restarting).imp_left
      (fun idle => ⟨idle.ota, idle.boot, idle.trial, idle.config⟩)
  have idle_certain (idle : Idle s) : ¬(s.configUncertain = true ∨ s.otaBootUncertain = true) := by
    simp [idle.config, idle.boot]
  refine ⟨?_, ?_, inv.mirrored, inv.held, ?_, lastWorker_reached build b labels, ?_, ?_, ?_, ?_, ?_, ?_⟩
  · rintro ⟨trial, ota⟩
    simp [s, inv.apart ota] at trial
  · rcases inv.workers with none | ⟨one, -⟩
    · simp [s, none]
    · simp [s, one]
  · intro working
    exact (inv.workers.resolve_left working).2.1
  · intro active still
    have unchanged := effect_request build _ u effect active (by simpa [t, same] using still)
    simpa [t, same] using unchanged
  · intro active ended
    exact effect_consumes build (s.withChannel viaMqtt) u effect active (by simpa [t, same] using ended)
  · intro pending
    by_contra writes
    simp [(starts writes).2] at pending
  · intro uncertain
    constructor
    · by_contra writes
      exact idle_certain (starts writes).1 uncertain
    · by_contra restarting
      rcases restarts restarting with idle | active
      · exact idle_certain idle uncertain
      · have certain := inv.certain (.inl active)
        simp [s, certain.1, certain.2] at uncertain
  · intro uncertain
    have kept := (effect_uncertain build _ u effect).1 uncertain
    simpa [t, same] using kept
  · intro uncertain
    have kept := (effect_uncertain build _ u effect).2 uncertain
    simpa [t, same] using kept

end EspBase

import EspBase.Protocol.Replay

set_option autoImplicit false

namespace EspBase

open Transition

-- The durable configuration is kept, or replaced under the next revision.
def Advances (before after : BlobCell) : Prop :=
  durableConfig after = durableConfig before ∨
    ∃ current next, durableConfig before = some current ∧ durableConfig after = some next ∧
      current.revision ≠ 0xffffffff ∧ next.revision = current.revision + 1

theorem remoteConfigCommitVerified_advances (faults : ConfigCommitFaults) (candidate : RemoteConfig)
    (expected : UInt32) (cell : BlobCell) :
    Advances cell (remoteConfigCommitVerified faults candidate expected cell).2 := by
  rcases remoteConfigCommitVerified_cases faults candidate expected cell with
    ⟨error, -, refused⟩ | ⟨stored, durable, revision, room, written⟩
  · rw [refused]
    exact .inl rfl
  subst revision
  rcases written with ⟨written, ok, next⟩ | ⟨written, uncertain, kept | next⟩
  · rw [ok]
    exact .inr ⟨stored, _, durable, next, room, rfl⟩
  · rw [uncertain]
    exact .inl (durableConfig_congr _ _ kept)
  · rw [uncertain]
    exact .inr ⟨stored, _, durable, next, room, rfl⟩

theorem remoteConfigCommitVerified_ok (faults : ConfigCommitFaults) (candidate config : RemoteConfig)
    (expected : UInt32) (cell written : BlobCell)
    (ok : remoteConfigCommitVerified faults candidate expected cell = (.ok config, written)) :
    config = { candidate with revision := expected + 1 } ∧ durableConfig written = some config := by
  rcases remoteConfigCommitVerified_cases faults candidate expected cell with
    ⟨error, -, refused⟩ | ⟨stored, -, -, -, ⟨_, same, durable⟩ | ⟨_, uncertain, -⟩⟩
  · rw [refused] at ok
    cases ok
  · rw [same] at ok
    cases ok
    exact ⟨rfl, durable⟩
  · rw [uncertain] at ok
    cases ok

theorem remoteConfigCommitVerified_certain (faults : ConfigCommitFaults) (candidate : RemoteConfig)
    (expected : UInt32) (error : EspErr) (cell written : BlobCell)
    (failed : remoteConfigCommitVerified faults candidate expected cell = (.error error, written))
    (certain : error ≠ .configUncertain) : written = cell := by
  rcases remoteConfigCommitVerified_cases faults candidate expected cell with
    ⟨error, -, refused⟩ | ⟨stored, -, -, -, ⟨_, same, -⟩ | ⟨_, uncertain, -⟩⟩
  · rw [refused] at failed
    cases failed
    rfl
  · rw [same] at failed
    cases failed
  · rw [uncertain] at failed
    cases failed
    exact absurd rfl certain

variable (build : Build)

theorem effect_store (s t : Control) (effect : Effect build s t) :
    t.configStore = s.configStore ∨ s.trialActive = true ∧ ∃ faults, t.configStore =
      (remoteConfigCommitVerified faults s.candidate s.candidate.revision s.configStore).2 := by
  cases effect with
  | committed now faults config stored a active ready early commit =>
    rw [saveOutcome_eq]
    exact .inr ⟨active, faults, (congrArg Prod.snd commit).symm⟩
  | commitReloaded now faults stored reload config a error wifi active ready early commit =>
    rw [saveOutcome_eq]
    exact .inr ⟨active, faults, (congrArg Prod.snd commit).symm⟩
  | commitUnread now faults stored a error wifi active ready early commit =>
    rw [saveOutcome_eq]
    exact .inr ⟨active, faults, (congrArg Prod.snd commit).symm⟩
  | commitFailed now faults stored failure a error wifi active ready early commit =>
    rw [saveOutcome_eq]
    exact .inr ⟨active, faults, (congrArg Prod.snd commit).symm⟩
  | _ =>
    left
    simp [saveOutcome_eq]

theorem effect_advances (s t : Control) (effect : Effect build s t) :
    Advances s.configStore t.configStore := by
  rcases effect_store build s t effect with kept | ⟨-, faults, wrote⟩
  · rw [kept]
    exact .inl rfl
  · rw [wrote]
    exact remoteConfigCommitVerified_advances faults s.candidate s.candidate.revision s.configStore

/-- A configuration that is not uncertain is the durable one. -/
def Mirrored (s : Control) : Prop :=
  s.configUncertain = false → durableConfig s.configStore = some s.config

theorem mirrored_kept (s t : Control) (effect : Effect build s t) (mirrored : Mirrored s) :
    Mirrored t := by
  cases effect with
  | otaUncertain =>
    rw [saveOutcome_eq]
    exact nofun
  | workerLost =>
    rw [saveOutcome_eq]
    exact nofun
  | failureLost =>
    rw [saveOutcome_eq]
    exact nofun
  | trialRefused slot request guard candidate startedAt now restoredAt a b error restored wifi back
      accepted idle =>
    rw [saveOutcome_eq, saveOutcome_eq]
    exact fun _ => mirrored idle.config
  | committed now faults config stored a active ready early commit =>
    rw [saveOutcome_eq]
    exact fun _ => (remoteConfigCommitVerified_ok _ _ _ _ _ _ commit).2
  | commitReloaded =>
    rw [saveOutcome_eq]
    exact nofun
  | commitUnread =>
    rw [saveOutcome_eq]
    exact nofun
  | commitFailed now faults stored failure a error wifi active ready early commit certain =>
    rw [saveOutcome_eq]
    intro clear
    obtain rfl := remoteConfigCommitVerified_certain _ _ _ _ _ _ commit certain
    exact mirrored (Bool.or_eq_false_iff.mp clear).1
  | proofFailed =>
    rw [saveOutcome_eq]
    exact fun clear => mirrored (Bool.or_eq_false_iff.mp clear).1
  | _ => simpa [Mirrored, saveOutcome_eq] using mirrored

theorem step_advances (label : Label) (s : Control) (usb : s.replyMqtt = false) :
    Advances s.configStore (step build label s).configStore := by
  obtain ⟨viaMqtt, t, effect, same⟩ := step_effect build label s usb
  rw [same]
  exact effect_advances build (s.withChannel viaMqtt) t effect

theorem Advances.revision {before after : BlobCell} {current : RemoteConfig}
    (advances : Advances before after) (durable : durableConfig before = some current) :
    ∃ next, durableConfig after = some next ∧
      (next = current ∨ current.revision ≠ 0xffffffff ∧
        next.revision.toNat = current.revision.toNat + 1) := by
  rcases advances with kept | ⟨_, next, same, after, room, revision⟩
  · exact ⟨current, kept.trans durable, .inl rfl⟩
  · obtain rfl := Option.some.inj (durable.symm.trans same)
    refine ⟨next, after, .inr ⟨room, ?_⟩⟩
    have bounded := current.revision.toNat_lt
    have below : current.revision.toNat ≠ 4294967295 := fun last => room (UInt32.toNat_inj.mp last)
    rw [revision, UInt32.toNat_add]
    exact Nat.mod_eq_of_lt (by simp; omega)

def ReachesRevision (current : RemoteConfig) (s : Control) : Prop :=
  ∃ later, durableConfig s.configStore = some later ∧
    current.revision.toNat ≤ later.revision.toNat

theorem reachesRevision_kept (current : RemoteConfig) (s t : Control) (effect : Effect build s t)
    (reaches : ReachesRevision current s) : ReachesRevision current t := by
  obtain ⟨later, durable, grown⟩ := reaches
  obtain ⟨next, after, same | ⟨-, one⟩⟩ := (effect_advances build s t effect).revision durable
  · exact ⟨next, after, same ▸ grown⟩
  · exact ⟨next, after, by omega⟩

theorem mirrored_reached (b : Boot) (faults : ConfigLoadFaults)
    (loaded : remoteConfigLoad faults b.configStore = .ok b.config) (labels : List Label) :
    (runBoot build b labels).replyMqtt = false ∧ Mirrored (runBoot build b labels) ∧
      ∃ current, durableConfig (runBoot build b labels).configStore = some current := by
  have durable : durableConfig b.configStore = some b.config := remoteConfigLoad_ok _ _ _ loaded
  obtain ⟨usb, mirrored⟩ := run_keeps build (fun _ _ mirrored => mirrored) (mirrored_kept build)
    labels b.control rfl (fun _ => durable)
  obtain ⟨-, current, now, -⟩ := run_keeps build (fun _ _ reaches => reaches)
    (reachesRevision_kept build b.config) labels b.control rfl ⟨b.config, durable, le_rfl⟩
  exact ⟨usb, mirrored, current, now⟩

/-- In every boot that began with a successful load, a certain configuration is the durable one, and
the durable revision only ever grows by one. -/
theorem configuration_durable (b : Boot) (faults : ConfigLoadFaults)
    (loaded : remoteConfigLoad faults b.configStore = .ok b.config) (labels : List Label) :
    let s := runBoot build b labels
    (s.configUncertain = false → durableConfig s.configStore = some s.config) ∧
      ∃ current, durableConfig s.configStore = some current ∧
        (∀ label, ∃ next, durableConfig (step build label s).configStore = some next ∧
          (next = current ∨ current.revision ≠ 0xffffffff ∧
            next.revision.toNat = current.revision.toNat + 1)) ∧
        ∀ more, ∃ later, durableConfig (run (step build) more s).configStore = some later ∧
          current.revision.toNat ≤ later.revision.toNat := by
  obtain ⟨usb, mirrored, current, durable⟩ := mirrored_reached build b faults loaded labels
  refine ⟨mirrored, current, durable, ?_, ?_⟩
  · intro label
    exact (step_advances build label _ usb).revision durable
  · intro more
    exact (run_keeps build (fun _ _ reaches => reaches) (reachesRevision_kept build current) more _
      usb ⟨current, durable, le_rfl⟩).2

theorem commitTrial_ok (now : Nat) (a : ConfigurationAnswers) (s : Control) (config : RemoteConfig)
    (stored : BlobCell)
    (wrote : remoteConfigCommitVerified a.commit s.candidate s.candidate.revision s.configStore = (.ok config, stored)) :
    commitTrial build now a s =
      saveOutcome s.trialSlot .succeeded none
        (some (snapshot build a.snapshot { s.committed now stored with config := config }))
        { s.committed now stored with config := config } := by
  unfold commitTrial
  simp only [wrote]
  rfl

def storedConfig : RemoteConfig := { RemoteConfig.zero with revision := 7 }
def storedBytes : List UInt8 := (configEncode storedConfig).getD []

def storedBoot : Boot := { sampleBoot with config := storedConfig, configStore := .holds storedBytes }

theorem storedConfig_encoded : configEncode storedConfig = some storedBytes := by
  have encodes : (configEncode storedConfig).isSome = true := by decide +kernel
  obtain ⟨bytes, encoded⟩ := Option.isSome_iff_exists.mp encodes
  rw [storedBytes, encoded]
  rfl

theorem storedConfig_loaded : remoteConfigLoad {} storedBoot.configStore = .ok storedBoot.config :=
  remoteConfigLoad_encoded storedConfig storedBytes storedConfig_encoded (by decide +kernel)

def storedSet : Parsed :=
  { error := none
    command :=
      { kind := .configSet
        request := samplePresented sampleDevice
        config := storedConfig
        ota := .zero
        operationId := .empty } }

def faultyCommit (faults : ConfigCommitFaults) : List Label :=
  [.line false (sampleAnswersAt 1000) storedSet,
    .pollConfiguration 1100 { snapshot := (sampleAnswersAt 1100).snapshot, commit := faults }]

theorem configuration_durable_faulty :
    let refused := runBoot unsignedBuild storedBoot (faultyCommit { openWrite := some 5 })
    let lost := runBoot unsignedBuild storedBoot
      (faultyCommit { write := { set := none, commit := some 5, effective := true } })
    durableConfig refused.configStore = some refused.config ∧ refused.config.revision = 7 ∧
      lost.configUncertain = true ∧ ∃ current, durableConfig lost.configStore = some current ∧
        storedConfig.revision.toNat ≤ current.revision.toNat := by
  have refused := configuration_durable unsignedBuild storedBoot {} storedConfig_loaded
    (faultyCommit { openWrite := some 5 })
  have lost := configuration_durable unsignedBuild storedBoot {} storedConfig_loaded []
  obtain ⟨current, durable, -, later⟩ := lost.2
  obtain rfl := Option.some.inj (durable.symm.trans (configDecode_encode _ _ storedConfig_encoded))
  exact ⟨refused.1 (by decide +kernel), by decide +kernel, by decide +kernel, later _⟩

end EspBase

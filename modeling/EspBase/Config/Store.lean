import EspBase.Config.RoundTrip
import EspBase.Shared.DurableCell

set_option autoImplicit false

namespace EspBase

open DurableCell

abbrev BlobCell := Cell (List UInt8)

-- An NVS call fails with a platform code; `NOT_FOUND` only comes from the cell itself.
abbrev NvsFault := Option Int

structure ConfigLoadFaults where
  initPartition : NvsFault := none
  openRead : NvsFault := none
  sizeQuery : NvsFault := none
  read : NvsFault := none
deriving DecidableEq

def remoteConfigLoad (faults : ConfigLoadFaults) (cell : BlobCell) : Except EspErr RemoteConfig :=
  match faults.initPartition with
  | some code => .error (.platform code)
  | none =>
    match cell.openRead faults.openRead with
    | .missing => .ok .zero
    | .failed code => .error (.platform code)
    | .found () =>
      match cell.get faults.sizeQuery with
      | .missing => .ok .zero
      | .failed code => .error (.platform code)
      | .found sized =>
        if sized.length < configHeaderBytes ∨ sized.length > configMaxBytes then .error .invalidState
        else
          match cell.get faults.read with
          | .missing => .ok .zero
          | .failed code => .error (.platform code)
          | .found bytes =>
            if bytes.length ≠ sized.length then .error .invalidState
            else
              match configDecode bytes with
              | some config => .ok config
              | none => .error .invalidState

structure ConfigCommitFaults where
  load : ConfigLoadFaults := {}
  openWrite : NvsFault := none
  write : WriteFaults Int := { set := none, commit := none, effective := true }
  readback : ConfigLoadFaults := {}
deriving DecidableEq

-- `commit_verified` from the opening for write on; any error after `set_blob` is uncertain.
def writeVerified (faults : ConfigCommitFaults) (bytes : List UInt8) (cell : BlobCell) :
    Except EspErr RemoteConfig × BlobCell :=
  match faults.openWrite with
  | some code => (.error (.platform code), cell)
  | none =>
    match cell.created.write faults.write bytes with
    | (some _, written) => (.error .configUncertain, written)
    | (none, written) =>
      match remoteConfigLoad faults.readback written with
      | .error _ => (.error .configUncertain, written)
      | .ok observed =>
        if configEncode observed = some bytes then (.ok observed, written)
        else (.error .configUncertain, written)

def remoteConfigCommitVerified (faults : ConfigCommitFaults) (candidate : RemoteConfig)
    (expectedRevision : UInt32) (cell : BlobCell) : Except EspErr RemoteConfig × BlobCell :=
  if !configValid candidate || candidate.revision != expectedRevision then
    (.error .invalidArg, cell)
  else
    match remoteConfigLoad faults.load cell with
    | .error error => (.error error, cell)
    | .ok stored =>
      if stored.revision ≠ expectedRevision then (.error .configConflict, cell)
      else if expectedRevision = 0xffffffff then (.error .configExhausted, cell)
      else
        match configEncode { candidate with revision := expectedRevision + 1 } with
        | none => (.error .invalidArg, cell)
        | some bytes => writeVerified faults bytes cell

-- What the durable blob means; a missing one is the default configuration.
def durableConfig (cell : BlobCell) : Option RemoteConfig :=
  match cell.value with
  | none => some .zero
  | some bytes => configDecode bytes

theorem durableConfig_congr (cell other : BlobCell) (same : cell.value = other.value) :
    durableConfig cell = durableConfig other := by
  rw [durableConfig, same, durableConfig]

theorem durableConfig_missing (cell : BlobCell) (missing : cell.value = none) :
    durableConfig cell = some .zero := by
  rw [durableConfig, missing]

theorem remoteConfigLoad_ok (faults : ConfigLoadFaults) (cell : BlobCell) (config : RemoteConfig)
    (loaded : remoteConfigLoad faults cell = .ok config) : durableConfig cell = some config := by
  unfold remoteConfigLoad at loaded
  split at loaded
  · cases loaded
  split at loaded
  next missing =>
    cases loaded
    exact durableConfig_missing _ (openRead_missing _ _ missing)
  next => cases loaded
  split at loaded
  next missing =>
    cases loaded
    exact durableConfig_missing _ (get_missing _ _ missing)
  next => cases loaded
  split at loaded
  · cases loaded
  split at loaded
  next missing =>
    cases loaded
    exact durableConfig_missing _ (get_missing _ _ missing)
  next => cases loaded
  next bytes found =>
    split at loaded
    · cases loaded
    split at loaded
    next decoded =>
      cases loaded
      rw [durableConfig, get_found _ _ _ found]
      exact decoded
    next => cases loaded

theorem remoteConfigLoad_encoded (config : RemoteConfig) (bytes : List UInt8) (encoded : configEncode config = some bytes)
    (sized : ¬(bytes.length < configHeaderBytes ∨ bytes.length > configMaxBytes)) :
    remoteConfigLoad {} (.holds bytes) = .ok config := by
  have decoded := configDecode_encode config bytes encoded
  simp only [remoteConfigLoad, Cell.openRead, Cell.get, sized, if_false, ne_eq, not_true_eq_false, decoded]

theorem remoteConfigLoad_error (faults : ConfigLoadFaults) (cell : BlobCell) (error : EspErr)
    (failed : remoteConfigLoad faults cell = .error error) : error ≠ .configUncertain := by
  rintro rfl
  unfold remoteConfigLoad at failed
  repeat' split at failed
  all_goals cases failed

theorem configEncode_injective (c d : RemoteConfig) (b : List UInt8)
    (first : configEncode c = some b) (second : configEncode d = some b) : c = d := by
  have decoded := configDecode_encode c b first
  rw [configDecode_encode d b second] at decoded
  exact (Option.some.inj decoded).symm

theorem writeVerified_cases (faults : ConfigCommitFaults) (next : RemoteConfig)
    (bytes : List UInt8) (encoded : configEncode next = some bytes) (cell : BlobCell) :
    (∃ code, writeVerified faults bytes cell = (.error (.platform code), cell)) ∨
      (∃ written, writeVerified faults bytes cell = (.ok next, written) ∧
        durableConfig written = some next) ∨
      (∃ written, writeVerified faults bytes cell = (.error .configUncertain, written) ∧
        (written.value = cell.value ∨ durableConfig written = some next)) := by
  unfold writeVerified
  split
  · exact .inl ⟨_, rfl⟩
  refine .inr ?_
  have either := write_value cell.created faults.write bytes
  have meaning (written : BlobCell) (error : Option Int)
      (wrote : cell.created.write faults.write bytes = (error, written)) :
      written.value = cell.value ∨ durableConfig written = some next := by
    rw [wrote] at either
    rcases either with held | kept
    · right
      rw [durableConfig, held]
      exact configDecode_encode next bytes encoded
    · left
      rw [kept, created_value]
  split
  next error written wrote => exact .inr ⟨written, rfl, meaning written _ wrote⟩
  next written wrote =>
    split
    · exact .inr ⟨written, rfl, meaning written _ wrote⟩
    next observed loaded =>
      split
      next same =>
        obtain rfl := configEncode_injective _ _ _ same encoded
        exact .inl ⟨written, rfl, remoteConfigLoad_ok _ _ _ loaded⟩
      next => exact .inr ⟨written, rfl, meaning written _ wrote⟩

theorem remoteConfigCommitVerified_cases (faults : ConfigCommitFaults) (candidate : RemoteConfig)
    (expected : UInt32) (cell : BlobCell) :
    (∃ error, error ≠ .configUncertain ∧
        remoteConfigCommitVerified faults candidate expected cell = (.error error, cell)) ∨
      (∃ stored, durableConfig cell = some stored ∧ stored.revision = expected ∧
        expected ≠ 0xffffffff ∧
        ((∃ written, remoteConfigCommitVerified faults candidate expected cell =
            (.ok { candidate with revision := expected + 1 }, written) ∧
            durableConfig written = some { candidate with revision := expected + 1 }) ∨
          (∃ written, remoteConfigCommitVerified faults candidate expected cell =
            (.error .configUncertain, written) ∧
            (written.value = cell.value ∨
              durableConfig written = some { candidate with revision := expected + 1 })))) := by
  unfold remoteConfigCommitVerified
  split
  · exact .inl ⟨.invalidArg, by decide, rfl⟩
  split
  next error failed => exact .inl ⟨error, remoteConfigLoad_error _ _ _ failed, rfl⟩
  next stored loaded =>
    split
    · exact .inl ⟨.configConflict, by decide, rfl⟩
    next same =>
      split
      · exact .inl ⟨.configExhausted, by decide, rfl⟩
      next room =>
        split
        · exact .inl ⟨.invalidArg, by decide, rfl⟩
        next bytes encoded =>
          rcases writeVerified_cases faults _ bytes encoded cell with refused | wrote
          · obtain ⟨code, refused⟩ := refused
            exact .inl ⟨.platform code, by simp, refused⟩
          · exact .inr ⟨stored, remoteConfigLoad_ok _ _ _ loaded, not_not.mp same, room, wrote⟩

theorem remoteConfigCommitVerified_faultless (candidate stored : RemoteConfig) (cell : BlobCell) (bytes : List UInt8)
    (valid : configValid candidate = true) (loaded : remoteConfigLoad {} cell = .ok stored)
    (current : stored.revision = candidate.revision) (room : candidate.revision ≠ 0xffffffff)
    (encoded : configEncode { candidate with revision := candidate.revision + 1 } = some bytes)
    (sized : ¬(bytes.length < configHeaderBytes ∨ bytes.length > configMaxBytes)) :
    remoteConfigCommitVerified {} candidate candidate.revision cell =
      (.ok { candidate with revision := candidate.revision + 1 }, .holds bytes) := by
  have reads := remoteConfigLoad_encoded _ bytes encoded sized
  unfold remoteConfigCommitVerified
  simp only [valid, loaded, current, encoded, bne_self_eq_false, Bool.not_true, Bool.or_self, Bool.false_eq_true,
    if_false, ne_eq, not_true_eq_false, room]
  unfold writeVerified
  simp only [Cell.write, Option.or_self, if_true, reads, encoded]

end EspBase

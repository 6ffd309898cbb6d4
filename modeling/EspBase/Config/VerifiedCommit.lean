import EspBase.Config.Bijection
import EspBase.Config.Store
import EspBase.Shared.Buffer
import EspBase.Shared.Run

set_option autoImplicit false

/-!
# `commit_verified` over its static buffers

The readback may be answered with anything; the other calls fail or tell the truth.
-/

namespace EspBase

open DurableCell Transition

def nvsInvalidLength : Int := 0x110c

structure LoadAnswers where
  initPartition : NvsFault
  openRead : Lookup Unit Int
  sizeQuery : Lookup Nat Int
  read : Lookup (List UInt8) Int
deriving DecidableEq

def blobSize : Lookup (List UInt8) Int → Lookup Nat Int
  | .found bytes => .found bytes.length
  | .missing => .missing
  | .failed code => .failed code

def honestAnswers (faults : ConfigLoadFaults) (cell : BlobCell) : LoadAnswers :=
  { initPartition := faults.initPartition
    openRead := cell.openRead faults.openRead
    sizeQuery := blobSize (cell.get faults.sizeQuery)
    read := cell.get faults.read }

-- The answers of a store that holds these bytes and does not fail.
def returning (bytes : List UInt8) : LoadAnswers :=
  { initPartition := none
    openRead := .found ()
    sizeQuery := .found bytes.length
    read := .found bytes }

structure ConfigMemory where
  loadBytes : Buffer configMaxBytes
  commitBytes : Buffer configMaxBytes
  readbackBytes : Buffer configMaxBytes
  work : RemoteConfig

def ConfigMemory.zero : ConfigMemory :=
  { loadBytes := .wiped, commitBytes := .wiped, readbackBytes := .wiped, work := .zero }

structure LoadOutcome where
  result : EspErr
  loadBytes : Buffer configMaxBytes
  config : RemoteConfig

def loadInto (answers : LoadAnswers) (loadBytes : Buffer configMaxBytes) (config : RemoteConfig) :
    LoadOutcome :=
  match answers.initPartition with
  | some code => { result := .platform code, loadBytes := loadBytes, config := config }
  | none =>
    match answers.openRead with
    | .missing => { result := .ok, loadBytes := loadBytes, config := .zero }
    | .failed code => { result := .platform code, loadBytes := loadBytes, config := config }
    | .found () =>
      match answers.sizeQuery with
      | .missing => { result := .ok, loadBytes := loadBytes, config := .zero }
      | .failed code => { result := .platform code, loadBytes := .wiped, config := config }
      | .found size =>
        if size < configHeaderBytes ∨ size > configMaxBytes then
          { result := .invalidState, loadBytes := .wiped, config := config }
        else
          match answers.read with
          | .missing => { result := .ok, loadBytes := loadBytes, config := .zero }
          | .failed code => { result := .platform code, loadBytes := .wiped, config := config }
          | .found bytes =>
            -- NVS itself refuses a blob longer than the length it is given.
            if bytes.length > size then
              { result := .platform nvsInvalidLength, loadBytes := .wiped, config := config }
            else if bytes.length ≠ size then
              { result := .invalidState, loadBytes := .wiped, config := config }
            else
              let decoded := configDecodeInto (((loadBytes.write 0 bytes).bytes).take size) config
              { result := if decoded.1 then .ok else .invalidState
                loadBytes := .wiped
                config := decoded.2 }

def espBaseRemoteConfigLoad (answers : LoadAnswers) (loadBytes : Buffer configMaxBytes) :
    Option RemoteConfig → EspErr × Buffer configMaxBytes × Option RemoteConfig
  | none => (.invalidArg, loadBytes, none)
  | some config =>
    let loaded := loadInto answers loadBytes config
    (loaded.result, loaded.loadBytes, some loaded.config)

inductive SetAnswer where
  | done
  | failedBefore (code : Int)
  | failedAfter (code : Int)
deriving DecidableEq

def setBlob (cell : BlobCell) (bytes : List UInt8) : SetAnswer → BlobCell
  | .failedBefore _ => cell
  | _ => .holds bytes

structure CommitAnswers where
  load : ConfigLoadFaults
  openWrite : NvsFault
  setBlob : SetAnswer
  commit : NvsFault
  readback : LoadAnswers

-- `attempted` is what `nvs_set_blob` was called with.
structure CommitOutcome where
  result : EspErr
  memory : ConfigMemory
  committed : Option RemoteConfig
  cell : BlobCell
  attempted : Option (List UInt8)

def ConfigMemory.done (memory : ConfigMemory) : ConfigMemory :=
  { memory with work := .zero, commitBytes := .wiped, readbackBytes := .wiped }

def setAndReadBack (answers : CommitAnswers) (size : Nat) (previous : RemoteConfig)
    (memory : ConfigMemory) (cell : BlobCell) : CommitOutcome :=
  let bytes := memory.commitBytes.bytes.take size
  let written := setBlob cell.created bytes answers.setBlob
  let uncertain (memory : ConfigMemory) : CommitOutcome :=
    ⟨.configUncertain, memory.done, some previous, written, some bytes⟩
  if answers.setBlob ≠ .done ∨ answers.commit.isSome then uncertain memory
  else
    let loaded := loadInto answers.readback memory.loadBytes memory.work
    let memory := { memory with loadBytes := loaded.loadBytes, work := loaded.config }
    if loaded.result ≠ .ok then uncertain memory
    else
      match configEncode memory.work with
      | none => uncertain memory
      | some again =>
        let memory := { memory with readbackBytes := memory.readbackBytes.write 0 again }
        if size ≠ again.length ∨
            memory.commitBytes.bytes.take size ≠ memory.readbackBytes.bytes.take size then
          uncertain memory
        else ⟨.ok, memory.done, some memory.work, written, some bytes⟩

def commitVerified (answers : CommitAnswers) (candidate : Option RemoteConfig)
    (expectedRevision : UInt32) (committed : Option RemoteConfig) (memory : ConfigMemory)
    (cell : BlobCell) : CommitOutcome :=
  match candidate, committed with
  | some value, some previous =>
    if !configValid value || value.revision != expectedRevision then
      ⟨.invalidArg, memory, committed, cell, none⟩
    else
      let loaded := loadInto (honestAnswers answers.load cell) memory.loadBytes memory.work
      let memory := { memory with loadBytes := loaded.loadBytes, work := loaded.config }
      if loaded.result ≠ .ok then ⟨loaded.result, memory.done, committed, cell, none⟩
      else if memory.work.revision ≠ expectedRevision then
        ⟨.configConflict, memory.done, committed, cell, none⟩
      else if expectedRevision = 0xffffffff then
        ⟨.configExhausted, memory.done, committed, cell, none⟩
      else
        let memory := { memory with work := { value with revision := expectedRevision + 1 } }
        match configEncode memory.work with
        | none => ⟨.invalidArg, memory.done, committed, cell, none⟩
        | some bytes =>
          let memory := { memory with commitBytes := memory.commitBytes.write 0 bytes }
          match answers.openWrite with
          | some code => ⟨.platform code, memory.done, committed, cell, none⟩
          | none => setAndReadBack answers bytes.length previous memory cell
  | _, _ => ⟨.invalidArg, memory, committed, cell, none⟩

-- What a load is told, whatever its buffer and object held.
def loadResult (answers : LoadAnswers) : Except EspErr RemoteConfig :=
  match answers.initPartition with
  | some code => .error (.platform code)
  | none =>
    match answers.openRead with
    | .missing => .ok .zero
    | .failed code => .error (.platform code)
    | .found () =>
      match answers.sizeQuery with
      | .missing => .ok .zero
      | .failed code => .error (.platform code)
      | .found size =>
        if size < configHeaderBytes ∨ size > configMaxBytes then .error .invalidState
        else
          match answers.read with
          | .missing => .ok .zero
          | .failed code => .error (.platform code)
          | .found bytes =>
            if bytes.length > size then .error (.platform nvsInvalidLength)
            else if bytes.length ≠ size then .error .invalidState
            else
              match configDecode bytes with
              | some config => .ok config
              | none => .error .invalidState

theorem loadInto_wiped (answers : LoadAnswers) (config : RemoteConfig) :
    loadInto answers .wiped config =
      match loadResult answers with
      | .ok loaded => { result := .ok, loadBytes := .wiped, config := loaded }
      | .error error => { result := error, loadBytes := .wiped, config := config } := by
  unfold loadInto loadResult
  cases answers.initPartition with
  | some code => rfl
  | none =>
    cases answers.openRead with
    | missing => rfl
    | failed code => rfl
    | found _ =>
      cases answers.sizeQuery with
      | missing => rfl
      | failed code => rfl
      | found size =>
        by_cases outside : size < configHeaderBytes ∨ size > configMaxBytes
        · simp only [if_pos outside]
        simp only [if_neg outside]
        cases answers.read with
        | missing => rfl
        | failed code => rfl
        | found bytes =>
          by_cases longer : bytes.length > size
          · simp only [if_pos longer]
          by_cases other : bytes.length ≠ size
          · simp only [if_neg longer, if_pos other]
          have whole : bytes.length = size := not_not.mp other
          have kept : ((Buffer.wiped.write 0 bytes : Buffer configMaxBytes).bytes).take size = bytes := by
            have room : bytes.length ≤ configMaxBytes := by omega
            rw [Buffer.write_front size room (by omega), List.take_of_length_le (by omega)]
          simp only [if_neg longer, if_neg other, kept, configDecodeInto_eq]
          cases configDecode bytes <;> rfl

theorem loadResult_honest (faults : ConfigLoadFaults) (cell : BlobCell) :
    loadResult (honestAnswers faults cell) = remoteConfigLoad faults cell := by
  unfold loadResult remoteConfigLoad honestAnswers
  cases faults.initPartition with
  | some code => rfl
  | none =>
    cases cell.openRead faults.openRead with
    | missing => rfl
    | failed code => rfl
    | found _ =>
      cases sized : cell.get faults.sizeQuery with
      | missing => rfl
      | failed code => rfl
      | found bytes =>
        simp only [blobSize]
        by_cases outside : bytes.length < configHeaderBytes ∨ bytes.length > configMaxBytes
        · simp only [if_pos outside]
        simp only [if_neg outside]
        cases again : cell.get faults.read with
        | missing => rfl
        | failed code => rfl
        | found more =>
          have same : more = bytes :=
            Option.some.inj ((get_found _ _ _ again).symm.trans (get_found _ _ _ sized))
          subst same
          cases decoded : configDecode more <;> simp [decoded]

theorem loadResult_error (answers : LoadAnswers) (error : EspErr)
    (failed : loadResult answers = .error error) : error ≠ .ok ∧ error ≠ .configUncertain := by
  unfold loadResult at failed
  repeat' split at failed
  all_goals cases failed
  all_goals simp

theorem loadResult_returning (config : RemoteConfig) (bytes : List UInt8)
    (encoded : configEncode config = some bytes) : loadResult (returning bytes) = .ok config := by
  have decoded := configDecode_encode config bytes encoded
  have inside := configEncode_length config bytes encoded
  obtain ⟨accepted, -⟩ := configDecode_accepted bytes config decoded
  have least := accepted.header.least
  have within : ¬(bytes.length < configHeaderBytes ∨ bytes.length > configMaxBytes) := by omega
  simp [loadResult, returning, within, decoded]

theorem loadResult_ok (answers : LoadAnswers) (config : RemoteConfig)
    (loaded : loadResult answers = .ok config) :
    config = .zero ∨ ∃ bytes, answers = returning bytes ∧ configDecode bytes = some config := by
  obtain ⟨initPartition, openRead, sizeQuery, read⟩ := answers
  unfold loadResult at loaded
  repeat' split at loaded
  all_goals first | (cases loaded; exact .inl rfl) | cases loaded
  next _ started _ opened _ size sized _ _ bytes answered _ whole _ decoded =>
    simp only [not_not] at started opened sized answered whole
    subst started opened sized answered whole
    exact .inr ⟨bytes, rfl, decoded⟩

theorem readback_iff (config : RemoteConfig) (bytes : List UInt8) (answers : LoadAnswers)
    (encoded : configEncode config = some bytes) (numbered : config.revision ≠ 0) :
    (∃ observed, loadResult answers = .ok observed ∧ configEncode observed = some bytes) ↔
      answers = returning bytes := by
  constructor
  · intro ⟨observed, loaded, again⟩
    have same := configEncode_injective observed config bytes again encoded
    rcases loadResult_ok answers observed loaded with empty | ⟨found, answered, decoded⟩
    · exact absurd (by rw [← same, empty]; rfl) numbered
    · have written := (configEncode_decode found observed decoded).2
      rw [again] at written
      rw [answered, Option.some.inj written]
  · intro answered
    subst answered
    exact ⟨config, loadResult_returning config bytes encoded, encoded⟩

def WriteProven (answers : CommitAnswers) (bytes : List UInt8) : Prop :=
  answers.setBlob = .done ∧ answers.commit = none ∧ answers.readback = returning bytes

instance (answers : CommitAnswers) (bytes : List UInt8) : Decidable (WriteProven answers bytes) :=
  inferInstanceAs (Decidable (_ ∧ _ ∧ _))

theorem done_zero (memory : ConfigMemory) (wiped : memory.loadBytes = .wiped) :
    memory.done = .zero := by
  simp [ConfigMemory.done, ConfigMemory.zero, wiped]

theorem buffer_front (buffer : Buffer configMaxBytes) (bytes : List UInt8)
    (room : bytes.length ≤ configMaxBytes) :
    ((buffer.write 0 bytes).bytes).take bytes.length = bytes := by
  rw [Buffer.write_front _ room le_rfl, List.take_length]

theorem setAndReadBack_outcome (answers : CommitAnswers) (previous next : RemoteConfig)
    (bytes : List UInt8) (memory : ConfigMemory) (cell : BlobCell)
    (wiped : memory.loadBytes = .wiped)
    (filled : memory.commitBytes.bytes.take bytes.length = bytes)
    (encoded : configEncode next = some bytes) (numbered : next.revision ≠ 0) :
    setAndReadBack answers bytes.length previous memory cell =
      if WriteProven answers bytes then
        ⟨.ok, .zero, some next, .holds bytes, some bytes⟩
      else
        ⟨.configUncertain, .zero, some previous, setBlob cell.created bytes answers.setBlob,
          some bytes⟩ := by
  have proof := readback_iff next bytes answers.readback encoded numbered
  unfold setAndReadBack
  simp only [wiped, filled, loadInto_wiped]
  by_cases failed : answers.setBlob ≠ .done ∨ answers.commit.isSome
  · have unproven : ¬WriteProven answers bytes := by
      intro ⟨done, committed, _⟩
      simp [done, committed] at failed
    rw [if_pos failed, if_neg unproven, done_zero memory wiped]
  have accepted : answers.setBlob = .done ∧ answers.commit = none := by
    simpa using failed
  have stored : setBlob cell.created bytes answers.setBlob = .holds bytes := by
    rw [accepted.1, setBlob]
    simp
  have proven : WriteProven answers bytes ↔
      ∃ observed, loadResult answers.readback = .ok observed ∧ configEncode observed = some bytes := by
    rw [proof]
    simp [WriteProven, accepted]
  rw [if_neg failed]
  cases loaded : loadResult answers.readback with
  | error error =>
    have refused := (loadResult_error _ _ loaded).1
    have unproven : ¬WriteProven answers bytes := by simp [proven, loaded]
    simp [refused, unproven, ConfigMemory.done, ConfigMemory.zero]
  | ok observed =>
    cases again : configEncode observed with
    | none =>
      have unproven : ¬WriteProven answers bytes := by simp [proven, loaded, again]
      simp [unproven, ConfigMemory.done, ConfigMemory.zero]
    | some read =>
      have kept := buffer_front memory.readbackBytes read (configEncode_length observed read again).2
      by_cases same : read = bytes
      · subst same
        have unchanged := configEncode_injective observed next read again encoded
        have shown : WriteProven answers read := by simp [proven, loaded, again]
        simp [kept, unchanged, shown, stored, ConfigMemory.done, ConfigMemory.zero]
      · have differ : bytes.length ≠ read.length ∨
            bytes ≠ (memory.readbackBytes.write 0 read).bytes.take bytes.length := by
          by_cases lengths : bytes.length = read.length
          · rw [lengths, kept]
            exact .inr (Ne.symm same)
          · exact .inl lengths
        have unproven : ¬WriteProven answers bytes := by simp [proven, loaded, again, same]
        simp [differ, unproven, ConfigMemory.done, ConfigMemory.zero]

theorem next_revision (expected : UInt32) (room : expected ≠ 0xffffffff) : expected + 1 ≠ 0 := by
  intro wrapped
  apply room
  have bits := congrArg UInt32.toNat wrapped
  have bound := expected.toNat_lt
  rw [UInt32.toNat_add] at bits
  simp only [UInt32.reduceToNat] at bits
  apply UInt32.toNat.inj
  simp only [UInt32.reduceToNat]
  omega

theorem commitVerified_cases (answers : CommitAnswers) (candidate : Option RemoteConfig)
    (expected : UInt32) (committed : Option RemoteConfig) (cell : BlobCell) :
    (∃ error, error ≠ .ok ∧ error ≠ .configUncertain ∧
        commitVerified answers candidate expected committed .zero cell =
          ⟨error, .zero, committed, cell, none⟩) ∨
      (∃ value previous stored bytes, candidate = some value ∧ committed = some previous ∧
        durableConfig cell = some stored ∧ stored.revision = expected ∧ expected ≠ 0xffffffff ∧
        configEncode { value with revision := expected + 1 } = some bytes ∧
        commitVerified answers candidate expected committed .zero cell =
          if WriteProven answers bytes then
            ⟨.ok, .zero, some { value with revision := expected + 1 }, .holds bytes, some bytes⟩
          else
            ⟨.configUncertain, .zero, some previous, setBlob cell.created bytes answers.setBlob,
              some bytes⟩) := by
  cases candidate with
  | none => exact .inl ⟨.invalidArg, by decide, by decide, rfl⟩
  | some value =>
    cases committed with
    | none => exact .inl ⟨.invalidArg, by decide, by decide, rfl⟩
    | some previous =>
      unfold commitVerified
      simp only [ConfigMemory.zero, loadInto_wiped, loadResult_honest]
      split
      · exact .inl ⟨.invalidArg, by decide, by decide, rfl⟩
      cases loaded : remoteConfigLoad answers.load cell with
      | error error =>
        have failed := loadResult_error _ error ((loadResult_honest answers.load cell).trans loaded)
        refine .inl ⟨error, failed.1, failed.2, ?_⟩
        simp [failed.1, ConfigMemory.done]
      | ok stored =>
        simp only [ne_eq, not_true_eq_false, if_false]
        split
        · exact .inl ⟨.configConflict, by decide, by decide, rfl⟩
        next same =>
          split
          · exact .inl ⟨.configExhausted, by decide, by decide, rfl⟩
          next room =>
            split
            · exact .inl ⟨.invalidArg, by decide, by decide, rfl⟩
            next bytes encoded =>
              split
              next code _ => exact .inl ⟨.platform code, by simp, by simp, rfl⟩
              next =>
                have known := remoteConfigLoad_ok _ _ _ loaded
                have filled := buffer_front .wiped bytes (configEncode_length _ bytes encoded).2
                refine .inr ⟨value, previous, stored, bytes, rfl, rfl, known, not_not.mp same, room,
                  encoded, ?_⟩
                exact setAndReadBack_outcome answers previous _ bytes _ cell rfl filled encoded
                  (next_revision expected room)

def ConfigCommitFaults.setAnswer (faults : ConfigCommitFaults) : SetAnswer :=
  match faults.write.set with
  | none => .done
  | some code => if faults.write.effective then .failedAfter code else .failedBefore code

-- The answers of a store that fails as told and reads back what it holds.
def ConfigCommitFaults.answers (faults : ConfigCommitFaults) (bytes : List UInt8) (cell : BlobCell) :
    CommitAnswers :=
  { load := faults.load
    openWrite := faults.openWrite
    setBlob := faults.setAnswer
    commit := faults.write.commit
    readback := honestAnswers faults.readback (setBlob cell.created bytes faults.setAnswer) }

theorem setBlob_written (faults : ConfigCommitFaults) (bytes : List UInt8) (cell : BlobCell)
    (effective : faults.write.set = none → faults.write.effective = true) :
    setBlob cell.created bytes faults.setAnswer = (cell.created.write faults.write bytes).2 := by
  unfold ConfigCommitFaults.setAnswer Cell.write
  cases answered : faults.write.set with
  | none => simp [setBlob, effective answered]
  | some code => cases faults.write.effective <;> rfl

theorem setAnswer_done (faults : ConfigCommitFaults) :
    faults.setAnswer = .done ↔ faults.write.set = none := by
  unfold ConfigCommitFaults.setAnswer
  cases faults.write.set with
  | none => simp
  | some code => cases faults.write.effective <;> simp

theorem writeVerified_model (faults : ConfigCommitFaults) (next : RemoteConfig) (bytes : List UInt8)
    (cell : BlobCell) (effective : faults.write.set = none → faults.write.effective = true)
    (encoded : configEncode next = some bytes) (numbered : next.revision ≠ 0)
    (opened : faults.openWrite = none) :
    writeVerified faults bytes cell =
      if WriteProven (faults.answers bytes cell) bytes then (.ok next, .holds bytes)
      else (.error .configUncertain, setBlob cell.created bytes faults.setAnswer) := by
  have proof := readback_iff next bytes (faults.answers bytes cell).readback encoded numbered
  have written := setBlob_written faults bytes cell effective
  have proven : WriteProven (faults.answers bytes cell) bytes ↔
      faults.write.set = none ∧ faults.write.commit = none ∧
        ∃ observed, remoteConfigLoad faults.readback (cell.created.write faults.write bytes).2 = .ok observed ∧
          configEncode observed = some bytes := by
    rw [WriteProven, ← proof, ← written, ← loadResult_honest, ← setAnswer_done]
    rfl
  unfold writeVerified
  rw [opened]
  cases set : faults.write.set with
  | some code => simp [proven, set, written, Cell.write]
  | none =>
    cases commit : faults.write.commit with
    | some code => simp [proven, set, commit, written, Cell.write]
    | none =>
      have held : (cell.created.write faults.write bytes).2 = .holds bytes := by
        simp [Cell.write, effective set]
      have pair : cell.created.write faults.write bytes = (none, .holds bytes) := by
        simp [Cell.write, effective set, set, commit]
      simp only [pair, written]
      rw [held] at proven
      cases loaded : remoteConfigLoad faults.readback (.holds bytes) with
      | error error =>
        have unproven : ¬WriteProven (faults.answers bytes cell) bytes := by simp [proven, loaded]
        rw [if_neg unproven]
      | ok observed =>
        by_cases same : configEncode observed = some bytes
        · have shown : WriteProven (faults.answers bytes cell) bytes := by
            simp [proven, loaded, set, commit, same]
          rw [if_pos shown]
          simp [configEncode_injective observed next bytes same encoded, encoded]
        · have unproven : ¬WriteProven (faults.answers bytes cell) bytes := by
            simp [proven, loaded, same]
          rw [if_neg unproven]
          simp only [if_neg same]

theorem commitVerified_model (faults : ConfigCommitFaults) (candidate previous : RemoteConfig)
    (expected : UInt32) (cell : BlobCell)
    (effective : faults.write.set = none → faults.write.effective = true) :
    let bytes := (configEncode { candidate with revision := expected + 1 }).getD []
    let outcome := commitVerified (faults.answers bytes cell) (some candidate) expected (some previous)
      .zero cell
    let model := remoteConfigCommitVerified faults candidate expected cell
    outcome.cell = model.2 ∧
      (outcome.result, outcome.committed) =
        match model.1 with
        | .ok config => (.ok, some config)
        | .error error => (error, some previous) := by
  intro bytes outcome model
  simp only [outcome, model, commitVerified, remoteConfigCommitVerified, ConfigMemory.zero,
    loadInto_wiped, loadResult_honest]
  by_cases refused : (!configValid candidate || candidate.revision != expected) = true
  · simp only [if_pos refused, and_self]
  simp only [if_neg refused]
  have kept : (faults.answers bytes cell).load = faults.load := rfl
  rw [kept]
  cases loaded : remoteConfigLoad faults.load cell with
  | error error =>
    have failed := loadResult_error _ error ((loadResult_honest faults.load cell).trans loaded)
    simp [failed.1]
  | ok stored =>
    simp only [ne_eq, not_true_eq_false, if_false]
    by_cases differs : ¬stored.revision = expected
    · simp only [if_pos differs, and_self]
    by_cases exhausted : expected = 0xffffffff
    · simp only [if_neg differs, if_pos exhausted, and_self]
    simp only [if_neg differs, if_neg exhausted]
    cases encoded : configEncode { candidate with revision := expected + 1 } with
    | none => simp
    | some written =>
      have named : bytes = written := by simp [bytes, encoded]
      rw [named]
      cases opened : faults.openWrite with
      | some code => simp [ConfigCommitFaults.answers, writeVerified, opened]
      | none =>
        have filled := buffer_front .wiped written (configEncode_length _ written encoded).2
        have numbered := next_revision expected exhausted
        have opens : (faults.answers written cell).openWrite = none := opened
        simp only [opens]
        rw [setAndReadBack_outcome (faults.answers written cell) previous _ written _ cell rfl filled
          encoded numbered,
          writeVerified_model faults _ written cell effective encoded numbered opened]
        by_cases proven : WriteProven (faults.answers written cell) written
        · simp only [if_pos proven, and_self]
        · simp only [if_neg proven]
          exact ⟨rfl, trivial⟩

structure CommitAtomic (answers : CommitAnswers) (candidate : Option RemoteConfig)
    (expected : UInt32) (committed : Option RemoteConfig) (stored : BlobCell)
    (outcome : CommitOutcome) : Prop where
  accepted : outcome.result = .ok →
    ∃ value bytes, candidate = some value ∧
      configEncode { value with revision := expected + 1 } = some bytes ∧
      outcome.cell = .holds bytes ∧
      outcome.committed = some { value with revision := expected + 1 }
  uncertain : outcome.result = .configUncertain ↔
    ∃ bytes, outcome.attempted = some bytes ∧ ¬WriteProven answers bytes
  unchanged : outcome.result ≠ .ok → outcome.result ≠ .configUncertain → outcome.cell = stored
  untouched : outcome.result ≠ .ok → outcome.committed = committed
  guarded : (∀ config, durableConfig stored = some config → config.revision ≠ expected) ∨
    expected = 0xffffffff → outcome.attempted = none ∧ outcome.cell = stored
  wiped : outcome.memory = .zero

theorem commitVerified_atomic (answers : CommitAnswers) (candidate : Option RemoteConfig)
    (expected : UInt32) (committed : Option RemoteConfig) (cell : BlobCell) :
    CommitAtomic answers candidate expected committed cell
      (commitVerified answers candidate expected committed .zero cell) := by
  rcases commitVerified_cases answers candidate expected committed cell with refused | written
  · obtain ⟨error, failed, certain, same⟩ := refused
    rw [same]
    constructor <;> simp [failed, certain]
  · obtain ⟨value, previous, stored, bytes, given, kept, known, current, room, encoded, same⟩ := written
    rw [same]
    have unguarded : ¬((∀ config, durableConfig cell = some config → config.revision ≠ expected) ∨
        expected = 0xffffffff) := by
      intro guarded
      rcases guarded with differs | exhausted
      · exact differs stored known current
      · exact room exhausted
    by_cases proven : WriteProven answers bytes
    · rw [if_pos proven]
      exact
        { accepted := fun _ => ⟨value, bytes, given, encoded, rfl, rfl⟩
          uncertain := by simp [proven]
          unchanged := by simp
          untouched := by simp
          guarded := fun guarded => absurd guarded unguarded
          wiped := rfl }
    · rw [if_neg proven]
      exact
        { accepted := by simp
          uncertain := by simp [proven]
          unchanged := by simp
          untouched := fun _ => kept.symm
          guarded := fun guarded => absurd guarded unguarded
          wiped := rfl }

inductive ConfigCall where
  | load (faults : ConfigLoadFaults) (config : Option RemoteConfig)
  | commit (answers : CommitAnswers) (candidate : Option RemoteConfig) (expected : UInt32)
      (committed : Option RemoteConfig)

structure ConfigDevice where
  memory : ConfigMemory
  cell : BlobCell

def configStep : ConfigCall → ConfigDevice → ConfigDevice
  | .load faults config, device =>
    let loaded := espBaseRemoteConfigLoad (honestAnswers faults device.cell) device.memory.loadBytes config
    { device with memory := { device.memory with loadBytes := loaded.2.1 } }
  | .commit answers candidate expected committed, device =>
    let outcome := commitVerified answers candidate expected committed device.memory device.cell
    { memory := outcome.memory, cell := outcome.cell }

theorem configStep_wiped (call : ConfigCall) (device : ConfigDevice)
    (wiped : device.memory = .zero) : (configStep call device).memory = .zero := by
  cases call with
  | load faults config =>
    cases config with
    | none => exact wiped
    | some config =>
      simp only [configStep, espBaseRemoteConfigLoad, wiped, ConfigMemory.zero, loadInto_wiped]
      cases loadResult (honestAnswers faults device.cell) <;> rfl
  | commit answers candidate expected committed =>
    rw [configStep, wiped]
    exact (commitVerified_atomic answers candidate expected committed device.cell).wiped

theorem config_commits_atomic (calls : List ConfigCall) (start : BlobCell) (answers : CommitAnswers)
    (candidate : Option RemoteConfig) (expected : UInt32) (committed : Option RemoteConfig) :
    let device := run configStep calls { memory := .zero, cell := start }
    CommitAtomic answers candidate expected committed device.cell
      (commitVerified answers candidate expected committed device.memory device.cell) := by
  intro device
  have wiped : device.memory = .zero :=
    @run_invariant _ _ _ (fun device : ConfigDevice => device.memory = .zero) configStep_wiped calls _ rfl
  rw [wiped]
  exact commitVerified_atomic answers candidate expected committed device.cell

end EspBase

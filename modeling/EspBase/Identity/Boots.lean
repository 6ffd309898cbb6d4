import EspBase.Identity.Uuid
import EspBase.Shared.DurableCell
import EspBase.Shared.Run

set_option autoImplicit false

namespace EspBase

open DurableCell Transition

-- What is stored under the key; a blob or a number is not read as a string.
inductive StoredIdentity where
  | string (value : CString)
  | otherType (code : Nat)
deriving DecidableEq

abbrev IdentityCell := Cell StoredIdentity

-- An error code that a call returns in place of `ESP_OK`.
abbrev NvsFailure := { error : EspErr // error ≠ .ok }

def espErrNvsTypeMismatch : EspErr := .platform 0x1103
def espErrNvsInvalidLength : EspErr := .platform 0x110c

def nvsGetStr (cell : IdentityCell) (fault : Option NvsFailure) (outputSize : Nat) : Except EspErr CString :=
  match cell.get fault with
  | .failed error => .error error.val
  | .missing => .error .nvsNotFound
  | .found (.otherType _) => .error espErrNvsTypeMismatch
  | .found (.string value) =>
    if value.bytes.length + 1 > outputSize then .error espErrNvsInvalidLength else .ok value

structure BootAnswers where
  openWrite : Option NvsFailure
  read : Option NvsFailure
  random : Vector UInt8 16
  write : WriteFaults NvsFailure

def loadOrCreateDeviceId (outputSize : Nat) (a : BootAnswers) (cell : IdentityCell) :
    Except EspErr CString × IdentityCell :=
  match a.openWrite with
  | some error => (.error error.val, cell)
  | none =>
    let cell := cell.created
    match nvsGetStr cell a.read outputSize with
    | .ok value => (if isUuidV4 value then .ok value else .error .invalidState, cell)
    | .error error =>
      if error ≠ .nvsNotFound then (.error error, cell)
      else
        match espBaseIdentityGenerateUuid outputSize a.random with
        | .error error => (.error error, cell)
        | .ok generated =>
          let written := cell.write a.write (.string generated)
          match written.1 with
          | some error => (.error error.val, written.2)
          | none => (.ok generated, written.2)

structure BootHistory where
  cell : IdentityCell
  results : List (Except EspErr CString)

def bootStep (outputSize : Nat) (a : BootAnswers) (s : BootHistory) : BootHistory :=
  let booted := loadOrCreateDeviceId outputSize a s.cell
  { cell := booted.2, results := s.results ++ [booted.1] }

/-- What is relied on of the store: nothing is reported missing that is there, and what was set and
committed is stored. -/
structure Reliable (a : BootAnswers) (s : BootHistory) : Prop where
  missing : a.read.map Subtype.val = some .nvsNotFound → s.cell.value = none
  durable : a.write.set = none → a.write.commit = none → a.write.effective = true

theorem nvsGetStr_ok (cell : IdentityCell) (fault : Option NvsFailure) (outputSize : Nat) (value : CString)
    (read : nvsGetStr cell fault outputSize = .ok value) : cell.value = some (.string value) := by
  unfold nvsGetStr at read
  split at read
  · cases read
  · cases read
  · cases read
  next found =>
    split at read
    · cases read
    · cases read
      exact get_found cell fault _ found

theorem nvsGetStr_missing (cell : IdentityCell) (fault : Option NvsFailure) (outputSize : Nat)
    (missing : nvsGetStr cell fault outputSize = .error .nvsNotFound) :
    fault.map Subtype.val = some .nvsNotFound ∨ cell.value = none := by
  unfold nvsGetStr at missing
  split at missing
  next error failed =>
    left
    cases fault with
    | none => cases cell <;> cases failed
    | some fault =>
      cases failed
      exact congrArg some (Except.error.inj missing)
  next nothing => exact .inr (get_missing cell fault nothing)
  next => cases missing
  next =>
    split at missing
    · cases missing
    · cases missing

theorem boot_keeps (outputSize : Nat) (a : BootAnswers) (s : BootHistory) (reliable : Reliable a s) :
    (∀ value, s.cell.value = some value → (loadOrCreateDeviceId outputSize a s.cell).2.value = some value) ∧
      ∀ id, (loadOrCreateDeviceId outputSize a s.cell).1 = .ok id →
        (loadOrCreateDeviceId outputSize a s.cell).2.value = some (.string id) ∧ Canonical id := by
  unfold loadOrCreateDeviceId
  dsimp only
  split
  · exact ⟨fun value held => held, nofun⟩
  split
  next value read =>
    have stored := nvsGetStr_ok _ _ _ _ read
    refine ⟨fun other held => by rwa [created_value], fun id returned => ?_⟩
    split at returned
    next uuid =>
      cases returned
      exact ⟨stored, (isUuidV4_canonical _).mp uuid⟩
    next => cases returned
  next error read =>
    split
    · exact ⟨fun other held => by rwa [created_value], nofun⟩
    next missing =>
      obtain rfl := not_not.mp missing
      have empty : s.cell.value = none := by
        rcases nvsGetStr_missing _ _ _ read with reported | nothing
        · exact reliable.missing reported
        · rwa [created_value] at nothing
      have vacuous (value : StoredIdentity) (held : s.cell.value = some value) : False := by
        rw [empty] at held
        cases held
      split
      · exact ⟨fun value held => absurd held (vacuous value), nofun⟩
      next generated made =>
        split
        · exact ⟨fun value held => absurd held (vacuous value), nofun⟩
        next quiet =>
          refine ⟨fun value held => absurd held (vacuous value), fun id returned => ?_⟩
          cases returned
          obtain ⟨set, commit⟩ := Option.or_eq_none_iff.mp quiet
          have effective := reliable.durable set commit
          have room : deviceIdLength ≤ outputSize := by
            by_contra short
            rw [espBaseIdentityGenerateUuid, if_pos (not_le.mp short)] at made
            cases made
          obtain ⟨value, same, -, canonical⟩ := generated_canonical a.random outputSize room
          rw [made] at same
          cases same
          exact ⟨by simp [Cell.write, effective, Cell.value], canonical⟩

structure OneIdentity (s : BootHistory) : Prop where
  stored : ∀ id, .ok id ∈ s.results → s.cell.value = some (.string id) ∧ Canonical id

theorem bootStep_one (outputSize : Nat) (a : BootAnswers) (s : BootHistory) (reliable : Reliable a s)
    (one : OneIdentity s) : OneIdentity (bootStep outputSize a s) := by
  obtain ⟨kept, returned⟩ := boot_keeps outputSize a s reliable
  constructor
  intro id member
  rcases List.mem_append.mp member with earlier | now
  · obtain ⟨held, canonical⟩ := one.stored id earlier
    exact ⟨kept _ held, canonical⟩
  · exact returned id (List.mem_singleton.mp now).symm

theorem boots_one (outputSize : Nat) (boots : List BootAnswers) (s : BootHistory)
    (reliable : Along (bootStep outputSize) Reliable boots s) (one : OneIdentity s) :
    OneIdentity (run (bootStep outputSize) boots s) :=
  run_invariant_along (bootStep_one outputSize) boots s reliable one

theorem boots_kept (outputSize : Nat) (boots : List BootAnswers) (s : BootHistory) (value : StoredIdentity)
    (reliable : Along (bootStep outputSize) Reliable boots s) (held : s.cell.value = some value) :
    (run (bootStep outputSize) boots s).cell.value = some value :=
  @run_invariant_along _ _ (bootStep outputSize) (fun t => t.cell.value = some value) Reliable
    (fun a t sound stored => (boot_keeps outputSize a t sound).1 value stored) boots s reliable held

/-- The identity over every sequence of boots of a device with any key stored or none. -/
theorem identity_stable (outputSize : Nat) (cell : IdentityCell) (boots : List BootAnswers)
    (reliable : Along (bootStep outputSize) Reliable boots { cell, results := [] }) :
    let history := run (bootStep outputSize) boots { cell, results := [] }
    (∀ first second, .ok first ∈ history.results → .ok second ∈ history.results → first = second) ∧
      (∀ id, .ok id ∈ history.results → isUuid id = true) ∧
      ∀ earlier later value, boots = earlier ++ later →
        (run (bootStep outputSize) earlier { cell, results := [] }).cell.value = some value →
        history.cell.value = some value := by
  intro history
  have one := boots_one outputSize boots { cell, results := [] } reliable ⟨fun id none => nomatch none⟩
  refine ⟨fun first second returned again => ?_, fun id returned => ?_, ?_⟩
  · have stored := (one.stored first returned).1
    rw [(one.stored second again).1] at stored
    cases stored
    rfl
  · exact (isUuid_canonical id).mpr (one.stored id returned).2
  · rintro earlier later value rfl held
    have rest := ((along_append (bootStep outputSize) earlier later _).mp reliable).2
    have kept := boots_kept outputSize later _ value rest held
    rwa [← run_append] at kept

-- The first commit fails after the identity was stored; the second boot reads it.
def commitFailedBoots : List BootAnswers :=
  [{ openWrite := none
     read := none
     random := Vector.replicate 16 0xa5
     write := { set := none, commit := some ⟨.noMem, by decide⟩, effective := true } },
    { openWrite := none
      read := none
      random := Vector.replicate 16 0x5a
      write := { set := none, commit := none, effective := true } }]

def firstIdentity : CString := .ofBytes (uuidText (stamped (Vector.replicate 16 0xa5).toList))

theorem identity_stable_commitFailed :
    (run (bootStep deviceIdLength) commitFailedBoots { cell := .absent, results := [] }).results =
        [.error .noMem, .ok firstIdentity] ∧
      isUuid firstIdentity = true := by
  have results : (run (bootStep deviceIdLength) commitFailedBoots { cell := .absent, results := [] }).results =
      [.error .noMem, .ok firstIdentity] := by rfl
  have reliable : Along (bootStep deviceIdLength) Reliable commitFailedBoots { cell := .absent, results := [] } :=
    ⟨⟨nofun, nofun⟩, ⟨nofun, fun _ _ => rfl⟩, trivial⟩
  have stable := identity_stable deviceIdLength .absent commitFailedBoots reliable
  exact ⟨results, stable.2.1 firstIdentity (by rw [results]; exact .tail _ (.head _))⟩

end EspBase

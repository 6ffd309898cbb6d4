import EspBase.Ota.Library

set_option autoImplicit false

namespace EspBase

-- What `eota_sha256_verified_image` answers; only an invalid image is told from other failures.
inductive EotaImage where
  | verified (imageSizeBytes : UInt32) (sha256 : Digest)
  | imageInvalid
  | failed (code : Nat)
deriving DecidableEq

structure AppPartition where
  type : UInt8
  subtype : UInt8
  address : UInt32
  size : UInt32
deriving DecidableEq

structure ImageHeader where
  magic : UInt8
  chipId : UInt16
deriving DecidableEq

structure AppDescription where
  magicWord : UInt32
  projectName : Vector UInt8 32
deriving DecidableEq

-- What the partition table and the image in one partition answer; `none` is an error.
structure ImageAnswers where
  partition : Option AppPartition
  header : Option ImageHeader
  description : Option AppDescription
deriving DecidableEq

structure FirmwareAnswers where
  available : Bool
  before : EotaResult × EotaSlots
  rollbackBefore : Bool
  runningImage : UInt8 → EotaImage
  runningProduct : UInt8 → ImageAnswers
  targetImage : UInt8 → EotaImage
  targetProduct : UInt8 → ImageAnswers
  after : EotaResult × EotaSlots
  rollbackAfter : Bool

inductive FirmwareResult where
  | ok
  | unsupported
  | invalidArgument
  | uncertain
deriving DecidableEq, Repr

structure FirmwareSet where
  bootableCount : UInt8
  bootable : Vector Digest 2
  running : Digest
deriving DecidableEq

def FirmwareSet.zero : FirmwareSet :=
  { bootableCount := 0, bootable := Vector.replicate 2 zeroDigest, running := zeroDigest }

-- `esp_base_ota_policy`
def policyProjectName : List UInt8 := bytesOf "esp_base"
def policyChipId : UInt16 := 0x0005

def partitionTypeApp : UInt8 := 0
def imageHeaderMagic : UInt8 := 0xe9
def appDescMagicWord : UInt32 := 0xabcd5432

def sameSlots (first second : EotaSlots) : Bool :=
  first.runningSubtype == second.runningSubtype && first.bootSubtype == second.bootSubtype &&
    first.targetSubtype == second.targetSubtype &&
    first.runningAddressBytes == second.runningAddressBytes &&
    first.bootAddressBytes == second.bootAddressBytes &&
    first.targetAddressBytes == second.targetAddressBytes &&
    first.runningSizeBytes == second.runningSizeBytes && first.bootSizeBytes == second.bootSizeBytes &&
    first.targetSizeBytes == second.targetSizeBytes && first.runningState == second.runningState &&
    first.targetState == second.targetState

-- The bytes or-ed together.
def zeroDigestBytes (digest : Digest) : Bool := digest.toList.foldl (· ||| ·) 0 == 0

def matchingBaseImage (a : ImageAnswers) (subtype : UInt8) (address size : UInt32) : Bool :=
  match a.partition with
  | none => false
  | some partition =>
    if partition.type ≠ partitionTypeApp ∨ partition.subtype ≠ subtype ∨ partition.address ≠ address ∨
        partition.size ≠ size then false
    else
      match a.header, a.description with
      | some header, some description =>
        header.magic == imageHeaderMagic && header.chipId == policyChipId &&
          description.magicWord == appDescMagicWord &&
          (CString.ofBytes description.projectName.toList).bytes == policyProjectName
      | _, _ => false

def verifiedBaseImage (image : EotaImage) (product : ImageAnswers) (subtype : UInt8)
    (address size : UInt32) : Option Digest :=
  match image with
  | .verified imageSizeBytes sha256 =>
    if imageSizeBytes = 0 ∨ zeroDigestBytes sha256 ∨ !matchingBaseImage product subtype address size then none
    else some sha256
  | _ => none

-- The running digest first, and the other one where it differs.
def filledFirmwareSet (running : Digest) (target : Option Digest) : FirmwareSet :=
  match target with
  | some other =>
    if running ≠ other then { bootableCount := 2, bootable := #v[running, other], running := running }
    else { bootableCount := 1, bootable := #v[running, zeroDigest], running := running }
  | none => { bootableCount := 1, bootable := #v[running, zeroDigest], running := running }

/-- What is found in the other slot: a digest, nothing bootable (`some none`), or no certainty. -/
def observedTarget (a : FirmwareAnswers) (slots : EotaSlots) : Option (Option Digest) :=
  if slots.targetState = .valid then
    (verifiedBaseImage (a.targetImage slots.targetSubtype) (a.targetProduct slots.targetSubtype)
      slots.targetSubtype slots.targetAddressBytes slots.targetSizeBytes).map some
  else if a.targetImage slots.targetSubtype ≠ .imageInvalid then none
  else some none

/-- The set that is filled in, or `none` where the observation is uncertain. -/
def observedFirmware (a : FirmwareAnswers) : Option FirmwareSet :=
  let slots := a.before.2
  let hasRollback := slots.targetState = .valid
  if a.before.1 ≠ eotaUpdateOk ∨ slots.runningSubtype ≠ slots.bootSubtype ∨
      slots.runningAddressBytes ≠ slots.bootAddressBytes ∨
      slots.runningSizeBytes ≠ slots.bootSizeBytes ∨ slots.runningState ≠ .valid then none
  else if ¬hasRollback ∧ slots.targetState ≠ .untracked ∧ slots.targetState ≠ .invalid ∧
      slots.targetState ≠ .aborted then none
  else if hasRollback ∧ !a.rollbackBefore then none
  else
    match verifiedBaseImage (a.runningImage slots.runningSubtype) (a.runningProduct slots.runningSubtype)
      slots.runningSubtype slots.runningAddressBytes slots.runningSizeBytes with
    | none => none
    | some running =>
      match observedTarget a slots with
      | none => none
      | some target =>
        if a.after.1 ≠ eotaUpdateOk ∨ !sameSlots slots a.after.2 ∨ (hasRollback ∧ !a.rollbackAfter) then none
        else some (filledFirmwareSet running target)

def espBaseOtaObserveFirmwareSet (a : FirmwareAnswers) (firmwareSet : Option FirmwareSet) :
    FirmwareResult × Option FirmwareSet :=
  match firmwareSet with
  | none => (.invalidArgument, none)
  | some _ =>
    if !a.available then (.unsupported, some .zero)
    else
      match observedFirmware a with
      | none => (.uncertain, some .zero)
      | some observed => (.ok, some observed)

def EotaImage.digest? : EotaImage → Option Digest
  | .verified _ sha256 => some sha256
  | _ => none

structure FirmwareFacts (a : FirmwareAnswers) (slots : EotaSlots) (running : Digest)
    (target : Option Digest) : Prop where
  before : a.before = (eotaUpdateOk, slots)
  after : a.after = (eotaUpdateOk, slots)
  subtype : slots.runningSubtype = slots.bootSubtype
  address : slots.runningAddressBytes = slots.bootAddressBytes
  size : slots.runningSizeBytes = slots.bootSizeBytes
  valid : slots.runningState = .valid
  runningImage : (a.runningImage slots.runningSubtype).digest? = some running ∧ running ≠ zeroDigest
  targetImage : (a.targetImage slots.targetSubtype).digest? = target
  fallback : ∀ other ∈ target, other ≠ zeroDigest ∧ slots.targetState = .valid ∧
    a.rollbackBefore = true ∧ a.rollbackAfter = true

theorem sameSlots_iff (first second : EotaSlots) : sameSlots first second = true ↔ first = second := by
  constructor
  · intro same
    simp only [sameSlots, Bool.and_eq_true, beq_iff_eq] at same
    cases first
    cases second
    simp_all
  · rintro rfl
    simp [sameSlots]

theorem or_fold_zero (bytes : List UInt8) (start : UInt8) :
    bytes.foldl (· ||| ·) start = 0 ↔ start = 0 ∧ ∀ b ∈ bytes, b = 0 := by
  induction bytes generalizing start with
  | nil => simp
  | cons b bytes ih =>
    have both : start ||| b = 0 ↔ start = 0 ∧ b = 0 := by
      have all : ∀ n < 256, ∀ m < 256, n ||| m = 0 ↔ n = 0 ∧ m = 0 := by
        intro n _ m _
        exact Nat.or_eq_zero_iff
      rw [← UInt8.toNat_inj, UInt8.toNat_or, ← UInt8.toNat_inj, ← UInt8.toNat_inj]
      exact all _ start.toNat_lt _ b.toNat_lt
    rw [List.foldl_cons, ih, both, List.forall_mem_cons, and_assoc]

theorem zeroDigestBytes_iff (digest : Digest) : zeroDigestBytes digest = true ↔ digest = zeroDigest := by
  rw [zeroDigestBytes, beq_iff_eq, or_fold_zero]
  constructor
  · rintro ⟨-, zeros⟩
    apply Vector.toList_inj.mp
    rw [zeroDigest, Vector.toList_replicate]
    exact List.eq_replicate_iff.mpr ⟨Vector.length_toList, zeros⟩
  · rintro rfl
    simp [zeroDigest]

theorem verifiedBaseImage_some (image : EotaImage) (product : ImageAnswers) (subtype : UInt8)
    (address size : UInt32) (digest : Digest)
    (verified : verifiedBaseImage image product subtype address size = some digest) :
    image.digest? = some digest ∧ digest ≠ zeroDigest := by
  unfold verifiedBaseImage at verified
  split at verified
  next imageSizeBytes sha256 =>
    split at verified
    · cases verified
    next checks =>
      obtain rfl := Option.some.inj verified
      refine ⟨rfl, fun zero => ?_⟩
      exact checks (.inr (.inl ((zeroDigestBytes_iff _).mpr zero)))
  next => cases verified

theorem observedTarget_some (a : FirmwareAnswers) (slots : EotaSlots) (target : Option Digest)
    (observed : observedTarget a slots = some target) :
    (a.targetImage slots.targetSubtype).digest? = target ∧
      ∀ other ∈ target, other ≠ zeroDigest ∧ slots.targetState = .valid := by
  unfold observedTarget at observed
  split at observed
  next valid =>
    obtain ⟨digest, verified, rfl⟩ := Option.map_eq_some_iff.mp observed
    obtain ⟨image, nonzero⟩ := verifiedBaseImage_some _ _ _ _ _ _ verified
    refine ⟨image, ?_⟩
    rintro other ⟨⟩
    exact ⟨nonzero, valid⟩
  next =>
    split at observed
    · cases observed
    next invalid =>
      cases observed
      rw [not_not.mp invalid]
      exact ⟨rfl, by simp⟩

theorem observedFirmware_some (a : FirmwareAnswers) (set : FirmwareSet)
    (observed : observedFirmware a = some set) :
    ∃ slots running target, FirmwareFacts a slots running target ∧
      set = filledFirmwareSet running target := by
  unfold observedFirmware at observed
  dsimp only at observed
  split at observed
  · cases observed
  next steady =>
  split at observed
  · cases observed
  split at observed
  · cases observed
  next allowed =>
  split at observed
  · cases observed
  next running verified =>
  split at observed
  · cases observed
  next target seen =>
  split at observed
  · cases observed
  next unchanged =>
    simp only [not_or, not_not] at steady unchanged
    obtain ⟨answered, subtype, address, size, valid⟩ := steady
    obtain ⟨again, same, still⟩ := unchanged
    simp only [Bool.not_eq_true', Bool.not_eq_false] at same
    have slots := (sameSlots_iff _ _).mp same
    obtain ⟨image, fallback⟩ := observedTarget_some a a.before.2 target seen
    refine ⟨a.before.2, running, target, ?_, (Option.some.inj observed).symm⟩
    exact
      { before := Prod.ext answered rfl
        after := Prod.ext again slots.symm
        subtype
        address
        size
        valid
        runningImage := verifiedBaseImage_some _ _ _ _ _ _ verified
        targetImage := image
        fallback := by
          intro other held
          obtain ⟨nonzero, bootable⟩ := fallback other held
          simp only [bootable, true_and, Bool.not_eq_true', Bool.not_eq_false] at allowed still
          exact ⟨nonzero, bootable, allowed, still⟩ }

end EspBase

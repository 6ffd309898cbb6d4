import EspBase.Ota.Firmware

set_option autoImplicit false

namespace EspBase

def econtainerSlotBindingCount : Nat := 2

structure EcontainerFirmwareSet where
  bootableCount : UInt8
  bootable : Vector Digest 2
  running : Digest
deriving DecidableEq

def mapFirmwareSet (source : FirmwareSet) : Option EcontainerFirmwareSet :=
  if source.bootableCount = 0 ∨ source.bootableCount.toNat > econtainerSlotBindingCount ∨
      source.running ≠ source.bootable[0] then none
  else if ¬∀ index : Fin 2,
      decide (index.val < source.bootableCount.toNat) = !zeroDigestBytes source.bootable[index] then none
  else if source.bootableCount = 2 ∧ source.bootable[0] = source.bootable[1] then none
  else
    some
      { bootableCount := source.bootableCount
        running := source.running
        bootable := Vector.ofFn (fun index : Fin 2 =>
          if index.val < source.bootableCount.toNat then source.bootable[index] else zeroDigest) }

def FirmwareSet.used (set : FirmwareSet) : List Digest := set.bootable.toList.take set.bootableCount.toNat

structure FirmwareSet.Exact (set : FirmwareSet) (runningImage targetImage : EotaImage) : Prop where
  count : set.bootableCount = 1 ∨ set.bootableCount = 2
  running : runningImage.digest? = some set.running
  first : set.used.head? = some set.running
  members : ∀ digest, digest ∈ set.used ↔
    runningImage.digest? = some digest ∨ targetImage.digest? = some digest
  distinct : set.used.Nodup
  nonzero : zeroDigest ∉ set.used
  unused : ∀ index : Fin 2, set.bootableCount.toNat ≤ index.val → set.bootable[index] = zeroDigest

theorem oneFirmware_exact (runningImage targetImage : EotaImage) (running : Digest)
    (verified : runningImage.digest? = some running) (nonzero : running ≠ zeroDigest)
    (others : ∀ digest, targetImage.digest? = some digest → digest = running) :
    FirmwareSet.Exact { bootableCount := 1, bootable := #v[running, zeroDigest], running := running }
      runningImage targetImage := by
  refine ⟨.inl rfl, verified, rfl, fun digest => ?_, by simp [FirmwareSet.used], ?_, ?_⟩
  · rw [verified, Option.some.injEq]
    constructor
    · intro member
      exact .inl (List.mem_singleton.mp member).symm
    · rintro (rfl | other)
      · exact List.mem_singleton_self _
      · rw [others digest other]
        exact List.mem_singleton_self _
  · intro member
    exact nonzero (List.mem_singleton.mp member).symm
  · intro index past
    obtain rfl : index = 1 := by
      apply Fin.ext
      have bound := index.isLt
      have one : 1 ≤ index.val := past
      change index.val = 1
      omega
    rfl

theorem twoFirmwares_exact (runningImage targetImage : EotaImage) (running other : Digest)
    (verified : runningImage.digest? = some running) (bootable : targetImage.digest? = some other)
    (nonzero : running ≠ zeroDigest) (otherNonzero : other ≠ zeroDigest) (differ : running ≠ other) :
    FirmwareSet.Exact { bootableCount := 2, bootable := #v[running, other], running := running }
      runningImage targetImage := by
  have used : FirmwareSet.used { bootableCount := 2, bootable := #v[running, other], running := running } =
      [running, other] := rfl
  refine ⟨.inr rfl, verified, rfl, fun digest => ?_, ?_, ?_, ?_⟩
  · rw [used, verified, bootable]
    simp [eq_comm]
  · rw [used]
    simpa using differ
  · rw [used]
    simp [nonzero.symm, otherNonzero.symm]
  · intro index past
    have two : 2 ≤ index.val := past
    omega

theorem filledFirmwareSet_exact (runningImage targetImage : EotaImage) (running : Digest)
    (target : Option Digest) (verified : runningImage.digest? = some running)
    (other : targetImage.digest? = target) (nonzero : running ≠ zeroDigest)
    (others : ∀ digest ∈ target, digest ≠ zeroDigest) :
    (filledFirmwareSet running target).Exact runningImage targetImage := by
  cases target with
  | none => exact oneFirmware_exact _ _ running verified nonzero (by simp [other])
  | some digest =>
    rw [filledFirmwareSet]
    split
    next differ => exact twoFirmwares_exact _ _ running digest verified other nonzero (others digest rfl) differ
    next same =>
      refine oneFirmware_exact _ _ running verified nonzero (fun found held => ?_)
      rw [other] at held
      exact (Option.some.inj held).symm.trans (not_not.mp same).symm

theorem FirmwareSet.used_mem (set : FirmwareSet) (index : Fin 2) (inside : index.val < set.bootableCount.toNat) :
    set.bootable[index] ∈ set.used := by
  rw [FirmwareSet.used, List.mem_take_iff_getElem]
  have bound := index.isLt
  exact ⟨index.val, by simp; omega, by simp⟩

theorem FirmwareSet.Exact.mapped {set : FirmwareSet} {runningImage targetImage : EotaImage}
    (exactly : set.Exact runningImage targetImage) :
    mapFirmwareSet set =
      some { bootableCount := set.bootableCount, bootable := set.bootable, running := set.running } := by
  have count : set.bootableCount.toNat = 1 ∨ set.bootableCount.toNat = 2 := by
    rcases exactly.count with one | two
    · exact .inl (by rw [one]; rfl)
    · exact .inr (by rw [two]; rfl)
  have head : set.running = set.bootable[0] := by
    have first := exactly.first
    rw [FirmwareSet.used, List.head?_take, if_neg (by omega), List.head?_eq_getElem?] at first
    simpa [eq_comm] using first
  have shape : ¬(set.bootableCount = 0 ∨ set.bootableCount.toNat > econtainerSlotBindingCount ∨
      set.running ≠ set.bootable[0]) := by
    rintro (none | many | other)
    · rw [none] at count
      rcases count with wrong | wrong <;> cases wrong
    · rw [econtainerSlotBindingCount] at many
      omega
    · exact other head
  have used : ∀ index : Fin 2,
      decide (index.val < set.bootableCount.toNat) = !zeroDigestBytes set.bootable[index] := by
    intro index
    by_cases inside : index.val < set.bootableCount.toNat
    · have nonzero : set.bootable[index] ≠ zeroDigest := fun zero =>
        exactly.nonzero (zero ▸ set.used_mem index inside)
      rw [ne_eq, ← zeroDigestBytes_iff, Bool.not_eq_true] at nonzero
      rw [nonzero]
      exact decide_eq_true inside
    · have zero := (zeroDigestBytes_iff _).mpr (exactly.unused index (not_lt.mp inside))
      rw [zero]
      exact decide_eq_false inside
  have distinct : ¬(set.bootableCount = 2 ∧ set.bootable[0] = set.bootable[1]) := by
    rintro ⟨two, same⟩
    have all : set.used = set.bootable.toList := by
      rw [FirmwareSet.used, two]
      exact List.take_of_length_le (by simp)
    have nodup := exactly.distinct
    rw [all] at nodup
    exact List.pairwise_iff_getElem.mp nodup 0 1 (by simp) (by simp) (by decide) (by simpa using same)
  have copied : (Vector.ofFn fun index : Fin 2 =>
      if index.val < set.bootableCount.toNat then set.bootable[index] else zeroDigest) = set.bootable := by
    apply Vector.ext
    intro i inside
    rw [Vector.getElem_ofFn]
    split
    · rfl
    next past => exact (exactly.unused ⟨i, inside⟩ (not_lt.mp past)).symm
  rw [mapFirmwareSet, if_neg shape, if_neg (not_not.mpr used), if_neg distinct, copied]

theorem firmware_set_exact (a : FirmwareAnswers) (firmwareSet : Option FirmwareSet) :
    ((espBaseOtaObserveFirmwareSet a firmwareSet).1 = .ok →
      ∃ slots set, (espBaseOtaObserveFirmwareSet a firmwareSet).2 = some set ∧
        a.before = (eotaUpdateOk, slots) ∧ a.after = (eotaUpdateOk, slots) ∧
        (slots.runningSubtype = slots.bootSubtype ∧ slots.runningAddressBytes = slots.bootAddressBytes ∧
          slots.runningSizeBytes = slots.bootSizeBytes ∧ slots.runningState = .valid) ∧
        set.Exact (a.runningImage slots.runningSubtype) (a.targetImage slots.targetSubtype) ∧
        ((a.targetImage slots.targetSubtype).digest? ≠ none →
          slots.targetState = .valid ∧ a.rollbackBefore = true ∧ a.rollbackAfter = true) ∧
        mapFirmwareSet set =
          some { bootableCount := set.bootableCount, bootable := set.bootable, running := set.running }) ∧
    (firmwareSet ≠ none → (espBaseOtaObserveFirmwareSet a firmwareSet).1 ≠ .ok →
      (espBaseOtaObserveFirmwareSet a firmwareSet).2 = some .zero) := by
  unfold espBaseOtaObserveFirmwareSet
  split
  · exact ⟨nofun, fun null => absurd rfl null⟩
  split
  · exact ⟨nofun, fun _ _ => rfl⟩
  split
  · exact ⟨nofun, fun _ _ => rfl⟩
  next set observed =>
    refine ⟨fun _ => ?_, fun _ failed => absurd rfl failed⟩
    obtain ⟨slots, running, target, facts, rfl⟩ := observedFirmware_some a set observed
    have others : ∀ digest ∈ target, digest ≠ zeroDigest := fun digest held => (facts.fallback digest held).1
    have exactly := filledFirmwareSet_exact _ _ running target facts.runningImage.1 facts.targetImage
      facts.runningImage.2 others
    refine ⟨slots, _, rfl, facts.before, facts.after,
      ⟨facts.subtype, facts.address, facts.size, facts.valid⟩, exactly, fun bootable => ?_, exactly.mapped⟩
    obtain ⟨digest, held⟩ := Option.ne_none_iff_exists'.mp bootable
    rw [facts.targetImage] at held
    exact (facts.fallback digest held).2

def filledDigest (byte : UInt8) : Digest := Vector.replicate 32 byte

def baseProduct (subtype : UInt8) (address : UInt32) : ImageAnswers :=
  { partition := some { type := 0, subtype, address, size := 0x1e0000 }
    header := some { magic := 0xe9, chipId := 5 }
    description := some { magicWord := 0xabcd5432, projectName := Vector.ofFn (fun i => policyProjectName.getD i 0) } }

-- Two valid images, with a rollback between them possible.
def rollbackAnswers : FirmwareAnswers :=
  let slots : EotaSlots :=
    { runningSubtype := appOta0
      bootSubtype := appOta0
      targetSubtype := appOta1
      runningAddressBytes := 0x20000
      bootAddressBytes := 0x20000
      targetAddressBytes := 0x200000
      runningSizeBytes := 0x1e0000
      bootSizeBytes := 0x1e0000
      targetSizeBytes := 0x1e0000
      runningState := .valid
      targetState := .valid }
  { available := true
    before := (eotaUpdateOk, slots)
    rollbackBefore := true
    runningImage := fun _ => .verified 123456 (filledDigest 0xa0)
    runningProduct := fun subtype => baseProduct subtype 0x20000
    targetImage := fun _ => .verified 123456 (filledDigest 0xb0)
    targetProduct := fun subtype => baseProduct subtype 0x200000
    after := (eotaUpdateOk, slots)
    rollbackAfter := true }

theorem firmware_set_exact_rollback :
    ∃ set, (espBaseOtaObserveFirmwareSet rollbackAnswers (some .zero)).2 = some set ∧
      set.Exact (.verified 123456 (filledDigest 0xa0)) (.verified 123456 (filledDigest 0xb0)) := by
  obtain ⟨slots, set, held, -, -, -, exactly, -⟩ :=
    (firmware_set_exact rollbackAnswers (some .zero)).1 (by decide +kernel)
  exact ⟨set, held, exactly⟩

end EspBase

import EspBase.Platform

set_option autoImplicit false

namespace EspBase

-- `eota_result_t` by its enumerator values.
abbrev EotaResult := Nat

def eotaUpdateOk : EotaResult := 0
def eotaUpdateBootStateUnknown : EotaResult := 9
def eotaUpdateResourceFailure : EotaResult := 10

inductive EotaState where
  | valid
  | pendingVerify
  | new
  | invalid
  | aborted
  | undefined
  | untracked
  | other (code : Nat)
deriving DecidableEq, Repr

structure EotaSlots where
  runningSubtype : UInt8
  bootSubtype : UInt8
  targetSubtype : UInt8
  runningAddressBytes : UInt32
  bootAddressBytes : UInt32
  targetAddressBytes : UInt32
  runningSizeBytes : UInt32
  bootSizeBytes : UInt32
  targetSizeBytes : UInt32
  runningState : EotaState
  targetState : EotaState
deriving DecidableEq

structure EotaBuild where
  available : Bool
  error : EotaResult → String

def appOta0 : UInt8 := 0x10
def appOta1 : UInt8 := 0x11

structure OtaRequest where
  operationId : CString
  imageUrl : CString
  sha256 : Digest
  imageSizeBytes : UInt32
deriving DecidableEq

def OtaRequest.zero : OtaRequest :=
  { operationId := .empty, imageUrl := .empty, sha256 := zeroDigest, imageSizeBytes := 0 }

end EspBase

import EspBase.Network.FrpReplay
import EspBase.Network.Hex

set_option autoImplicit false

namespace EspBase

inductive ResultObject where
  | null
  | status (s : StatusSnapshot)
  | receipt (view : OtaReceiptView)

structure Answer where
  deviceId : CString
  bootId : CString
  requestId : Option CString
  state : ResultState
  error : Option String
  result : ResultObject

def receiptJson (view : OtaReceiptView) : List UInt8 :=
  bytesOf "\x7b\"operation_id\":\"" ++ view.operationId.bytes ++ bytesOf "\",\"sha256\":\"" ++
    hexText view.sha256.toList ++ bytesOf "\",\"image_size_bytes\":" ++
    decimal view.imageSizeBytes.toNat ++ bytesOf ",\"target\":\"" ++ bytesOf otaTarget ++
    bytesOf "\",\"target_slot\":\"" ++
    bytesOf (if view.targetSubtype = appOta0 then "ota_0" else "ota_1") ++ bytesOf "\"\x7d"

def ResultObject.bytes : ResultObject → List UInt8
  | .null => bytesOf "null"
  | .status s => statusJson s
  | .receipt view => receiptJson view

def Answer.bytes (a : Answer) : List UInt8 :=
  resultHead a.deviceId a.bootId a.requestId (some a.state) a.error ++ a.result.bytes ++ bytesOf "\x7d"

-- A byte that stands for itself in a string.
def plainByte (c : UInt8) : Bool := 0x20 ≤ c && c < 0x7f && c != 0x22 && c != 0x5c

structure Identifier (name : String) : Prop where
  nonempty : name.toList ≠ []
  short : name.toList.length ≤ 40
  plain : name.toList.all (fun c => decide (c.toNat < 0x80) && plainByte c.toNat.toUInt8) = true

instance (name : String) : Decidable (Identifier name) :=
  decidable_of_iff (name.toList ≠ [] ∧ name.toList.length ≤ 40 ∧
      name.toList.all (fun c => decide (c.toNat < 0x80) && plainByte c.toNat.toUInt8) = true)
    ⟨fun ⟨nonempty, short, plain⟩ => ⟨nonempty, short, plain⟩,
      fun name => ⟨name.nonempty, name.short, name.plain⟩⟩

theorem Identifier.bytes {name : String} (identifier : Identifier name) :
    bytesOf name = name.toList.map (fun c => c.toNat.toUInt8) := by
  refine bytesOf_ascii name (List.all_eq_true.mpr ?_)
  intro c member
  have plain := List.all_eq_true.mp identifier.plain c member
  rw [Bool.and_eq_true] at plain
  exact plain.1

structure StatusSnapshot.Sized (s : StatusSnapshot) : Prop where
  uptime : s.uptime < 2 ^ 64
  freeHeap : s.freeHeap < 2 ^ 32
  minimumFreeHeap : s.minimumFreeHeap < 2 ^ 32
  otaReceived : s.otaReceived < 2 ^ 32
  otaTotal : s.otaTotal < 2 ^ 32

def ResultObject.Sized : ResultObject → Prop
  | .null => True
  | .status s => s.Sized
  | .receipt view => isUuid view.operationId

-- An error is given exactly when the operation is neither running nor done.
structure Agrees (state : ResultState) (error : Option String) : Prop where
  absent : error = none ↔ state = .running ∨ state = .succeeded
  named : ∀ name, error = some name → Identifier name

structure Answer.Formed (a : Answer) : Prop where
  device : isUuid a.deviceId
  boot : isUuid a.bootId
  request : ∀ id, a.requestId = some id → isUuid id
  error : Agrees a.state a.error
  result : a.result.Sized

def ResultObject.ofStatus : Option StatusSnapshot → ResultObject
  | none => .null
  | some s => .status s

theorem uuid_length (value : CString) (uuid : isUuid value) : value.bytes.length = 36 := by
  have short := uuid_length_le value uuid
  simp only [isUuid, Bool.and_eq_true, List.all_eq_true, List.mem_range] at uuid
  have last := uuid.1.1.1 35 (by decide)
  by_contra other
  have missing : value.at 35 = 0 := by
    rw [CString.at, List.getD_eq_getElem?_getD, List.getElem?_eq_none (by omega)]
    rfl
  simp [uuidByte, missing, hyphenAt, lowerHex] at last

theorem uuid_byte (value : CString) (uuid : isUuid value) :
    ∀ c ∈ value.bytes, c = 0x2d ∨ lowerHex c = true := by
  intro c member
  obtain ⟨i, inside, rfl⟩ := List.getElem_of_mem member
  have whole := uuid_length value uuid
  simp only [isUuid, Bool.and_eq_true, List.all_eq_true, List.mem_range] at uuid
  have here := uuid.1.1.1 i (by omega)
  rw [uuidByte, CString.at, List.getD_eq_getElem _ _ inside] at here
  split at here
  · exact .inl (by simpa using here)
  · exact .inr here

theorem decimal_chars (n : Nat) : decimal n = n.repr.toList.map (fun c => c.toNat.toUInt8) := by
  refine bytesOf_ascii _ (List.all_eq_true.mpr ?_)
  intro c member
  rw [Nat.toString_eq_repr, Nat.toList_repr] at member
  have digit := Nat.isDigit_of_mem_toDigits (by decide) (by decide) member
  rw [Char.isDigit_iff_toNat] at digit
  have last : '9'.toNat = 0x39 := rfl
  rw [decide_eq_true_eq]
  omega

theorem decimal_length (n k : Nat) (digits : 0 < k) (small : n < 10 ^ k) : (decimal n).length ≤ k := by
  rw [decimal_chars, List.length_map, String.length_toList]
  exact (Nat.length_repr_le_iff digits).mpr small

theorem quotedOrNull_length (value : Option (List UInt8)) (most : Nat)
    (short : ∀ text, value = some text → text.length ≤ most) (room : 2 ≤ most) :
    (quotedOrNull value).length ≤ most + 2 := by
  cases value with
  | none => simpa [quotedOrNull, bytesOf_ascii] using room
  | some text =>
    have here := short text rfl
    have quote : (bytesOf "\"").length = 1 := by decide
    simp only [quotedOrNull, List.length_append, quote]
    omega

theorem resultHead_length (a : Answer) (formed : a.Formed) :
    (resultHead a.deviceId a.bootId a.requestId (some a.state) a.error).length ≤ 300 := by
  have device := uuid_length a.deviceId formed.device
  have boot := uuid_length a.bootId formed.boot
  have request := quotedOrNull_length (a.requestId.map CString.bytes) 36
    (by
      intro text named
      obtain ⟨id, requested, rfl⟩ := Option.map_eq_some_iff.mp named
      exact (uuid_length id (formed.request id requested)).le) (by decide)
  have error := quotedOrNull_length (a.error.map bytesOf) 40
    (by
      intro text named
      obtain ⟨name, given, rfl⟩ := Option.map_eq_some_iff.mp named
      rw [(formed.error.named name given).bytes, List.length_map]
      exact (formed.error.named name given).short) (by decide)
  have state : (bytesOf a.state.text).length ≤ 9 := by cases a.state <;> decide
  have labels : (bytesOf "\x7b\"protocol_version\":1,\"device_id\":\"").length = 35 ∧
      (bytesOf "\",\"boot_id\":\"").length = 13 ∧
      (bytesOf "\",\"request_id\":").length = 15 ∧
      (bytesOf ",\"state\":\"").length = 10 ∧
      (bytesOf "\",\"error_code\":").length = 15 ∧
      (bytesOf ",\"result\":").length = 10 := by
    decide +kernel
  simp only [resultHead, List.length_append, device, boot, labels]
  omega

theorem word_length (n : Nat) (small : n < 2 ^ 32) : (decimal n).length ≤ 10 :=
  decimal_length n 10 (by decide) (by omega)

theorem statusJson_length (s : StatusSnapshot) (sized : s.Sized) : (statusJson s).length ≤ 340 := by
  have uptime := decimal_length s.uptime 20 (by decide) (lt_trans sized.uptime (by decide))
  have revision := word_length s.revision.toNat s.revision.toNat_lt
  have free := word_length s.freeHeap sized.freeHeap
  have least := word_length s.minimumFreeHeap sized.minimumFreeHeap
  have received := word_length s.otaReceived sized.otaReceived
  have total := word_length s.otaTotal sized.otaTotal
  have wifi : (bytesOf s.wifi.text).length ≤ 12 := by cases s.wifi <;> decide
  have mqtt : (bytesOf s.mqtt.text).length ≤ 12 := by cases s.mqtt <;> decide
  have frp : (bytesOf s.frp.text).length ≤ 20 := by cases s.frp <;> decide
  have config : (bytesOf s.config.text).length ≤ 11 := by cases s.config <;> decide
  have ota : (bytesOf s.ota.text).length ≤ 11 := by cases s.ota <;> decide
  have labels : (bytesOf "\x7b\"uptime_ms\":").length = 13 ∧
      (bytesOf ",\"revision\":").length = 12 ∧
      (bytesOf ",\"free_heap\":").length = 13 ∧
      (bytesOf ",\"min_free_heap\":").length = 17 ∧
      (bytesOf ",\"ota_received_bytes\":").length = 22 ∧
      (bytesOf ",\"ota_total_bytes\":").length = 19 ∧
      (bytesOf ",\"capabilities\":\x7b\"wifi\":\"").length = 25 ∧
      (bytesOf "\",\"mqtt\":\"").length = 10 ∧
      (bytesOf "\",\"frp\":\"").length = 9 ∧
      (bytesOf "\",\"config\":\"").length = 12 ∧
      (bytesOf "\",\"ota\":\"").length = 9 ∧
      (bytesOf "\"\x7d\x7d").length = 3 := by
    decide +kernel
  unfold statusJson
  repeat rw [List.length_append]
  simp only [labels]
  omega

theorem receiptJson_length (view : OtaReceiptView) (uuid : isUuid view.operationId) :
    (receiptJson view).length ≤ 300 := by
  have operation := uuid_length view.operationId uuid
  have size := word_length view.imageSizeBytes.toNat view.imageSizeBytes.toNat_lt
  have slot : (bytesOf (if view.targetSubtype = appOta0 then "ota_0" else "ota_1")).length = 5 := by
    split <;> decide
  have labels : (bytesOf "\x7b\"operation_id\":\"").length = 17 ∧
      (bytesOf "\",\"sha256\":\"").length = 12 ∧
      (bytesOf "\",\"image_size_bytes\":").length = 21 ∧
      (bytesOf ",\"target\":\"").length = 11 ∧
      (bytesOf "\",\"target_slot\":\"").length = 17 ∧
      (bytesOf "\"\x7d").length = 2 ∧
      (bytesOf otaTarget).length = 16 := by
    decide +kernel
  simp only [receiptJson, List.length_append, operation, hexText_length, slot, Vector.length_toList, labels]
  omega

theorem Answer.Formed.length {a : Answer} (formed : a.Formed) : a.bytes.length < frpResponseBytes := by
  have head := resultHead_length a formed
  have body : a.result.bytes.length ≤ 340 := by
    have sized := formed.result
    cases result : a.result with
    | null => decide
    | status s =>
      rw [result] at sized
      exact statusJson_length s sized
    | receipt view =>
      rw [result] at sized
      exact (receiptJson_length view sized).trans (by decide)
  simp only [Answer.bytes, List.length_append]
  have close : (bytesOf "\x7d").length = 1 := by decide
  have room : frpResponseBytes = 896 := by decide
  omega

theorem formatResultJson_formed (capacity : Nat) (room : frpResponseBytes ≤ capacity) (a : Answer)
    (formed : a.Formed) (status : Option StatusSnapshot) (body : a.result = .ofStatus status) :
    formatResultJson capacity a.deviceId a.bootId a.requestId (some a.state) a.error status =
      some a.bytes := by
  have short := formed.length
  unfold formatResultJson
  cases status <;>
    simpa [Answer.bytes, ResultObject.bytes, ResultObject.ofStatus, body] using
      lt_of_lt_of_le (by simpa [Answer.bytes, ResultObject.bytes, ResultObject.ofStatus, body] using short) room

def receiptAnswer (deviceId bootId requestId : CString) (view : OtaReceiptView) : Answer :=
  { deviceId
    bootId
    requestId := some requestId
    state := view.state.result
    error := view.errorCode
    result := .receipt view }

theorem otaResultJson_answer (deviceId bootId requestId : CString) (view : OtaReceiptView) :
    otaResultJson deviceId bootId requestId view = (receiptAnswer deviceId bootId requestId view).bytes := by
  have closing : bytesOf "\"\x7d\x7d" = bytesOf "\"\x7d" ++ bytesOf "\x7d" := by decide +kernel
  simp only [otaResultJson, Answer.bytes, receiptAnswer, ResultObject.bytes, receiptJson, closing,
    List.append_assoc]

end EspBase

import EspBase.Host.ReadResult
import EspBase.Identity.Uuid
import EspBase.Network.TaskAnswers

set_option autoImplicit false

namespace EspBase

open Transition Unicode

def pointsOf (bytes : List UInt8) : Text := bytes.map (fun byte => ⟨byte.toNat, byte_point byte⟩)

-- Visible ASCII: neither a line feed nor a NUL.
def visible (source : Text) : Bool := source.all (fun c => 0x20 ≤ c && c < 0x7f)

@[simp] theorem pointsOf_append (first second : List UInt8) :
    pointsOf (first ++ second) = pointsOf first ++ pointsOf second := List.map_append

theorem pointsOf_bytes (bytes : List UInt8) : (pointsOf bytes).map Point.byte = bytes := by
  rw [pointsOf, List.map_map]
  conv_rhs => rw [← List.map_id bytes]
  refine List.map_congr_left (fun byte _ => ?_)
  simp [Point.byte]

theorem pointsOf_injective (first second : List UInt8) (same : pointsOf first = pointsOf second) :
    first = second := by
  rw [← pointsOf_bytes first, same, pointsOf_bytes]

theorem decode_visible (bytes : List UInt8) (all : visible (pointsOf bytes) = true) :
    decode bytes = some (pointsOf bytes) := by
  have ascii : isAscii (pointsOf bytes) = true := by
    simp only [visible, isAscii, List.all_eq_true, Bool.and_eq_true, decide_eq_true_eq] at all ⊢
    intro point member
    have below : point.val < 0x7f := (all point member).2
    omega
  have encoded := encode_of_ascii (pointsOf bytes) ascii
  rw [pointsOf_bytes] at encoded
  obtain ⟨chars, points, written⟩ := (encode_eq_some_iff _ _).mp encoded
  rw [written, decode_encode, ← written, points]

theorem visible_unbroken (bytes : List UInt8) (all : visible (pointsOf bytes) = true) :
    0x0a ∉ bytes ∧ 0 ∉ bytes := by
  simp only [visible, pointsOf, List.all_map, List.all_eq_true, Function.comp_apply] at all
  constructor
  · intro member
    exact absurd (all _ member) (by decide)
  · intro member
    exact absurd (all _ member) (by decide)

theorem plain_shown (source : Text) (plain : source.all plainPoint = true) : visible source = true := by
  simp only [visible, List.all_eq_true, plainPoint, Bool.and_eq_true] at plain ⊢
  exact fun point member => (plain point member).1.1

theorem plain_points (bytes : List UInt8) (plain : bytes.all plainByte = true) :
    (pointsOf bytes).all plainPoint = true := by
  simp only [pointsOf, List.all_map]
  have same : ∀ n < 256, plainByte (UInt8.ofNat n) = true →
      plainPoint (⟨(UInt8.ofNat n).toNat, byte_point _⟩ : Point) = true := by decide +kernel
  simp only [List.all_eq_true, Function.comp_apply] at plain ⊢
  intro byte member
  have here := same byte.toNat byte.toNat_lt
  simp only [UInt8.ofNat_toNat] at here
  exact here (plain byte member)

-- The last digit comes off the end.
theorem decimal_last (n : Nat) :
    decimal n = (if n < 10 then [] else decimal (n / 10)) ++ [UInt8.ofNat (0x30 + n % 10)] := by
  have digit : ∀ d < 10, (Nat.digitChar d).toNat.toUInt8 = UInt8.ofNat (0x30 + d) := by decide
  simp only [decimal_chars, Nat.toList_repr]
  rw [Nat.toDigits_eq_if (by decide)]
  split
  next small => simp [digit n small, Nat.mod_eq_of_lt small]
  next large => simp [digit (n % 10) (Nat.mod_lt n (by decide))]

theorem digit_point : ∀ d < 10, digitPoint (⟨(UInt8.ofNat (0x30 + d)).toNat, byte_point _⟩ : Point) = true ∧
    (UInt8.ofNat (0x30 + d)).toNat = 0x30 + d := by decide

theorem decimal_digits (n : Nat) : (pointsOf (decimal n)).all digitPoint = true := by
  induction n using Nat.strong_induction_on with
  | _ n ih =>
    have last := (digit_point (n % 10) (Nat.mod_lt n (by decide))).1
    rw [decimal_last]
    split
    · simpa [pointsOf] using last
    next large =>
      have earlier := ih (n / 10) (by omega)
      rw [pointsOf_append, List.all_append, earlier]
      simpa [pointsOf] using last

theorem numeral_append (digits : Text) (c : Point) : numeral (digits ++ [c]) = 10 * numeral digits + (c.val - 0x30) := by
  simp [numeral]

theorem numeral_decimal (n : Nat) : numeral (pointsOf (decimal n)) = n := by
  induction n using Nat.strong_induction_on with
  | _ n ih =>
    have last := (digit_point (n % 10) (Nat.mod_lt n (by decide))).2
    rw [decimal_last]
    split
    next small =>
      simp only [List.nil_append, pointsOf, List.map_cons, List.map_nil, numeral, List.foldl_cons, List.foldl_nil, last]
      omega
    next large =>
      have earlier := ih (n / 10) (by omega)
      rw [pointsOf_append]
      simp only [pointsOf, List.map_cons, List.map_nil] at earlier ⊢
      rw [numeral_append, earlier]
      simp only [last]
      omega

theorem decimal_nonempty (n : Nat) : decimal n ≠ [] := by
  rw [decimal_last]
  simp

theorem decimal_leading (n : Nat) (zero : (decimal n).head? = some 0x30) : n = 0 := by
  induction n using Nat.strong_induction_on with
  | _ n ih =>
    have digit : ∀ d < 10, UInt8.ofNat (0x30 + d) = 0x30 → d = 0 := by decide
    rw [decimal_last] at zero
    split at zero
    next small =>
      have last := digit (n % 10) (Nat.mod_lt n (by decide)) (by simpa using zero)
      omega
    next large =>
      rw [List.head?_append_of_ne_nil _ (decimal_nonempty _)] at zero
      have earlier := ih (n / 10) (by omega) zero
      omega

theorem reads_decimal (n : Nat) (small : n < 2 ^ 64) : Reads (pointsOf (decimal n)) 0 (.int n) := by
  have short : (decimal n).length ≤ 20 := decimal_length n 20 (by decide) (lt_trans small (by decide))
  have reads := reads_number (pointsOf (decimal n)) (decimal_digits n) (by simp [pointsOf, decimal_nonempty])
    (by simp only [pointsOf, List.length_map, intMaxStrDigits]; omega) ?_
  · rw [numeral_decimal] at reads
    exact reads
  · intro leading
    have zero : (decimal n).head? = some 0x30 := by
      obtain ⟨c, rest, here⟩ := List.exists_cons_of_ne_nil (decimal_nonempty n)
      rw [here] at leading ⊢
      simp only [pointsOf, List.map_cons, List.head?_cons, Option.some.injEq] at leading ⊢
      have value := congrArg Fin.val leading
      exact UInt8.toNat.inj value
    rw [decimal_leading n zero]
    decide

theorem digits_shown (digits : Text) (all : digits.all digitPoint = true) : visible digits = true := by
  simp only [visible, List.all_eq_true, digitPoint, Bool.and_eq_true, decide_eq_true_eq] at all ⊢
  intro point member
  obtain ⟨low, high⟩ := all point member
  have low : (0x30 : Nat) ≤ point.val := low
  have high : point.val ≤ 0x39 := high
  exact ⟨show (0x20 : Nat) ≤ point.val by omega, show point.val < 0x7f by omega⟩

def numberMember (key : String) (n : Nat) : Member :=
  { key := text key, source := pointsOf (decimal n), value := .int n }

def textMember (key : String) (value : List UInt8) : Member :=
  { key := text key, source := quoted (pointsOf value), value := .str (pointsOf value) }

def nullMember (key : String) : Member := { key := text key, source := text "null", value := .null }

def Member.entry (m : Member) : Text × Loaded := (m.key, m.value)

def objectMember (key : String) (members : List Member) : Member :=
  { key := text key, source := objectText members, value := .dict (members.map Member.entry) }

def optionalMember (key : String) : Option (List UInt8) → Member
  | none => nullMember key
  | some value => textMember key value

def capabilityMembers (s : StatusSnapshot) : List Member :=
  [textMember "wifi" (bytesOf s.wifi.text), textMember "mqtt" (bytesOf s.mqtt.text),
    textMember "frp" (bytesOf s.frp.text), textMember "config" (bytesOf s.config.text),
    textMember "ota" (bytesOf s.ota.text)]

def statusMembers (s : StatusSnapshot) : List Member :=
  [numberMember "uptime_ms" s.uptime, numberMember "revision" s.revision.toNat,
    numberMember "free_heap" s.freeHeap, numberMember "min_free_heap" s.minimumFreeHeap,
    numberMember "ota_received_bytes" s.otaReceived, numberMember "ota_total_bytes" s.otaTotal,
    objectMember "capabilities" (capabilityMembers s)]

def receiptMembers (view : OtaReceiptView) : List Member :=
  [textMember "operation_id" view.operationId.bytes, textMember "sha256" (hexText view.sha256.toList),
    numberMember "image_size_bytes" view.imageSizeBytes.toNat, textMember "target" (bytesOf otaTarget),
    textMember "target_slot" (bytesOf (if view.targetSubtype = appOta0 then "ota_0" else "ota_1"))]

def resultMember : ResultObject → Member
  | .null => nullMember "result"
  | .status s => objectMember "result" (statusMembers s)
  | .receipt view => objectMember "result" (receiptMembers view)

def Answer.members (a : Answer) : List Member :=
  [numberMember "protocol_version" 1, textMember "device_id" a.deviceId.bytes, textMember "boot_id" a.bootId.bytes,
    optionalMember "request_id" (a.requestId.map CString.bytes), textMember "state" (bytesOf a.state.text),
    optionalMember "error_code" (a.error.map bytesOf), resultMember a.result]

def Answer.loaded (a : Answer) : Loaded := .dict (a.members.map Member.entry)

theorem optionalMember_source (key : String) (value : Option (List UInt8)) :
    (optionalMember key value).source = pointsOf (quotedOrNull value) := by
  have null : pointsOf (bytesOf "null") = text "null" := by decide
  have quote : pointsOf (bytesOf "\"") = [0x22] := by decide
  cases value with
  | none => exact null.symm
  | some value => simp [quotedOrNull, optionalMember, textMember, quoted, quote]

theorem status_text (s : StatusSnapshot) : pointsOf (statusJson s) = objectText (statusMembers s) := by
  have uptime : pointsOf (bytesOf "\x7b\"uptime_ms\":") = 0x7b :: 0x22 :: (text "uptime_ms" ++ [0x22, 0x3a]) := by
    decide
  have revision : pointsOf (bytesOf ",\"revision\":") = 0x2c :: 0x22 :: (text "revision" ++ [0x22, 0x3a]) := by
    decide
  have free : pointsOf (bytesOf ",\"free_heap\":") = 0x2c :: 0x22 :: (text "free_heap" ++ [0x22, 0x3a]) := by
    decide
  have least : pointsOf (bytesOf ",\"min_free_heap\":") =
      0x2c :: 0x22 :: (text "min_free_heap" ++ [0x22, 0x3a]) := by decide
  have received : pointsOf (bytesOf ",\"ota_received_bytes\":") =
      0x2c :: 0x22 :: (text "ota_received_bytes" ++ [0x22, 0x3a]) := by decide
  have total : pointsOf (bytesOf ",\"ota_total_bytes\":") =
      0x2c :: 0x22 :: (text "ota_total_bytes" ++ [0x22, 0x3a]) := by decide
  have wifi : pointsOf (bytesOf ",\"capabilities\":\x7b\"wifi\":\"") =
      0x2c :: 0x22 :: (text "capabilities" ++ 0x22 :: 0x3a :: 0x7b :: 0x22 :: (text "wifi" ++ [0x22, 0x3a, 0x22])) := by
    decide
  have mqtt : pointsOf (bytesOf "\",\"mqtt\":\"") = 0x22 :: 0x2c :: 0x22 :: (text "mqtt" ++ [0x22, 0x3a, 0x22]) := by
    decide
  have frp : pointsOf (bytesOf "\",\"frp\":\"") = 0x22 :: 0x2c :: 0x22 :: (text "frp" ++ [0x22, 0x3a, 0x22]) := by
    decide
  have config : pointsOf (bytesOf "\",\"config\":\"") =
      0x22 :: 0x2c :: 0x22 :: (text "config" ++ [0x22, 0x3a, 0x22]) := by decide
  have ota : pointsOf (bytesOf "\",\"ota\":\"") = 0x22 :: 0x2c :: 0x22 :: (text "ota" ++ [0x22, 0x3a, 0x22]) := by
    decide
  have close : pointsOf (bytesOf "\"\x7d\x7d") = [0x22, 0x7d, 0x7d] := by decide
  unfold statusJson
  simp only [pointsOf_append, uptime, revision, free, least, received, total, wifi, mqtt, frp, config, ota,
    close, statusMembers, capabilityMembers, objectText, membersText, Member.text, numberMember, textMember,
    objectMember, quoted, List.append_assoc, List.cons_append, List.nil_append]

theorem receipt_text (view : OtaReceiptView) : pointsOf (receiptJson view) = objectText (receiptMembers view) := by
  have operation : pointsOf (bytesOf "\x7b\"operation_id\":\"") =
      0x7b :: 0x22 :: (text "operation_id" ++ [0x22, 0x3a, 0x22]) := by decide
  have sha : pointsOf (bytesOf "\",\"sha256\":\"") =
      0x22 :: 0x2c :: 0x22 :: (text "sha256" ++ [0x22, 0x3a, 0x22]) := by decide
  have size : pointsOf (bytesOf "\",\"image_size_bytes\":") =
      0x22 :: 0x2c :: 0x22 :: (text "image_size_bytes" ++ [0x22, 0x3a]) := by decide
  have target : pointsOf (bytesOf ",\"target\":\"") =
      0x2c :: 0x22 :: (text "target" ++ [0x22, 0x3a, 0x22]) := by decide
  have slot : pointsOf (bytesOf "\",\"target_slot\":\"") =
      0x22 :: 0x2c :: 0x22 :: (text "target_slot" ++ [0x22, 0x3a, 0x22]) := by decide
  have close : pointsOf (bytesOf "\"\x7d") = [0x22, 0x7d] := by decide
  simp only [receiptJson, pointsOf_append, operation, sha, size, target, slot, close, receiptMembers, objectText,
    membersText, Member.text, numberMember, textMember, quoted, List.append_assoc, List.cons_append, List.nil_append]

theorem resultMember_source (result : ResultObject) : (resultMember result).source = pointsOf result.bytes := by
  cases result with
  | null => decide
  | status s => exact (status_text s).symm
  | receipt view => exact (receipt_text view).symm

theorem Answer.text (a : Answer) : pointsOf a.bytes = objectText a.members := by
  have device : pointsOf (bytesOf "\x7b\"protocol_version\":1,\"device_id\":\"") =
      0x7b :: 0x22 :: (Unicode.text "protocol_version" ++ 0x22 :: 0x3a :: (pointsOf (decimal 1) ++
        0x2c :: 0x22 :: (Unicode.text "device_id" ++ [0x22, 0x3a, 0x22]))) := by decide
  have boot : pointsOf (bytesOf "\",\"boot_id\":\"") =
      0x22 :: 0x2c :: 0x22 :: (Unicode.text "boot_id" ++ [0x22, 0x3a, 0x22]) := by decide
  have request : pointsOf (bytesOf "\",\"request_id\":") =
      0x22 :: 0x2c :: 0x22 :: (Unicode.text "request_id" ++ [0x22, 0x3a]) := by decide
  have state : pointsOf (bytesOf ",\"state\":\"") =
      0x2c :: 0x22 :: (Unicode.text "state" ++ [0x22, 0x3a, 0x22]) := by decide
  have error : pointsOf (bytesOf "\",\"error_code\":") =
      0x22 :: 0x2c :: 0x22 :: (Unicode.text "error_code" ++ [0x22, 0x3a]) := by decide
  have result : pointsOf (bytesOf ",\"result\":") = 0x2c :: 0x22 :: (Unicode.text "result" ++ [0x22, 0x3a]) := by
    decide
  have close : pointsOf (bytesOf "\x7d") = [0x7d] := by decide
  have requestKey (value : Option (List UInt8)) : (optionalMember "request_id" value).key = Unicode.text "request_id" := by
    cases value <;> rfl
  have errorKey (value : Option (List UInt8)) : (optionalMember "error_code" value).key = Unicode.text "error_code" := by
    cases value <;> rfl
  have resultKey (value : ResultObject) : (resultMember value).key = Unicode.text "result" := by cases value <;> rfl
  simp only [Answer.bytes, resultHead, pointsOf_append, device, boot, request, state, error, result, close,
    optionalMember_source, resultMember_source, Answer.members, objectText,
    membersText, Member.text, numberMember, textMember, quoted, requestKey, errorKey, resultKey, List.append_assoc,
    List.cons_append, List.nil_append]

theorem uuid_plain (id : CString) (uuid : isUuid id) : id.bytes.all plainByte = true := by
  have digit : ∀ n < 256, lowerHex (UInt8.ofNat n) = true → plainByte (UInt8.ofNat n) = true := by decide +kernel
  rw [List.all_eq_true]
  intro byte member
  rcases uuid_byte id uuid byte member with rfl | hex
  · decide
  · have here := digit byte.toNat byte.toNat_lt
    simp only [UInt8.ofNat_toNat] at here
    exact here hex

theorem identifier_plain (name : String) (identifier : Identifier name) : (bytesOf name).all plainByte = true := by
  have plain := identifier.plain
  simp only [identifier.bytes, List.all_map, List.all_eq_true, Bool.and_eq_true, Function.comp_apply] at plain ⊢
  exact fun c member => (plain c member).2

theorem hexText_plain (bytes : List UInt8) : (hexText bytes).all plainByte = true := by
  have digit : ∀ n < 256, plainByte (hexDigit (UInt8.ofNat n >>> 4)) = true ∧
      plainByte (hexDigit (UInt8.ofNat n &&& 15)) = true := by decide +kernel
  induction bytes with
  | nil => rfl
  | cons byte rest ih =>
    have here := digit byte.toNat byte.toNat_lt
    simp only [UInt8.ofNat_toNat] at here
    simp only [hexText] at ih
    simp [hexText, here, ih]

structure Member.Shown (need : Nat) (m : Member) : Prop where
  reads : m.Reads need
  visible : EspBase.visible m.source = true

theorem textMember_shown (key : String) (value : List UInt8) (plainKey : (text key).all plainPoint = true)
    (plain : value.all plainByte = true) : (textMember key value).Shown 0 := by
  have shown := plain_points value plain
  constructor
  case reads => exact ⟨plainKey, reads_string _ shown⟩
  case visible =>
    have inside : visible (pointsOf value) = true := plain_shown _ shown
    simp only [visible] at inside
    simp [textMember, quoted, visible, inside]

theorem numberMember_shown (key : String) (n : Nat) (plainKey : (text key).all plainPoint = true)
    (small : n < 2 ^ 64) : (numberMember key n).Shown 0 := by
  constructor
  case reads => exact ⟨plainKey, reads_decimal n small⟩
  case visible => exact digits_shown _ (decimal_digits n)

theorem nullMember_shown (key : String) (plainKey : (text key).all plainPoint = true) : (nullMember key).Shown 0 := by
  constructor
  case reads => exact ⟨plainKey, reads_null⟩
  case visible =>
    change EspBase.visible (text "null") = true
    decide

theorem optionalMember_shown (key : String) (value : Option (List UInt8))
    (plainKey : (text key).all plainPoint = true) (plain : ∀ bytes, value = some bytes → bytes.all plainByte = true) :
    (optionalMember key value).Shown 0 := by
  cases value with
  | none => exact nullMember_shown key plainKey
  | some bytes => exact textMember_shown key bytes plainKey (plain bytes rfl)

theorem membersText_visible (need : Nat) (members : List Member) (each : ∀ m ∈ members, m.Shown need) :
    visible (membersText members) = true := by
  have member (m : Member) (shown : m.Shown need) : visible m.text = true := by
    have key : visible m.key = true := plain_shown _ shown.reads.key
    have source := shown.visible
    simp only [visible] at key source
    simp [Member.text, quoted, visible, key, source]
  induction members with
  | nil => rfl
  | cons m members ih =>
    have here := member m (each m List.mem_cons_self)
    have others := ih (fun other inside => each other (List.mem_cons_of_mem m inside))
    cases members with
    | nil => exact here
    | cons next more =>
      simp only [visible] at here others
      simp [membersText, visible, here, others]

theorem objectText_visible (need : Nat) (members : List Member) (each : ∀ m ∈ members, m.Shown need) :
    visible (objectText members) = true := by
  have inside := membersText_visible need members each
  simp only [visible] at inside
  simp [objectText, visible, inside]

theorem objectMember_shown (key : String) (members : List Member) (need : Nat)
    (plainKey : (text key).all plainPoint = true) (some_member : members ≠ [])
    (each : ∀ m ∈ members, m.Shown need) (distinct : (members.map Member.key).Nodup) (nested : 1 ≤ need) :
    (objectMember key members).Shown (need + 1) := by
  constructor
  case reads =>
    exact ⟨plainKey, reads_object need members some_member (fun m inside => (each m inside).reads) distinct nested⟩
  case visible => exact objectText_visible need members each

theorem Member.Shown.raise {m : Member} {need more : Nat} (shown : m.Shown need) (larger : need ≤ more) :
    m.Shown more := ⟨⟨shown.reads.key, shown.reads.source.raise larger⟩, shown.visible⟩

theorem capabilities_shown (s : StatusSnapshot) : ∀ m ∈ capabilityMembers s, m.Shown 1 := by
  have wifi : (bytesOf s.wifi.text).all plainByte = true := by cases s.wifi <;> decide
  have mqtt : (bytesOf s.mqtt.text).all plainByte = true := by cases s.mqtt <;> decide
  have frp : (bytesOf s.frp.text).all plainByte = true := by cases s.frp <;> decide
  have config : (bytesOf s.config.text).all plainByte = true := by cases s.config <;> decide
  have ota : (bytesOf s.ota.text).all plainByte = true := by cases s.ota <;> decide
  have each (key : String) (value : List UInt8) (plainKey : (text key).all plainPoint = true)
      (plain : value.all plainByte = true) : (textMember key value).Shown 1 :=
    (textMember_shown key value plainKey plain).raise (by decide)
  simp only [capabilityMembers, List.forall_mem_cons, List.not_mem_nil, false_implies, implies_true, and_true]
  exact ⟨each _ _ (by decide) wifi, each _ _ (by decide) mqtt, each _ _ (by decide) frp,
    each _ _ (by decide) config, each _ _ (by decide) ota⟩

theorem status_shown (s : StatusSnapshot) (sized : s.Sized) : ∀ m ∈ statusMembers s, m.Shown 2 := by
  have word (n : Nat) (small : n < 2 ^ 32) : n < 2 ^ 64 := lt_trans small (by decide)
  have number (key : String) (n : Nat) (plainKey : (text key).all plainPoint = true) (small : n < 2 ^ 64) :
      (numberMember key n).Shown 2 := (numberMember_shown key n plainKey small).raise (by decide)
  simp only [statusMembers, List.forall_mem_cons, List.not_mem_nil, false_implies, implies_true, and_true]
  exact ⟨number _ _ (by decide) sized.uptime, number _ _ (by decide) (word _ s.revision.toNat_lt),
    number _ _ (by decide) (word _ sized.freeHeap), number _ _ (by decide) (word _ sized.minimumFreeHeap),
    number _ _ (by decide) (word _ sized.otaReceived), number _ _ (by decide) (word _ sized.otaTotal),
    objectMember_shown _ _ 1 (by decide) (by simp [capabilityMembers]) (capabilities_shown s)
      (by simp only [capabilityMembers, textMember, List.map_cons, List.map_nil]; decide) (by decide)⟩

theorem receipt_shown (view : OtaReceiptView) (uuid : isUuid view.operationId) :
    ∀ m ∈ receiptMembers view, m.Shown 1 := by
  have slot : (bytesOf (if view.targetSubtype = appOta0 then "ota_0" else "ota_1")).all plainByte = true := by
    split <;> decide
  have each (key : String) (value : List UInt8) (plainKey : (text key).all plainPoint = true)
      (plain : value.all plainByte = true) : (textMember key value).Shown 1 :=
    (textMember_shown key value plainKey plain).raise (by decide)
  have size := (numberMember_shown "image_size_bytes" view.imageSizeBytes.toNat (by decide)
    (lt_trans view.imageSizeBytes.toNat_lt (by decide))).raise (Nat.zero_le 1)
  simp only [receiptMembers, List.forall_mem_cons, List.not_mem_nil, false_implies, implies_true, and_true]
  exact ⟨each _ _ (by decide) (uuid_plain _ uuid), each _ _ (by decide) (hexText_plain _), size,
    each _ _ (by decide) (by decide), each _ _ (by decide) slot⟩

theorem result_shown (result : ResultObject) (sized : result.Sized) : (resultMember result).Shown 3 := by
  have plainKey : (text "result").all plainPoint = true := by decide
  cases result with
  | null => exact (nullMember_shown "result" plainKey).raise (by decide)
  | status s =>
    exact objectMember_shown _ _ 2 plainKey (by simp [statusMembers]) (status_shown s sized)
      (by simp only [statusMembers, numberMember, objectMember, List.map_cons, List.map_nil]; decide) (by decide)
  | receipt view =>
    exact (objectMember_shown _ _ 1 plainKey (by simp [receiptMembers]) (receipt_shown view sized)
      (by simp only [receiptMembers, numberMember, textMember, List.map_cons, List.map_nil]; decide)
      (by decide)).raise (by decide)

theorem Answer.keys (a : Answer) : a.members.map Member.key = resultKeys := by
  have requestKey (value : Option (List UInt8)) : (optionalMember "request_id" value).key = Unicode.text "request_id" := by
    cases value <;> rfl
  have errorKey (value : Option (List UInt8)) : (optionalMember "error_code" value).key = Unicode.text "error_code" := by
    cases value <;> rfl
  have resultKey (value : ResultObject) : (resultMember value).key = Unicode.text "result" := by cases value <;> rfl
  simp only [Answer.members, List.map_cons, List.map_nil, requestKey, errorKey, resultKey, numberMember, textMember,
    resultKeys]

theorem Answer.Formed.shown {a : Answer} (formed : a.Formed) : ∀ m ∈ a.members, m.Shown 3 := by
  have each (key : String) (value : List UInt8) (plainKey : (Unicode.text key).all plainPoint = true)
      (plain : value.all plainByte = true) : (textMember key value).Shown 3 :=
    (textMember_shown key value plainKey plain).raise (by decide)
  have state : (bytesOf a.state.text).all plainByte = true := by cases a.state <;> decide
  have request : ∀ bytes, a.requestId.map CString.bytes = some bytes → bytes.all plainByte = true := by
    intro bytes given
    obtain ⟨id, here, rfl⟩ := Option.map_eq_some_iff.mp given
    exact uuid_plain id (formed.request id here)
  have error : ∀ bytes, a.error.map bytesOf = some bytes → bytes.all plainByte = true := by
    intro bytes given
    obtain ⟨name, here, rfl⟩ := Option.map_eq_some_iff.mp given
    exact identifier_plain name (formed.error.named name here)
  simp only [Answer.members, List.forall_mem_cons, List.not_mem_nil, false_implies, implies_true, and_true]
  exact ⟨(numberMember_shown _ 1 (by decide) (by decide)).raise (by decide),
    each _ _ (by decide) (uuid_plain _ formed.device), each _ _ (by decide) (uuid_plain _ formed.boot),
    (optionalMember_shown _ _ (by decide) request).raise (by decide), each _ _ (by decide) state,
    (optionalMember_shown _ _ (by decide) error).raise (by decide), result_shown _ formed.result⟩

theorem Answer.Formed.loads {a : Answer} (formed : a.Formed) (room : Nat) (calls : 4 ≤ room) :
    jsonLoads room (pointsOf a.bytes) = .value a.loaded [] := by
  have distinct : (a.members.map Member.key).Nodup := by
    rw [a.keys]
    decide
  rw [a.text]
  exact jsonLoads_object 3 a.members (by simp [Answer.members]) (fun m inside => (formed.shown m inside).reads)
    distinct (by decide) room calls

theorem Answer.Formed.visible {a : Answer} (formed : a.Formed) : EspBase.visible (pointsOf a.bytes) = true := by
  rw [a.text]
  exact objectText_visible 3 a.members formed.shown

theorem Answer.Formed.lineResult {a : Answer} (formed : a.Formed) (room : Nat) (calls : 4 ≤ room)
    (requestId : Text) :
    EspBase.lineResult room requestId a.bytes =
      if answers requestId a.loaded then .yielded a.loaded else .skipped := by
  have all := formed.visible
  have short := formed.length
  have held : fits a.bytes := by
    refine ⟨?_, (visible_unbroken _ all).2⟩
    have bound : frpResponseBytes ≤ bufferLimit := by decide
    omega
  have object : a.bytes.head? = some 0x7b := by
    have first : (bytesOf "\x7b\"protocol_version\":1,\"device_id\":\"").head? = some 0x7b := by decide
    simp only [Answer.bytes, resultHead, List.head?_append, first, Option.some_or]
  rw [EspBase.lineResult, if_pos ⟨held, object⟩, loadLine, decode_visible _ all]
  simp only [formed.loads room calls]

theorem canonicalId_uuid (id : CString) (uuid : isUuid id) : canonicalId (pointsOf id.bytes) = true := by
  obtain ⟨length, bytes, version, variant⟩ := (isUuid_canonical id).mp uuid
  have point (i : Nat) (inside : i < 36) : (pointsOf id.bytes)[i]? = some (bytePoint (id.at i)) := by
    have held : i < id.bytes.length := by omega
    simp [pointsOf, bytePoint, CString.at, held]
  have hex : ∀ n < 256, lowerHex (UInt8.ofNat n) = true → lowerHexPoint (bytePoint (UInt8.ofNat n)) = true := by
    decide +kernel
  have places : ∀ i < 36, uuidPoint (pointsOf id.bytes) i = true := by
    intro i inside
    have here := bytes i inside
    rw [uuidPoint, point i inside, Option.any_some]
    unfold uuidByte hyphenAt at here
    split
    next hyphen =>
      rw [if_pos hyphen, beq_iff_eq] at here
      rw [here]
      decide
    next plain =>
      have digit := hex (id.at i).toNat (id.at i).toNat_lt
      rw [if_neg plain] at here
      rw [UInt8.ofNat_toNat] at digit
      exact digit here
  have last : ((pointsOf id.bytes)[19]?).any
      (fun c => c == 0x38 || c == 0x39 || c == 0x61 || c == 0x62) = true := by
    rw [point 19 (by decide), Option.any_some]
    rcases variant with same | same | same | same <;> rw [same] <;> decide
  have four : ((pointsOf id.bytes)[14]? == some 0x34) = true := by
    rw [point 14 (by decide), version]
    decide
  have all : (List.range 36).all (uuidPoint (pointsOf id.bytes)) = true :=
    List.all_eq_true.mpr (fun i member => places i (List.mem_range.mp member))
  have size : ((pointsOf id.bytes).length == 36) = true := by simp [pointsOf, length]
  rw [canonicalId, size, all, four, last]
  rfl

theorem item_index (entries : List (Text × Loaded)) (key : String) :
    item entries key = (entries[(entries.map Prod.fst).findIdx (fun held => held == text key)]?).map Prod.snd := by
  rw [item, List.find?_eq_getElem?_findIdx, List.findIdx_map]
  rfl

theorem Answer.item (a : Answer) (key : String) (i : Nat)
    (index : resultKeys.findIdx (fun held => held == Unicode.text key) = i) :
    EspBase.item (a.members.map Member.entry) key = (a.members[i]?).map Member.value := by
  have keys : (a.members.map Member.entry).map Prod.fst = resultKeys := by
    rw [List.map_map, ← a.keys]
    rfl
  rw [item_index, keys, index, List.getElem?_map]
  cases a.members[i]? <;> rfl

theorem Agrees.fits {state : ResultState} {error : Option String} (agrees : Agrees state error) (key : String) :
    knownStates.contains (pointsOf (bytesOf state.text)) = true ∧
      errorFits (failedStates.contains (pointsOf (bytesOf state.text)))
        (some (optionalMember key (error.map bytesOf)).value) = true := by
  have absent := agrees.absent
  have named (name : String) (given : error = some name) : (pointsOf (bytesOf name) != []) = true := by
    have nonempty := (agrees.named name given).nonempty
    simpa [pointsOf, (agrees.named name given).bytes] using nonempty
  cases error with
  | none =>
    have unfailed : state = .running ∨ state = .succeeded := absent.mp rfl
    rcases unfailed with rfl | rfl
    · refine ⟨by decide, ?_⟩
      change errorFits (failedStates.contains (pointsOf (bytesOf ResultState.running.text))) (some .null) = true
      decide
    · refine ⟨by decide, ?_⟩
      change errorFits (failedStates.contains (pointsOf (bytesOf ResultState.succeeded.text))) (some .null) = true
      decide
  | some name =>
    have filled := named name rfl
    cases state with
    | running => exact absurd (absent.mpr (Or.inl rfl)) (by simp)
    | succeeded => exact absurd (absent.mpr (Or.inr rfl)) (by simp)
    | failed =>
      have failed : failedStates.contains (pointsOf (bytesOf ResultState.failed.text)) = true := by decide
      refine ⟨by decide, ?_⟩
      rw [failed]
      simpa [errorFits, optionalMember, textMember] using filled
    | expired =>
      have failed : failedStates.contains (pointsOf (bytesOf ResultState.expired.text)) = true := by decide
      refine ⟨by decide, ?_⟩
      rw [failed]
      simpa [errorFits, optionalMember, textMember] using filled
    | unknown =>
      have failed : failedStates.contains (pointsOf (bytesOf ResultState.unknown.text)) = true := by decide
      refine ⟨by decide, ?_⟩
      rw [failed]
      simpa [errorFits, optionalMember, textMember] using filled

theorem resultFits_member (result : ResultObject) : resultFits (some (resultMember result).value) = true := by
  cases result <;> rfl

theorem Answer.Formed.answers_iff {a : Answer} (formed : a.Formed) (id : CString) :
    answers (pointsOf id.bytes) a.loaded = true ↔ a.requestId = some id := by
  have keys : (a.members.map Member.entry).map Prod.fst = resultKeys := by
    rw [List.map_map, ← a.keys]
    rfl
  have only : (a.members.map Member.entry).all (fun entry => resultKeys.contains entry.1) = true := by
    have known : ((a.members.map Member.entry).map Prod.fst).all resultKeys.contains = true := by
      rw [keys]
      decide
    rw [List.all_map] at known
    exact known
  have every : resultKeys.all (fun key => ((a.members.map Member.entry).map Prod.fst).contains key) = true := by
    rw [keys]
    decide
  have version := a.item "protocol_version" 0 (by decide)
  have device := a.item "device_id" 1 (by decide)
  have boot := a.item "boot_id" 2 (by decide)
  have request := a.item "request_id" 3 (by decide)
  have state := a.item "state" 4 (by decide)
  have error := a.item "error_code" 5 (by decide)
  have result := a.item "result" 6 (by decide)
  simp only [Answer.loaded, answers]
  generalize a.members.map Member.entry = entries at only every version device boot request state error result ⊢
  simp only [Answer.members, List.getElem?_cons_zero, List.getElem?_cons_succ, Option.map_some, numberMember,
    textMember] at version device boot request state error result
  obtain ⟨known, fits⟩ := formed.error.fits "error_code"
  simp only [only, every, version, device, boot, request, state, error, result, isCanonical,
    canonicalId_uuid _ formed.device, canonicalId_uuid _ formed.boot, known, fits, resultFits_member, Bool.and_true,
    Bool.true_and, Nat.cast_one]
  cases a.requestId with
  | none => simp [optionalMember, nullMember]
  | some held =>
    simp only [Option.map_some, optionalMember, textMember, beq_iff_eq, Option.some.injEq]
    constructor
    · exact fun same => CString.ext (pointsOf_injective _ _ same)
    · exact fun same => congrArg (fun id => pointsOf id.bytes) same

def LineResult.told : LineResult → Option Loaded
  | .yielded value => some value
  | _ => none

section Lines

variable (room : Nat) (requestId : Text)

theorem lines_told (lines : List (List UInt8)) (yielded : List Loaded) :
    (run (nextLine room requestId) lines (between yielded)).yielded <+:
      yielded ++ lines.filterMap (fun line => (lineResult room requestId line).told) := by
  induction lines generalizing yielded with
  | nil => simp [between]
  | cons line rest ih =>
    cases result : lineResult room requestId line with
    | skipped => simpa [nextLine, between, finishLine, LineResult.told, result] using ih yielded
    | yielded value =>
      simpa [nextLine, between, finishLine, LineResult.told, result] using ih (yielded ++ [value])
    | raised =>
      have stopped : (nextLine room requestId line (between yielded)).raised = true := by
        simp [nextLine, between, finishLine, result]
      rw [run_cons, lines_raised room requestId rest _ stopped]
      simp [nextLine, between, finishLine, LineResult.told, result]

theorem lines_heard (lines : List (List UInt8)) (yielded : List Loaded)
    (shallow : ∀ line ∈ lines, ¬Exhausts room line) :
    run (nextLine room requestId) lines (between yielded) =
      between (yielded ++ lines.filterMap (fun line => (lineResult room requestId line).told)) := by
  induction lines generalizing yielded with
  | nil => simp
  | cons line rest ih =>
    have later (more : List Loaded) := ih more (fun other inside => shallow other (List.mem_cons_of_mem line inside))
    have here := shallow line List.mem_cons_self
    rw [← lineResult_raised room requestId] at here
    cases result : lineResult room requestId line with
    | skipped => simpa [nextLine, between, finishLine, LineResult.told, result] using later yielded
    | yielded value =>
      simpa [nextLine, between, finishLine, LineResult.told, result] using later (yielded ++ [value])
    | raised => exact absurd result here

-- The lines of the console, each text on one of its own.
def consoleLines (pieces : List (List UInt8 × List UInt8)) : List (List UInt8) :=
  pieces.flatMap (fun piece => piece.1.splitOn 0x0a ++ [piece.2])

theorem readResult_texts (pieces : List (List UInt8 × List UInt8)) (yielded : List Loaded)
    (unbroken : ∀ piece ∈ pieces, 0x0a ∉ piece.2) :
    run (readByte room requestId) (pieces.flatMap (fun piece => piece.1 ++ ([0x0a] ++ piece.2 ++ [0x0a])))
        (between yielded) =
      run (nextLine room requestId) (consoleLines pieces) (between yielded) := by
  induction pieces generalizing yielded with
  | nil => rfl
  | cons piece rest ih =>
    have later (more : List Loaded) := ih more (fun other inside => unbroken other (List.mem_cons_of_mem piece inside))
    have line := unbroken piece List.mem_cons_self
    have lines : (piece.1 ++ [0x0a] ++ piece.2).splitOn 0x0a = piece.1.splitOn 0x0a ++ [piece.2] := by
      rw [List.append_assoc, List.singleton_append, List.splitOn_append_cons_self, List.splitOn_eq_singleton line]
    have read := run_lines room requestId (piece.1 ++ [0x0a] ++ piece.2) [] yielded
    rw [modifyHead_nil, lines] at read
    have start : between yielded = holding [] yielded := rfl
    have shape : piece.1 ++ ([0x0a] ++ piece.2 ++ [0x0a]) = piece.1 ++ [0x0a] ++ piece.2 ++ [0x0a] := by simp
    rw [List.flatMap_cons, run_append, shape]
    have first : run (readByte room requestId) (piece.1 ++ [0x0a] ++ piece.2 ++ [0x0a]) (between yielded) =
        run (nextLine room requestId) (piece.1.splitOn 0x0a ++ [piece.2]) (between yielded) := start ▸ read
    have split : consoleLines (piece :: rest) = piece.1.splitOn 0x0a ++ [piece.2] ++ consoleLines rest := rfl
    rw [first, split, run_append (nextLine room requestId) (piece.1.splitOn 0x0a ++ [piece.2])]
    cases raised : (run (nextLine room requestId) (piece.1.splitOn 0x0a ++ [piece.2]) (between yielded)).raised with
    | true => rw [run_raised room requestId _ _ raised, lines_raised room requestId _ _ raised]
    | false =>
      obtain ⟨more, next⟩ := lines_between room requestId _ _ raised
      rw [next]
      exact later more

end Lines

def Event.usb : Event → Option (List UInt8)
  | .sent false text => some text
  | _ => none

def usbTexts (log : List Event) : List (List UInt8) := log.filterMap Event.usb

theorem usb_delivery (viaMqtt : Bool) (text : List UInt8) :
    (delivery viaMqtt text).usb = if viaMqtt then none else some ([0x0a] ++ text ++ [0x0a]) := by
  have newline : bytesOf "\n" = [0x0a] := by decide
  cases viaMqtt with
  | false => simp [delivery, Event.usb, newline]
  | true => rfl

theorem usb_unspoken (event : Event) (unspoken : event.spoken = false) : event.usb = none := by
  cases event with
  | sent viaMqtt text => cases unspoken
  | _ => rfl

def Answer.usb (a : Answer) : List UInt8 := [0x0a] ++ a.bytes ++ [0x0a]

structure Spoken (deviceId bootId : CString) (texts : List (List UInt8)) (answers : List Answer) : Prop where
  texts : texts = answers.map Answer.usb
  formed : ∀ a ∈ answers, a.Formed
  device : ∀ a ∈ answers, a.deviceId = deviceId
  boot : ∀ a ∈ answers, a.bootId = bootId

theorem Conversation.usb {deviceId bootId : CString} {log : List Event} (talk : Conversation deviceId bootId log) :
    ∃ answers, Spoken deviceId bootId (usbTexts log) answers := by
  have told (viaMqtt : Bool) (answer : Answer) (rest : List Event) (formed : answer.Formed)
      (device : answer.deviceId = deviceId) (boot : answer.bootId = bootId)
      (later : ∃ answers, Spoken deviceId bootId (usbTexts rest) answers) :
      ∃ answers, Spoken deviceId bootId (usbTexts (delivery viaMqtt answer.bytes :: rest)) answers := by
    obtain ⟨answers, spoken⟩ := later
    have here := usb_delivery viaMqtt answer.bytes
    cases viaMqtt with
    | true =>
      have skipped : usbTexts (delivery true answer.bytes :: rest) = usbTexts rest := List.filterMap_cons_none here
      exact ⟨answers, skipped ▸ spoken⟩
    | false =>
      have spokenHere : usbTexts (delivery false answer.bytes :: rest) = answer.usb :: usbTexts rest :=
        List.filterMap_cons_some here
      rw [spokenHere]
      constructor
      case w => exact answer :: answers
      case h =>
        constructor
        case texts => rw [spoken.texts, List.map_cons]
        case formed => exact List.forall_mem_cons.mpr ⟨formed, spoken.formed⟩
        case device => exact List.forall_mem_cons.mpr ⟨device, spoken.device⟩
        case boot => exact List.forall_mem_cons.mpr ⟨boot, spoken.boot⟩
  induction talk with
  | nil => exact ⟨[], rfl, by simp, by simp, by simp⟩
  | silent event rest unspoken _ ih =>
    have skipped : usbTexts (event :: rest) = usbTexts rest :=
      List.filterMap_cons_none (usb_unspoken event unspoken)
    exact skipped ▸ ih
  | answered viaMqtt answer rest formed device boot _ ih => exact told viaMqtt answer rest formed device boot ih
  | saved slot out answer rest formed device boot conveys _ ih =>
    have after := told out.viaMqtt answer rest formed device boot ih
    have skipped : usbTexts (.saved slot out :: delivery out.viaMqtt answer.bytes :: rest) =
        usbTexts (delivery out.viaMqtt answer.bytes :: rest) := List.filterMap_cons_none rfl
    exact skipped ▸ after

def answersTo (id : CString) (answers : List Answer) : List Loaded :=
  (answers.filter (fun a => a.requestId = some id)).map Answer.loaded

-- No line that the console writes here is taken for an answer.
def Unlike (room : Nat) (requestId : Text) (noise : List UInt8) : Prop :=
  ∀ line ∈ noise.splitOn 0x0a, (lineResult room requestId line).told = none

-- No line is nested so deeply that `json.loads` gives up.
def Shallow (room : Nat) (noise : List UInt8) : Prop := ∀ line ∈ noise.splitOn 0x0a, ¬Exhausts room line

-- The bytes that the host gets: console output, then an answer, and so on.
def usbStream (noise texts : List (List UInt8)) : List UInt8 := (List.zipWith (· ++ ·) noise texts).flatten

theorem Answer.Formed.told {a : Answer} (formed : a.Formed) (room : Nat) (calls : 4 ≤ room) (id : CString) :
    EspBase.lineResult room (pointsOf id.bytes) a.bytes ≠ .raised ∧
      (EspBase.lineResult room (pointsOf id.bytes) a.bytes).told =
        if a.requestId = some id then some a.loaded else none := by
  rw [formed.lineResult room calls]
  by_cases named : a.requestId = some id
  · rw [if_pos ((formed.answers_iff id).mpr named), if_pos named]
    exact ⟨by simp, rfl⟩
  · rw [if_neg (fun taken => named ((formed.answers_iff id).mp taken)), if_neg named]
    exact ⟨by simp, rfl⟩

theorem answersTo_told (room : Nat) (calls : 4 ≤ room) (id : CString) (answers : List Answer)
    (formed : ∀ a ∈ answers, a.Formed) :
    (answers.map Answer.bytes).filterMap (fun line => (lineResult room (pointsOf id.bytes) line).told) =
      answersTo id answers := by
  induction answers with
  | nil => rfl
  | cons a rest ih =>
    have told := ((formed a List.mem_cons_self).told room calls id).2
    have later := ih (fun other inside => formed other (List.mem_cons_of_mem a inside))
    simp only [answersTo] at later ⊢
    rw [List.map_cons, List.filterMap_cons, told, later]
    by_cases named : a.requestId = some id <;> simp [named]

theorem consoleLines_told (room : Nat) (requestId : Text) (pieces : List (List UInt8 × List UInt8))
    (unlike : ∀ piece ∈ pieces, Unlike room requestId piece.1) :
    (consoleLines pieces).filterMap (fun line => (lineResult room requestId line).told) =
      (pieces.map Prod.snd).filterMap (fun line => (lineResult room requestId line).told) := by
  induction pieces with
  | nil => rfl
  | cons piece rest ih =>
    have later := ih (fun other inside => unlike other (List.mem_cons_of_mem piece inside))
    have silent : (piece.1.splitOn 0x0a).filterMap (fun line => (lineResult room requestId line).told) = [] :=
      List.filterMap_eq_nil_iff.mpr (unlike piece List.mem_cons_self)
    have split : consoleLines (piece :: rest) = piece.1.splitOn 0x0a ++ ([piece.2] ++ consoleLines rest) := by
      simp [consoleLines]
    rw [split, List.filterMap_append, silent, List.nil_append, List.filterMap_append, later, List.map_cons,
      ← List.filterMap_append, List.singleton_append]

theorem mem_consoleLines (noise texts : List (List UInt8)) (each : noise.length = texts.length) (line : List UInt8) :
    line ∈ consoleLines (noise.zip texts) ↔ (∃ piece ∈ noise, line ∈ piece.splitOn 0x0a) ∨ line ∈ texts := by
  have first : (noise.zip texts).map Prod.fst = noise := List.map_fst_zip each.le
  have second : (noise.zip texts).map Prod.snd = texts := List.map_snd_zip each.ge
  have member : line ∈ consoleLines (noise.zip texts) ↔
      (∃ piece ∈ (noise.zip texts).map Prod.fst, line ∈ piece.splitOn 0x0a) ∨
        line ∈ (noise.zip texts).map Prod.snd := by
    simp only [consoleLines, List.mem_flatMap, List.mem_append, List.mem_singleton, List.mem_map]
    constructor
    · rintro ⟨piece, inside, before | rfl⟩
      · exact .inl ⟨piece.1, ⟨piece, inside, rfl⟩, before⟩
      · exact .inr ⟨piece, inside, rfl⟩
    · rintro (⟨_, ⟨piece, inside, rfl⟩, before⟩ | ⟨piece, inside, rfl⟩)
      · exact ⟨piece, inside, .inl before⟩
      · exact ⟨piece, inside, .inr rfl⟩
  rw [member, first, second]

theorem readResult_answers (room : Nat) (calls : 4 ≤ room) (id : CString) (answers : List Answer)
    (formed : ∀ a ∈ answers, a.Formed) (noise : List (List UInt8)) (each : noise.length = answers.length)
    (unlike : ∀ piece ∈ noise, Unlike room (pointsOf id.bytes) piece) :
    (readResult room (pointsOf id.bytes) (usbStream noise (answers.map Answer.usb))).yielded <+:
        answersTo id answers ∧
      (readResult room (pointsOf id.bytes) (usbStream noise (answers.map Answer.usb)) =
          between (answersTo id answers) ↔ ∀ piece ∈ noise, Shallow room piece) := by
  have same : noise.length = (answers.map Answer.bytes).length := by simpa using each
  have stream : usbStream noise (answers.map Answer.usb) =
      (noise.zip (answers.map Answer.bytes)).flatMap (fun piece => piece.1 ++ ([0x0a] ++ piece.2 ++ [0x0a])) := by
    rw [usbStream, List.flatMap_def, List.zip, List.map_zipWith, List.zipWith_map_right, List.zipWith_map_right]
    rfl
  have unbroken : ∀ piece ∈ noise.zip (answers.map Answer.bytes), 0x0a ∉ piece.2 := by
    intro piece member
    obtain ⟨a, inside, spoken⟩ := List.mem_map.mp (List.of_mem_zip member).2
    exact spoken ▸ (visible_unbroken _ (formed a inside).visible).1
  have told : (consoleLines (noise.zip (answers.map Answer.bytes))).filterMap
      (fun line => (lineResult room (pointsOf id.bytes) line).told) = answersTo id answers := by
    rw [consoleLines_told room _ _ (fun piece member => unlike piece.1 (List.of_mem_zip member).1),
      List.map_snd_zip same.ge, answersTo_told room calls id answers formed]
  have read := readResult_texts room (pointsOf id.bytes) _ [] unbroken
  rw [stream]
  change readResult room _ _ = _ at read
  rw [read, ← told]
  refine ⟨by simpa using lines_told room (pointsOf id.bytes) (consoleLines _) [], ?_, ?_⟩
  · intro whole piece member line inside exhausted
    have raised := (lines_exhaust room (pointsOf id.bytes) _ []).mpr
      ⟨line, (mem_consoleLines _ _ same line).mpr (.inl ⟨piece, member, inside⟩), exhausted⟩
    rw [whole] at raised
    cases raised
  · intro shallow
    have sound : ∀ line ∈ consoleLines (noise.zip (answers.map Answer.bytes)), ¬Exhausts room line := by
      intro line member
      rcases (mem_consoleLines _ _ same line).mp member with ⟨piece, inside, here⟩ | text
      · exact shallow piece inside line here
      · obtain ⟨a, inside, rfl⟩ := List.mem_map.mp text
        rw [← lineResult_raised room (pointsOf id.bytes)]
        exact ((formed a inside).told room calls id).1
    simpa using lines_heard room (pointsOf id.bytes) _ [] sound

-- A log line, and what looks like an object and is none.
def consoleNoise : List UInt8 := bytesOf "I (812) wifi\n\x7b41"

theorem consoleNoise_lines : consoleNoise.splitOn 0x0a =
    [bytesOf "I (812) wifi", bytesOf "\x7b41"] := by decide

theorem consoleNoise_skipped (requestId : Text) :
    ∀ line ∈ consoleNoise.splitOn 0x0a, lineResult 4 requestId line = .skipped := by
  have object : fits (bytesOf "\x7b41") ∧ (bytesOf "\x7b41").head? = some 0x7b := by decide
  have log : ¬(fits (bytesOf "I (812) wifi") ∧
      (bytesOf "I (812) wifi").head? = some 0x7b) := by decide
  have points : decode (bytesOf "\x7b41") = some (text "\x7b41") := by decide
  have cut : jsonLoads 4 (text "\x7b41") = .valueError := by rfl
  rw [consoleNoise_lines]
  simp only [List.forall_mem_cons, List.not_mem_nil, false_implies, implies_true, and_true, lineResult, if_neg log,
    if_pos object, loadLine, points, cut]

theorem consoleNoise_quiet (requestId : Text) : Unlike 4 requestId consoleNoise ∧ Shallow 4 consoleNoise := by
  have skipped := consoleNoise_skipped requestId
  constructor
  · intro line member
    rw [skipped line member]
    rfl
  · intro line member exhausted
    have raised := (lineResult_raised 4 requestId line).mpr exhausted
    rw [skipped line member] at raised
    cases raised

end EspBase

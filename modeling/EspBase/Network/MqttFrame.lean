import EspBase.Identity.Uuid

set_option autoImplicit false

namespace EspBase

variable (hmacSha256 : ManagementKey → List UInt8 → Digest)

def ebaseMqttVerifiedRequest (a : PsaAnswers) (key : ManagementKey) (deviceId : CString)
    (message : EmqttMessage) : Bool × List UInt8 :=
  match mqttVerifiedRequest hmacSha256 a key deviceId message with
  | some request => (true, request)
  | none => (false, [])

def frameLineFeed : UInt8 := 0x0a

def signedPayload (key : ManagementKey) (request : List UInt8) : List UInt8 :=
  hexText (hmacSha256 key request).toList ++ frameLineFeed :: request

structure FrameOf (key : ManagementKey) (deviceId : CString) (message : EmqttMessage)
    (request : List UInt8) : Prop where
  device : Canonical deviceId
  topic : message.topic.bytes = bytesOf "esp-base/" ++ deviceId.bytes ++ bytesOf "/command"
  qos : message.qos = 1
  fresh : message.retain = false
  short : message.payload.length ≤ 4096
  nonempty : request ≠ []
  tagged : ∃ digits tag, digits.length = 64 ∧ (∀ c ∈ digits, lowerHex c = true) ∧ hexText tag = digits ∧
    message.payload = digits ++ frameLineFeed :: request ∧ (hmacSha256 key request).toList = tag

theorem mqttTopic_command (deviceId : CString) (topic : List UInt8) :
    mqttTopic deviceId .command = some topic ↔
      Canonical deviceId ∧ topic = bytesOf "esp-base/" ++ deviceId.bytes ++ bytesOf "/command" := by
  have names : (bytesOf "esp-base/").length = 9 ∧ (bytesOf "/").length = 1 ∧ (bytesOf "command").length = 7 := by
    decide +kernel
  have joined : bytesOf "/command" = bytesOf "/" ++ bytesOf "command" := by decide +kernel
  unfold mqttTopic
  dsimp only
  constructor
  · intro built
    split at built
    · cases built
    next uuid =>
      split at built
      next =>
        refine ⟨(isUuid_canonical deviceId).mp (by simpa using uuid), ?_⟩
        rw [joined, ← List.append_assoc]
        exact (Option.some.inj built).symm
      next => cases built
  · rintro ⟨canonical, rfl⟩
    have uuid : isUuid deviceId = true := (isUuid_canonical deviceId).mpr canonical
    rw [uuid, Bool.not_true, if_neg Bool.false_ne_true, if_pos]
    · rw [joined, ← List.append_assoc]
      rfl
    · simp only [List.length_append, names, canonical.length, MqttChannel.name]
      decide

theorem hexText_lowerHex (bytes : List UInt8) : ∀ c ∈ hexText bytes, lowerHex c = true := by
  intro c member
  obtain ⟨byte, -, digit⟩ := List.mem_flatMap.mp member
  obtain ⟨high, low⟩ := halves_small byte
  simp only [List.mem_cons, List.not_mem_nil, or_false] at digit
  rcases digit with rfl | rfl
  · exact hexDigit_lowerHex _ high
  · exact hexDigit_lowerHex _ low

theorem mqttFrame_some (deviceId : CString) (message : EmqttMessage) (tag request : List UInt8) :
    mqttFrame deviceId message = some (tag, request) ↔
      mqttTopic deviceId .command = some message.topic.bytes ∧ message.qos = 1 ∧ message.retain = false ∧
        message.payload.length ≤ 4096 ∧ request ≠ [] ∧ tag.length = 32 ∧
        message.payload = hexText tag ++ frameLineFeed :: request := by
  constructor
  · intro framed
    obtain ⟨read, rfl⟩ := mqttFrame_parts deviceId message tag request framed
    obtain ⟨size, rest, payload⟩ := hexTag_some _ _ _ read
    have digits : (hexText tag).length = 64 := by rw [hexText_length, size]; rfl
    unfold mqttFrame at framed
    split at framed
    · cases framed
    next header =>
      split at framed
      · cases framed
      next line =>
        simp only [not_or, not_not, Bool.not_eq_true, Nat.not_le, Nat.not_lt, mqttFrameBytes] at header line
        obtain ⟨qos, fresh, long, short⟩ := header
        obtain ⟨topic, mark⟩ := line
        have after : message.payload.drop 64 = rest := by
          rw [payload, ← digits, List.drop_left]
        have nonempty : message.payload.drop 65 ≠ [] := by
          rw [ne_eq, List.drop_eq_nil_iff]
          omega
        refine ⟨topic, qos, fresh, short, nonempty, size, ?_⟩
        have split : rest = frameLineFeed :: message.payload.drop 65 := by
          rw [← after, List.drop_eq_getElem_cons (by omega)]
          congr 1
          rw [List.getD_eq_getElem _ _ (by omega)] at mark
          exact mark
        rw [← split]
        exact payload
  · rintro ⟨topic, qos, fresh, short, nonempty, size, payload⟩
    have digits : (hexText tag).length = 64 := by rw [hexText_length, size]
    have long : 65 < message.payload.length := by
      have some_byte := List.length_pos_iff.mpr nonempty
      rw [payload]
      simp only [List.length_append, List.length_cons, digits]
      omega
    have read : hexTag managementTagBytes message.payload = some tag := by
      have whole := hexTag_hexText tag (frameLineFeed :: request)
      rwa [size, ← payload] at whole
    have mark : message.payload.getD 64 0 = 0x0a := by
      rw [payload, ← digits, List.getD_append_right _ _ _ _ (le_refl _), Nat.sub_self]
      rfl
    have rest : message.payload.drop 65 = request := by
      rw [payload, show 65 = (hexText tag).length + 1 by rw [digits], ← List.drop_drop, List.drop_left]
      rfl
    have header : ¬(message.qos ≠ 1 ∨ message.retain = true ∨ message.payload.length ≤ 65 ∨
        message.payload.length > mqttFrameBytes) := by
      simp only [qos, fresh, mqttFrameBytes]
      simp
      omega
    have line : ¬(mqttTopic deviceId .command ≠ some message.topic.bytes ∨
        message.payload.getD 64 0 ≠ 0x0a) := by
      simp only [topic, mark]
      simp
    rw [mqttFrame, if_neg header, if_neg line, read, rest]
    rfl

theorem managementAuthenticate_iff (key : ManagementKey) (tag request : List UInt8) :
    managementAuthenticate hmacSha256 {} key tag request = true ↔
      request ≠ [] ∧ request.length ≤ 4096 ∧ (hmacSha256 key request).toList = tag := by
  unfold managementAuthenticate managementRequestBytes
  split
  next sized =>
    rw [List.length_eq_zero_iff] at sized
    constructor
    · intro passed
      cases passed
    · rintro ⟨nonempty, short, -⟩
      rcases sized with empty | long
      · exact absurd empty nonempty
      · omega
  next sized =>
    rw [List.length_eq_zero_iff, not_or, not_lt] at sized
    simp [sized]

theorem mqttVerifiedRequest_iff (key : ManagementKey) (deviceId : CString) (message : EmqttMessage)
    (request : List UInt8) :
    mqttVerifiedRequest hmacSha256 {} key deviceId message = some request ↔
      FrameOf hmacSha256 key deviceId message request := by
  constructor
  · intro verified
    unfold mqttVerifiedRequest at verified
    split at verified
    · cases verified
    next tag framed found =>
      split at verified
      next passed =>
        obtain rfl := Option.some.inj verified
        obtain ⟨topic, qos, fresh, short, nonempty, size, payload⟩ :=
          (mqttFrame_some deviceId message tag framed).mp found
        obtain ⟨canonical, spelled⟩ := (mqttTopic_command deviceId message.topic.bytes).mp topic
        obtain ⟨-, -, authentic⟩ := (managementAuthenticate_iff hmacSha256 key tag framed).mp passed
        have digits : (hexText tag).length = 64 := by rw [hexText_length, size]
        exact
          { device := canonical
            topic := spelled
            qos
            fresh
            short
            nonempty
            tagged := ⟨hexText tag, tag, digits, hexText_lowerHex tag, rfl, payload, authentic⟩ }
      next => cases verified
  · rintro ⟨canonical, spelled, qos, fresh, short, nonempty, -, tag, digits, -, rfl, payload, authentic⟩
    have topic := (mqttTopic_command deviceId message.topic.bytes).mpr ⟨canonical, spelled⟩
    have size : tag.length = 32 := by
      rw [hexText_length] at digits
      omega
    have found := (mqttFrame_some deviceId message tag request).mpr
      ⟨topic, qos, fresh, short, nonempty, size, payload⟩
    have covered : request.length ≤ 4096 := by
      rw [payload, List.length_append, List.length_cons] at short
      omega
    have passed := (managementAuthenticate_iff hmacSha256 key tag request).mpr ⟨nonempty, covered, authentic⟩
    rw [mqttVerifiedRequest, found]
    exact if_pos passed

theorem verified_view (key : ManagementKey) (deviceId : CString) (message : EmqttMessage)
    (request : List UInt8) (frame : FrameOf hmacSha256 key deviceId message request) :
    ebaseMqttVerifiedRequest hmacSha256 {} key deviceId message = (true, request) := by
  rw [ebaseMqttVerifiedRequest, (mqttVerifiedRequest_iff hmacSha256 key deviceId message request).mpr frame]

theorem verified_frame (key : ManagementKey) (deviceId : CString) (message : EmqttMessage)
    (succeeded : (ebaseMqttVerifiedRequest hmacSha256 {} key deviceId message).1 = true) :
    ∃ request, FrameOf hmacSha256 key deviceId message request := by
  unfold ebaseMqttVerifiedRequest at succeeded
  split at succeeded
  next request verified =>
    exact ⟨request, (mqttVerifiedRequest_iff hmacSha256 key deviceId message request).mp verified⟩
  next => cases succeeded

theorem refused_view (a : PsaAnswers) (key : ManagementKey) (deviceId : CString) (message : EmqttMessage)
    (refused : (ebaseMqttVerifiedRequest hmacSha256 a key deviceId message).1 = false) :
    (ebaseMqttVerifiedRequest hmacSha256 a key deviceId message).2 = [] := by
  unfold ebaseMqttVerifiedRequest at refused ⊢
  split at refused
  · cases refused
  · rfl

theorem FrameOf.payload {key : ManagementKey} {deviceId : CString} {message : EmqttMessage}
    {request : List UInt8} (frame : FrameOf hmacSha256 key deviceId message request) :
    message.payload = signedPayload hmacSha256 key request := by
  obtain ⟨digits, tag, -, -, rfl, payload, authentic⟩ := frame.tagged
  rw [payload, signedPayload, authentic]

theorem signedPayload_frame (key : ManagementKey) (deviceId topic : CString) (request : List UInt8)
    (canonical : Canonical deviceId)
    (named : topic.bytes = bytesOf "esp-base/" ++ deviceId.bytes ++ bytesOf "/command")
    (nonempty : 1 ≤ request.length) (short : request.length ≤ 4031) :
    FrameOf hmacSha256 key deviceId ⟨topic, 1, false, signedPayload hmacSha256 key request⟩ request := by
  have digits : (hexText (hmacSha256 key request).toList).length = 64 := by
    rw [hexText_length, Vector.length_toList]
  have fits : (signedPayload hmacSha256 key request).length ≤ 4096 := by
    rw [signedPayload, List.length_append, List.length_cons, digits]
    omega
  have some_byte : request ≠ [] := List.length_pos_iff.mp nonempty
  exact
    { device := canonical
      topic := named
      qos := rfl
      fresh := rfl
      short := fits
      nonempty := some_byte
      tagged := ⟨_, _, digits, hexText_lowerHex _, rfl, rfl, rfl⟩ }

/-- The frames that are accepted, the view each leaves, and the one payload of each request. -/
theorem accepted_frames (key : ManagementKey) (deviceId : CString) :
    (∀ message, (ebaseMqttVerifiedRequest hmacSha256 {} key deviceId message).1 = true ↔
      ∃ request, FrameOf hmacSha256 key deviceId message request) ∧
    (∀ message request, FrameOf hmacSha256 key deviceId message request →
      (ebaseMqttVerifiedRequest hmacSha256 {} key deviceId message).2 = request) ∧
    (∀ message, (ebaseMqttVerifiedRequest hmacSha256 {} key deviceId message).1 = false →
      (ebaseMqttVerifiedRequest hmacSha256 {} key deviceId message).2 = []) ∧
    (∀ (topic : CString) (request : List UInt8), Canonical deviceId →
      topic.bytes = bytesOf "esp-base/" ++ deviceId.bytes ++ bytesOf "/command" →
      1 ≤ request.length → request.length ≤ 4031 →
      ∃! payload, ebaseMqttVerifiedRequest hmacSha256 {} key deviceId ⟨topic, 1, false, payload⟩ =
        (true, request)) := by
  refine ⟨fun message => ⟨verified_frame hmacSha256 key deviceId message, ?_⟩, ?_, ?_, ?_⟩
  · rintro ⟨request, frame⟩
    rw [verified_view hmacSha256 key deviceId message request frame]
  · intro message request frame
    rw [verified_view hmacSha256 key deviceId message request frame]
  · exact refused_view hmacSha256 {} key deviceId
  · intro topic request canonical named nonempty short
    refine ⟨signedPayload hmacSha256 key request, ?_, fun payload accepted => ?_⟩
    · have frame := signedPayload_frame hmacSha256 key deviceId topic request canonical named nonempty short
      exact verified_view hmacSha256 key deviceId _ request frame
    · obtain ⟨other, frame⟩ := verified_frame hmacSha256 key deviceId ⟨topic, 1, false, payload⟩ (by rw [accepted])
      have viewed := verified_view hmacSha256 key deviceId _ other frame
      rw [accepted] at viewed
      cases viewed
      exact frame.payload

-- The tag of an empty object under the wiped key.
def emptyObjectTag : Digest :=
  #v[0x22, 0xf8, 0xee, 0xa9, 0x09, 0x40, 0x0a, 0xf9, 0x8a, 0xdf, 0x36, 0x81, 0xa9, 0xf3, 0x19, 0x23,
    0xef, 0x6b, 0x7f, 0xcb, 0xa4, 0xab, 0xb5, 0x53, 0xd9, 0x28, 0x23, 0xa3, 0xe9, 0xd5, 0xc2, 0x5e]

def framedDevice : CString := .ofBytes (bytesOf "00000000-0000-4000-8000-000000000000")

theorem accepted_frames_emptyObject :
    ∃! payload, ebaseMqttVerifiedRequest (fun _ _ => emptyObjectTag) {} wipedKey framedDevice
      ⟨.ofBytes (bytesOf "esp-base/00000000-0000-4000-8000-000000000000/command"), 1, false, payload⟩ =
        (true, bytesOf "\x7b\x7d") := by
  have frames := accepted_frames (fun _ _ => emptyObjectTag) wipedKey framedDevice
  exact frames.2.2.2 _ (bytesOf "\x7b\x7d") ((isUuid_canonical framedDevice).mp (by decide +kernel))
    (by decide +kernel) (by decide +kernel) (by decide +kernel)

end EspBase

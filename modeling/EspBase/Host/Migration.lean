import EspBase.Config.Bijection
import EspBase.Host.Agreement

set_option autoImplicit false

namespace EspBase

open Bytes Unicode

def cut (blob : List UInt8) (start stop : Nat) : List UInt8 := slice blob start (stop - start)

def v1SsidSize (blob : List UInt8) : Nat := (byteAt blob 6).toNat
def v1PasswordSize (blob : List UInt8) : Nat := (byteAt blob 7).toNat
def v1Ssid (blob : List UInt8) : List UInt8 := cut blob 16 (16 + v1SsidSize blob)
def v1Password (blob : List UInt8) : List UInt8 := cut blob 48 (48 + v1PasswordSize blob)

def v1PasswordBytes (blob : List UInt8) : Bool :=
  if v1PasswordSize blob < 64 then (v1Password blob).all (fun c => 0x20 ≤ c && c ≤ 0x7e)
  else (v1Password blob).all (fun c => (bytesOf "0123456789abcdefABCDEF").contains c)

def validateV1Config (blob : List UInt8) : Except String Nat := do
  require (blob.length == 112 && blob.take 4 == configMagic && byteAt blob 4 == 1)
    "base_config/committed 不是规范 EBCF v1 112B blob"
  let configured := byteAt blob 5
  let ssidSize := v1SsidSize blob
  let passwordSize := v1PasswordSize blob
  require ((configured == 0 || configured == 1) && ssidSize ≤ 32 && passwordSize ≤ 64 &&
      cut blob 12 16 == List.replicate 4 0 &&
      cut blob (16 + ssidSize) 48 == List.replicate (32 - ssidSize) 0 &&
      cut blob (48 + passwordSize) 112 == List.replicate (64 - passwordSize) 0)
    "EBCF v1 长度、标记或保留字节无效"
  if configured != 0 then
    require (1 ≤ ssidSize && ssidSize ≤ 32 && 8 ≤ passwordSize && passwordSize ≤ 64)
      "EBCF v1 Wi-Fi 字段长度无效"
    match decode (v1Ssid blob) with
    | none => .error "EBCF v1 SSID UTF-8 无效"
    | some decodedSsid =>
      require (decodedSsid.all (fun c => 0x20 ≤ c.val && c.val != 0x7f)) "EBCF v1 SSID 含控制字符"
      require (v1PasswordBytes blob) "EBCF v1 Wi-Fi 密码格式无效"
  else
    require (ssidSize == 0 && passwordSize == 0) "EBCF v1 未配置状态含 Wi-Fi 数据"
  return fromLittle (cut blob 8 12)

def convertV1WifiOnly (blob : List UInt8) : Except String (List UInt8) := do
  let _ ← validateV1Config blob
  return configMagic ++ [3, byteAt blob 5] ++ cut blob 6 8 ++ cut blob 8 12 ++ List.replicate 28 0 ++
    v1Ssid blob ++ v1Password blob

-- The field lengths in blob order, the optional key included.
def v2Lengths (blob : List UInt8) : List Nat :=
  [(byteAt blob 6).toNat, (byteAt blob 7).toNat, (byteAt blob 12).toNat, (byteAt blob 13).toNat,
    fromLittle (cut blob 14 16), fromLittle (cut blob 16 18),
    if byteAt blob 5 &&& 2 != 0 then 32 else 0]

-- `take`: field `index` starts where the fields before it end.
def v2Field (blob : List UInt8) (index : Nat) : List UInt8 :=
  slice blob (24 + ((v2Lengths blob).take index).sum) ((v2Lengths blob).getD index 0)

def v2Key (blob : List UInt8) : List UInt8 :=
  if byteAt blob 5 &&& 2 != 0 then v2Field blob 6 else List.replicate 32 0

def v2Port (blob : List UInt8) : Nat := fromLittle (cut blob 18 20)

def v2Wifi (blob : List UInt8) : Option Json :=
  if byteAt blob 5 &&& 1 != 0 then do
    let ssid ← decode (v2Field blob 0)
    let password ← decodeAscii (v2Field blob 1)
    return .dict [(text "ssid", .str ssid), (text "password", .str password)]
  else some .null

def v2Mqtt (blob : List UInt8) : Option Json :=
  if byteAt blob 5 &&& 2 != 0 then do
    let host ← decodeAscii (v2Field blob 2)
    let user ← decode (v2Field blob 3)
    let password ← decode (v2Field blob 4)
    let ca ← decodeAscii (v2Field blob 5)
    return .dict [(text "hostname", .str host), (text "port", .int (v2Port blob)),
      (text "username", .str user), (text "password", .str password), (text "ca_pem", .str ca),
      (text "management_key_hex", .str (keyHex (v2Key blob)))]
  else some .null

-- `none` where a field is not text of its encoding.
def v2Config (blob : List UInt8) : Option Json := do
  let wifi ← v2Wifi blob
  let mqtt ← v2Mqtt blob
  return .dict [(text "schema_version", .int 3), (text "wifi", wifi), (text "mqtt", mqtt),
    (text "frp", .null), (text "business", .null)]

def validateV2Config (blob : List UInt8) : Except String Nat := do
  require (24 ≤ blob.length && blob.length ≤ 4885 && blob.take 5 == configMagic ++ [2])
    "base_config/committed 不是规范 EBCF v2 blob"
  let flags := byteAt blob 5
  require (flags ≤ 3 && byteAt blob 6 ≤ 32 && byteAt blob 7 ≤ 64 && byteAt blob 12 ≤ 253 &&
      byteAt blob 13 ≤ 128 && fromLittle (cut blob 14 16) ≤ 256 &&
      fromLittle (cut blob 16 18) ≤ 4096 && cut blob 20 24 == List.replicate 4 0 &&
      blob.length == 24 + (v2Lengths blob).sum)
    "EBCF v2 字段长度、标记或保留字节无效"
  require (24 + (v2Lengths blob).sum == blob.length) "EBCF v2 长度不完整"
  match v2Config blob with
  | none => .error "EBCF v2 配置值无效"
  | some config =>
    if flags &&& 1 == 0 then
      require (byteAt blob 6 == 0 && byteAt blob 7 == 0) "EBCF v2 未配置 Wi-Fi 却含数据"
    if flags &&& 2 == 0 then
      require (byteAt blob 12 == 0 && byteAt blob 13 == 0 && fromLittle (cut blob 14 16) == 0 &&
        fromLittle (cut blob 16 18) == 0 && v2Port blob == 0) "EBCF v2 未配置 MQTT 却含数据"
    match validateConfiguration config with
    | .error _ => .error "EBCF v2 配置值无效"
    | .ok () => return fromLittle (cut blob 8 12)

def convertV2PreservingMqtt (blob : List UInt8) : Except String (List UInt8) := do
  let _ ← validateV2Config blob
  return (blob.take 20).set 4 3 ++ List.replicate 20 0 ++ blob.drop 24

structure V1Accepted (blob : List UInt8) (revision : Nat) : Prop where
  length : blob.length = 112
  magic : slice blob 0 4 = configMagic
  version : byteAt blob 4 = 1
  configured : byteAt blob 5 = 0 ∨ byteAt blob 5 = 1
  ssid : v1SsidSize blob ≤ 32
  password : v1PasswordSize blob ≤ 64
  reserved : slice blob 12 4 = List.replicate 4 0
  afterSsid : slice blob (16 + v1SsidSize blob) (32 - v1SsidSize blob) =
    List.replicate (32 - v1SsidSize blob) 0
  afterPassword : slice blob (48 + v1PasswordSize blob) (64 - v1PasswordSize blob) =
    List.replicate (64 - v1PasswordSize blob) 0
  valid : wifiValuesValid (byteAt blob 5 != 0) (v1Ssid blob) (v1Password blob) = true
  revision : revision = fromLittle (slice blob 8 4)

theorem uint8_all (accepts : UInt8 → Bool) (each : ∀ low : Fin 256, accepts (UInt8.ofFin low) = true)
    (byte : UInt8) : accepts byte = true :=
  each byte.toFin

theorem hexDigits_contain (c : UInt8) : (bytesOf "0123456789abcdefABCDEF").contains c =
    (isDigit c || (0x61 ≤ c && c ≤ 0x66) || (0x41 ≤ c && c ≤ 0x46)) := by
  have all := uint8_all (fun c => (bytesOf "0123456789abcdefABCDEF").contains c ==
    (isDigit c || (0x61 ≤ c && c ≤ 0x66) || (0x41 ≤ c && c ≤ 0x46))) (by decide +kernel) c
  simpa using all

theorem v1_lengths (blob : List UInt8) (length : blob.length = 112) (ssid : v1SsidSize blob ≤ 32)
    (password : v1PasswordSize blob ≤ 64) :
    (v1Ssid blob).length = v1SsidSize blob ∧ (v1Password blob).length = v1PasswordSize blob := by
  simp only [v1Ssid, v1Password, cut, slice, List.length_take, List.length_drop, length]
  omega

theorem v1Password_agree (blob : List UInt8)
    (length : (v1Password blob).length = v1PasswordSize blob) (most : v1PasswordSize blob ≤ 64) :
    v1PasswordBytes blob = (v1Password blob).all (wifiPasswordByte (v1Password blob).length) := by
  rw [length]
  by_cases short : v1PasswordSize blob < 64
  · have other : ¬v1PasswordSize blob = 64 := by omega
    simp only [v1PasswordBytes, short, if_true]
    congr 1
    funext c
    simp [wifiPasswordByte, other]
  · have whole : v1PasswordSize blob = 64 := by omega
    simp only [v1PasswordBytes, short, if_false]
    congr 1
    funext c
    simp only [wifiPasswordByte, whole, if_true]
    exact hexDigits_contain c

theorem validateV1Config_accepted (blob : List UInt8) (revision : Nat)
    (accepted : validateV1Config blob = .ok revision) : V1Accepted blob revision := by
  simp only [validateV1Config, bind_ok, require_ok] at accepted
  obtain ⟨_, first, _, layout, rest⟩ := accepted
  simp only [Bool.and_eq_true, beq_iff_eq, decide_eq_true_iff, Bool.or_eq_true] at first layout
  obtain ⟨⟨length, magic⟩, version⟩ := first
  obtain ⟨⟨⟨⟨⟨configured, ssid⟩, password⟩, reserved⟩, afterSsid⟩, afterPassword⟩ := layout
  have lengths := v1_lengths blob length ssid password
  have padding : 48 - (16 + v1SsidSize blob) = 32 - v1SsidSize blob ∧
      112 - (48 + v1PasswordSize blob) = 64 - v1PasswordSize blob := by omega
  rw [cut, padding.1] at afterSsid
  rw [cut, padding.2] at afterPassword
  have checked : wifiValuesValid (byteAt blob 5 != 0) (v1Ssid blob) (v1Password blob) = true ∧
      fromLittle (cut blob 8 12) = revision := by
    cases on : byteAt blob 5 != 0 with
    | false =>
      simp only [on, Bool.false_eq_true, if_false, bind_ok, require_ok, Bool.and_eq_true,
        beq_iff_eq] at rest
      obtain ⟨_, none, done⟩ := rest
      exact ⟨by simp [wifiValuesValid, lengths, none], Except.ok.inj done⟩
    | true =>
      simp only [on, if_true, bind_ok, require_ok] at rest
      obtain ⟨_, sizes, rest⟩ := rest
      split at rest
      · simp only [bind_ok] at rest
        obtain ⟨_, failed, -⟩ := rest
        cases failed
      next decodedSsid decoded =>
        simp only [bind_ok, require_ok] at rest
        obtain ⟨_, plain, _, password, done⟩ := rest
        refine ⟨?_, Except.ok.inj done⟩
        have text := utf8_encode true decodedSsid (v1Ssid blob) (encode_decode _ _ decoded)
        have same : (fun c : Point => pointAllowed true c.val) =
            fun c => 0x20 ≤ c.val && c.val != 0x7f := by
          funext c
          rw [Bool.eq_iff_iff]
          simp [pointAllowed]
        rw [same, plain] at text
        rw [v1Password_agree blob lengths.2 (by omega), lengths.2] at password
        simp only [Bool.and_eq_true, decide_eq_true_iff] at sizes
        have nonempty : v1SsidSize blob ≠ 0 := by omega
        simp [wifiValuesValid, text, password, lengths, sizes, nonempty]
  exact ⟨length, magic, version, configured, ssid, password, reserved, afterSsid, afterPassword,
    checked.1, checked.2.symm⟩

structure OldConfig where
  revision : UInt32
  wifi : Bool
  ssid : List UInt8
  wifiPassword : List UInt8
  mqtt : Bool
  host : List UInt8
  port : UInt16
  user : List UInt8
  mqttPassword : List UInt8
  ca : List UInt8
  key : List UInt8

def OldConfig.config (o : OldConfig) : RemoteConfig :=
  { revision := o.revision
    wifi :=
      { configured := o.wifi
        ssid := padded 33 o.ssid
        password := padded 65 o.wifiPassword }
    mqtt :=
      { configured := o.mqtt
        hostname := padded 254 o.host
        port := o.port
        username := padded 129 o.user
        password := padded 257 o.mqttPassword
        caPem := padded 4097 o.ca
        managementKey := padded 32 o.key }
    frp := .zero }

structure OldConfig.Sound (o : OldConfig) : Prop where
  ssid : o.ssid.length ≤ 32
  wifiPassword : o.wifiPassword.length ≤ 64
  host : o.host.length ≤ 253
  user : o.user.length ≤ 128
  mqttPassword : o.mqttPassword.length ≤ 256
  ca : o.ca.length ≤ 4096
  key : o.key.length = 32
  wifiValid : wifiValuesValid o.wifi o.ssid o.wifiPassword = true
  mqttValid : mqttValuesValid o.mqtt o.host o.port o.user o.mqttPassword o.ca o.key = true

theorem padded_nil (capacity : Nat) : padded capacity [] = Vector.replicate capacity 0 := by
  apply Vector.ext
  intro i inside
  simp [padded, byteAt]

theorem text_cleared (capacity : Nat) (some : 0 < capacity) :
    textOf (Vector.replicate capacity (0 : UInt8)).toList = [] ∧
      (textLength (Vector.replicate capacity (0 : UInt8)).toList).isSome := by
  rw [← padded_nil]
  exact textOf_padded capacity [] some List.not_mem_nil

def OldConfig.header (o : OldConfig) : List UInt8 :=
  configMagic ++
    [3, o.config.flags, lengthByte o.ssid, lengthByte o.wifiPassword] ++ put32 o.revision ++
    [lengthByte o.host, lengthByte o.user] ++ put16 (lengthWord o.mqttPassword) ++
    put16 (lengthWord o.ca) ++ put16 o.port ++ List.replicate 20 0

def OldConfig.body (o : OldConfig) : List UInt8 :=
  o.ssid ++ o.wifiPassword ++ o.host ++ o.user ++ o.mqttPassword ++ o.ca ++
    if o.mqtt then o.key else []

theorem OldConfig.Sound.encoded {o : OldConfig} (sound : o.Sound) :
    configEncode o.config = some (o.header ++ o.body) := by
  have wifi := wifiValuesValid_unbroken _ _ _ sound.wifiValid
  have mqtt := mqttValuesValid_unbroken _ _ _ _ _ _ _ sound.mqttValid
  have ssid := textOf_padded 33 o.ssid (Nat.lt_succ_of_le sound.ssid) wifi.1
  have wifiPassword := textOf_padded 65 o.wifiPassword (Nat.lt_succ_of_le sound.wifiPassword) wifi.2
  have host := textOf_padded 254 o.host (Nat.lt_succ_of_le sound.host) mqtt.1
  have user := textOf_padded 129 o.user (Nat.lt_succ_of_le sound.user) mqtt.2.1
  have mqttPassword := textOf_padded 257 o.mqttPassword (Nat.lt_succ_of_le sound.mqttPassword)
    mqtt.2.2.1
  have ca := textOf_padded 4097 o.ca (Nat.lt_succ_of_le sound.ca) mqtt.2.2.2
  have frpHost := text_cleared 254 (by omega)
  have token := text_cleared 257 (by omega)
  have frpCa := text_cleared 2049 (by omega)
  have proxy := text_cleared 129 (by omega)
  have key : (padded 32 o.key).toList = o.key := by
    rw [padded_toList _ _ (by rw [sound.key]), sound.key]
    simp
  have valid : configValid o.config = true := by
    refine (configValid_iff _).mpr ⟨⟨ssid.2, wifiPassword.2, host.2, user.2, mqttPassword.2, ca.2,
      frpHost.2, token.2, frpCa.2, proxy.2⟩, ?_, ?_, ?_⟩
    · simp only [OldConfig.config, ssid.1, wifiPassword.1]
      exact sound.wifiValid
    · simp only [MqttConfig.valuesValid, OldConfig.config, host.1, user.1, mqttPassword.1, ca.1, key]
      exact sound.mqttValid
    · simp only [FrpConfig.valuesValid, OldConfig.config, FrpConfig.zero, frpHost.1, token.1, frpCa.1,
        proxy.1]
      decide
  have fields : (configFields o.config).flatten = o.body := by
    simp only [configFields, OldConfig.config, OldConfig.body, FrpConfig.zero, ssid.1, wifiPassword.1,
      host.1, user.1, mqttPassword.1, ca.1, key, frpHost.1, token.1, frpCa.1, proxy.1]
    simp
  have header : configHeader o.config = o.header := by
    simp only [configHeader, OldConfig.header, ssid.1, wifiPassword.1, host.1, user.1,
      mqttPassword.1, ca.1, frpHost.1, token.1, frpCa.1, proxy.1, OldConfig.config, FrpConfig.zero]
    rfl
  rw [configEncode, if_pos valid, header, fields]

theorem OldConfig.Sound.decoded {o : OldConfig} (sound : o.Sound) :
    configDecode (o.header ++ o.body) = some o.config :=
  configDecode_encode _ _ sound.encoded

def v1Old (blob : List UInt8) : OldConfig :=
  { revision := get32 blob 8
    wifi := byteAt blob 5 != 0
    ssid := v1Ssid blob
    wifiPassword := v1Password blob
    mqtt := false
    host := []
    port := 0
    user := []
    mqttPassword := []
    ca := []
    key := zeroKey }

theorem V1Accepted.sound {blob : List UInt8} {revision : Nat} (accepted : V1Accepted blob revision) :
    (v1Old blob).Sound := by
  have lengths := v1_lengths blob accepted.length accepted.ssid accepted.password
  have ssid := accepted.ssid
  have password := accepted.password
  constructor
  · simpa [v1Old, lengths] using ssid
  · simpa [v1Old, lengths] using password
  · simp [v1Old]
  · simp [v1Old]
  · simp [v1Old]
  · simp [v1Old]
  · simp [v1Old, zeroKey, mqttKeyBytes]
  · exact accepted.valid
  · rfl

theorem lengthByte_of (bytes : List UInt8) (byte : UInt8) (size : bytes.length = byte.toNat) :
    lengthByte bytes = byte := by
  simp [lengthByte, size]

theorem lengthWord_of (bytes : List UInt8) (word : UInt16) (size : bytes.length = word.toNat) :
    lengthWord bytes = word := by
  simp [lengthWord, size]

theorem V1Accepted.converted {blob : List UInt8} {revision : Nat}
    (accepted : V1Accepted blob revision) :
    configMagic ++ [3, byteAt blob 5] ++ cut blob 6 8 ++ cut blob 8 12 ++ List.replicate 28 0 ++
      v1Ssid blob ++ v1Password blob = (v1Old blob).header ++ (v1Old blob).body := by
  have length := accepted.length
  have lengths := v1_lengths blob length accepted.ssid accepted.password
  have ssid : lengthByte (v1Ssid blob) = byteAt blob 6 := lengthByte_of _ _ lengths.1
  have password : lengthByte (v1Password blob) = byteAt blob 7 := lengthByte_of _ _ lengths.2
  have sizes : slice blob 6 2 = [byteAt blob 6, byteAt blob 7] :=
    slice_eq_map blob 6 2 (by omega)
  have revision := put32_get32 blob 8 (by omega)
  have flags : (v1Old blob).config.flags = byteAt blob 5 := by
    rcases accepted.configured with off | on
    · simp [RemoteConfig.flags, OldConfig.config, v1Old, FrpConfig.zero, off]
    · simp [RemoteConfig.flags, OldConfig.config, v1Old, FrpConfig.zero, on]
  simp only [OldConfig.header, flags]
  simp only [v1Old, OldConfig.body, ssid, password, revision, cut, sizes]
  simp [put16, lengthByte, lengthWord]

def restoreV1 (converted : List UInt8) : List UInt8 :=
  let ssidSize := (byteAt converted 6).toNat
  let passwordSize := (byteAt converted 7).toNat
  configMagic ++ [1] ++ slice converted 5 7 ++ List.replicate 4 0 ++
    slice converted 40 ssidSize ++ List.replicate (32 - ssidSize) 0 ++
    slice converted (40 + ssidSize) passwordSize ++ List.replicate (64 - passwordSize) 0

theorem V1Accepted.pieces {blob : List UInt8} {revision : Nat}
    (accepted : V1Accepted blob revision) :
    configMagic ++ [1] ++ slice blob 5 7 ++ List.replicate 4 0 ++
      v1Ssid blob ++ List.replicate (32 - v1SsidSize blob) 0 ++
      v1Password blob ++ List.replicate (64 - v1PasswordSize blob) 0 = blob := by
  have length := accepted.length
  have ssid : v1Ssid blob = slice blob 16 (v1SsidSize blob) := by
    simp [v1Ssid, cut]
  have password : v1Password blob = slice blob 48 (v1PasswordSize blob) := by
    simp [v1Password, cut]
  have version : [1] = slice blob 4 1 := by
    rw [slice_eq_map blob 4 1 (by omega), ← accepted.version]
    rfl
  have ssidFits := Nat.add_sub_cancel' accepted.ssid
  have passwordFits := Nat.add_sub_cancel' accepted.password
  calc configMagic ++ [1] ++ slice blob 5 7 ++ List.replicate 4 0 ++
        v1Ssid blob ++ List.replicate (32 - v1SsidSize blob) 0 ++
        v1Password blob ++ List.replicate (64 - v1PasswordSize blob) 0
      = slice blob 0 4 ++ slice blob (0 + 4) 1 ++ slice blob (0 + (4 + 1)) 7 ++
          slice blob (0 + (4 + 1 + 7)) 4 ++
          (slice blob 16 (v1SsidSize blob) ++
            slice blob (16 + v1SsidSize blob) (32 - v1SsidSize blob)) ++
          (slice blob 48 (v1PasswordSize blob) ++
            slice blob (48 + v1PasswordSize blob) (64 - v1PasswordSize blob)) := by
        rw [← accepted.magic, version, ← accepted.reserved, ← accepted.afterSsid,
          ← accepted.afterPassword, ssid, password]
        simp only [List.append_assoc, Nat.zero_add]
    _ = slice blob 0 16 ++ slice blob 16 32 ++ slice blob 48 64 := by
        simp only [slice_append, ssidFits, passwordFits]
    _ = slice blob 0 112 := by rw [slice_append blob 0 16 32, slice_append blob 0 48 64]
    _ = blob := by simp [slice, ← length]

theorem V1Accepted.restored {blob : List UInt8} {revision : Nat}
    (accepted : V1Accepted blob revision) :
    restoreV1 (configMagic ++ [3, byteAt blob 5] ++ cut blob 6 8 ++ cut blob 8 12 ++
      List.replicate 28 0 ++ v1Ssid blob ++ v1Password blob) = blob := by
  have length := accepted.length
  have lengths := v1_lengths blob length accepted.ssid accepted.password
  have header : configMagic ++ [3, byteAt blob 5] ++ cut blob 6 8 ++ cut blob 8 12 ++
      List.replicate 28 0 = configMagic ++ [3] ++ slice blob 5 7 ++ List.replicate 28 0 := by
    rw [cut, cut, slice_eq_map blob 5 7 (by omega), slice_eq_map blob (6) (8 - 6) (by omega),
      slice_eq_map blob 8 (12 - 8) (by omega)]
    rfl
  have front : (configMagic ++ [3] ++ slice blob 5 7 ++ List.replicate 28 0).length = 40 := by
    simp [configMagic, slice, length]
  have ssidSize (rest : List UInt8) : byteAt (configMagic ++ [3] ++ slice blob 5 7 ++
      List.replicate 28 0 ++ rest) 6 = byteAt blob 6 := by
    rw [slice_eq_map blob 5 7 (by omega)]
    rfl
  have passwordSize (rest : List UInt8) : byteAt (configMagic ++ [3] ++ slice blob 5 7 ++
      List.replicate 28 0 ++ rest) 7 = byteAt blob 7 := by
    rw [slice_eq_map blob 5 7 (by omega)]
    rfl
  have numbers (rest : List UInt8) : slice (configMagic ++ [3] ++ slice blob 5 7 ++
      List.replicate 28 0 ++ rest) 5 7 = slice blob 5 7 := by
    rw [slice_eq_map blob 5 7 (by omega)]
    rfl
  rw [header, List.append_assoc]
  simp only [restoreV1, ssidSize, passwordSize, numbers]
  generalize configMagic ++ [3] ++ slice blob 5 7 ++ List.replicate 28 0 = head at *
  have first : slice (head ++ (v1Ssid blob ++ v1Password blob)) 40 (byteAt blob 6).toNat =
      v1Ssid blob := by
    rw [slice_past _ _ _ _ (by omega), front]
    exact slice_here _ _ _ lengths.1
  have second : slice (head ++ (v1Ssid blob ++ v1Password blob)) (40 + (byteAt blob 6).toNat)
      (byteAt blob 7).toNat = v1Password blob := by
    have size : (v1Ssid blob).length = (byteAt blob 6).toNat := lengths.1
    rw [slice_past _ _ _ _ (by omega), slice_past _ _ _ _ (by omega), front, size,
      Nat.add_sub_cancel_left, Nat.sub_self]
    exact List.take_of_length_le (Nat.le_of_eq lengths.2)
  rw [first, second]
  exact accepted.pieces

structure V2Accepted (blob : List UInt8) (revision : Nat) : Prop where
  least : 24 ≤ blob.length
  begins : blob.take 5 = configMagic ++ [2]
  flags : byteAt blob 5 ≤ 3
  ssid : byteAt blob 6 ≤ 32
  wifiPassword : byteAt blob 7 ≤ 64
  host : byteAt blob 12 ≤ 253
  user : byteAt blob 13 ≤ 128
  mqttPassword : fromLittle (cut blob 14 16) ≤ 256
  ca : fromLittle (cut blob 16 18) ≤ 4096
  reserved : cut blob 20 24 = List.replicate 4 0
  whole : blob.length = 24 + (v2Lengths blob).sum
  wifiValid : wifiValuesValid (byteAt blob 5 &&& 1 != 0) (v2Field blob 0) (v2Field blob 1) = true
  mqttValid : mqttValuesValid (byteAt blob 5 &&& 2 != 0) (v2Field blob 2) (get16 blob 18)
    (v2Field blob 3) (v2Field blob 4) (v2Field blob 5) (v2Key blob) = true
  revision : revision = fromLittle (slice blob 8 4)

theorem v2Field_length (blob : List UInt8) (index : Nat)
    (whole : blob.length = 24 + (v2Lengths blob).sum) (inside : index < 7) :
    (v2Field blob index).length = (v2Lengths blob).getD index 0 := by
  have seven : (v2Lengths blob).length = 7 := rfl
  have reach : (v2Lengths blob).getD index 0 ≤
      (v2Lengths blob).sum - ((v2Lengths blob).take index).sum := by
    have cut := congrArg List.sum (List.take_append_drop index (v2Lengths blob))
    rw [List.drop_eq_getElem_cons (by omega), List.sum_append, List.sum_cons] at cut
    rw [List.getD_eq_getElem _ _ (by omega)]
    omega
  simp only [v2Field, slice, List.length_take, List.length_drop, whole]
  omega

theorem v2Field_flatten (blob : List UInt8) (whole : blob.length = 24 + (v2Lengths blob).sum) :
    ((List.range 7).map (v2Field blob)).flatten = blob.drop 24 := by
  have pieces := slices_flatten blob 24 (v2Lengths blob)
  have rest : slice blob 24 (v2Lengths blob).sum = blob.drop 24 := by
    apply List.take_of_length_le
    simp only [List.length_drop]
    omega
  rw [rest] at pieces
  exact pieces

theorem v2Key_length (blob : List UInt8) (whole : blob.length = 24 + (v2Lengths blob).sum) :
    (v2Key blob).length = 32 := by
  have size := v2Field_length blob 6 whole (by omega)
  unfold v2Key
  split
  next on => simpa [v2Lengths, on] using size
  next => simp

theorem v2Wifi_accepted (blob : List UInt8) (wifi : Json) (read : v2Wifi blob = some wifi)
    (absent : byteAt blob 5 &&& 1 = 0 → v2Field blob 0 = [] ∧ v2Field blob 1 = [])
    (valid : validateWifi wifi = .ok ()) :
    wifiValuesValid (byteAt blob 5 &&& 1 != 0) (v2Field blob 0) (v2Field blob 1) = true := by
  by_cases off : byteAt blob 5 &&& 1 = 0
  · simp [off, absent off, wifiValuesValid]
  · have on : (byteAt blob 5 &&& 1 != 0) = true := by simpa using off
    simp only [v2Wifi, on, if_true, Option.bind_eq_bind, Option.bind_eq_some_iff, Option.pure_def,
      Option.some.injEq] at read
    obtain ⟨ssid, ssids, password, passwords, rfl⟩ := read
    have keys : (text "password" == text "ssid") = false := by decide +kernel
    have checked := ((validateWifi_ok _).mp valid).2
    simp only [field, List.lookup_cons, beq_self_eq_true, keys, Option.getD_some] at checked
    rw [on, wifi_agree ssid password _ _ (encode_decode _ _ ssids) (decodeAscii_encode _ _ passwords),
      checked]

theorem v2Mqtt_accepted (blob : List UInt8) (mqtt : Json) (read : v2Mqtt blob = some mqtt)
    (key : (v2Key blob).length = 32) (port : v2Port blob = (get16 blob 18).toNat)
    (absent : byteAt blob 5 &&& 2 = 0 → v2Field blob 2 = [] ∧ v2Field blob 3 = [] ∧
      v2Field blob 4 = [] ∧ v2Field blob 5 = [] ∧ v2Port blob = 0)
    (valid : validateMqtt mqtt = .ok ()) :
    mqttValuesValid (byteAt blob 5 &&& 2 != 0) (v2Field blob 2) (get16 blob 18) (v2Field blob 3)
      (v2Field blob 4) (v2Field blob 5) (v2Key blob) = true := by
  by_cases off : byteAt blob 5 &&& 2 = 0
  · have none := absent off
    have closed : get16 blob 18 = 0 := UInt16.toNat.inj (port.symm.trans none.2.2.2.2)
    simp [off, none, closed, v2Key, mqttValuesValid, zeros]
  · have on : (byteAt blob 5 &&& 2 != 0) = true := by simpa using off
    simp only [v2Mqtt, on, if_true, Option.bind_eq_bind, Option.bind_eq_some_iff, Option.pure_def,
      Option.some.injEq] at read
    obtain ⟨host, hosts, user, users, password, passwords, ca, cas, rfl⟩ := read
    have checked := ((validateMqtt_ok _).mp valid).2
    have keys : (text "port" == text "hostname") = false ∧ (text "username" == text "hostname") = false ∧
        (text "username" == text "port") = false ∧ (text "password" == text "hostname") = false ∧
        (text "password" == text "port") = false ∧ (text "password" == text "username") = false ∧
        (text "ca_pem" == text "hostname") = false ∧ (text "ca_pem" == text "port") = false ∧
        (text "ca_pem" == text "username") = false ∧ (text "ca_pem" == text "password") = false ∧
        (text "management_key_hex" == text "hostname") = false ∧
        (text "management_key_hex" == text "port") = false ∧
        (text "management_key_hex" == text "username") = false ∧
        (text "management_key_hex" == text "password") = false ∧
        (text "management_key_hex" == text "ca_pem") = false := by
      decide +kernel
    simp only [field, List.lookup_cons, beq_self_eq_true, keys, Option.getD_some, port] at checked
    rw [on, mqtt_agree host user password ca _ _ _ _ _ _ (decodeAscii_encode _ _ hosts)
      (encode_decode _ _ users) (encode_decode _ _ passwords) (decodeAscii_encode _ _ cas) key, checked]

theorem guarded_ok {α : Type} (condition : Bool) (check : Except String Unit) (next : Except String α)
    (result : α) :
    (if condition = true then check >>= fun _ => next else next) = .ok result ↔
      (condition = true → check = .ok ()) ∧ next = .ok result := by
  cases condition <;> cases check <;> simp [bind, Except.bind]

theorem validateV2Config_accepted (blob : List UInt8) (revision : Nat)
    (accepted : validateV2Config blob = .ok revision) : V2Accepted blob revision := by
  simp only [validateV2Config, bind_ok, require_ok] at accepted
  obtain ⟨_, first, _, layout, _, _, rest⟩ := accepted
  simp only [Bool.and_eq_true, beq_iff_eq, decide_eq_true_iff] at first layout
  obtain ⟨⟨least, most⟩, begins⟩ := first
  obtain ⟨⟨⟨⟨⟨⟨⟨⟨flags, ssid⟩, wifiPassword⟩, host⟩, user⟩, mqttPassword⟩, ca⟩, reserved⟩, whole⟩ :=
    layout
  split at rest
  · cases rest
  next config read =>
    simp only [guarded_ok, require_ok] at rest
    obtain ⟨wifiAbsent, mqttAbsent, rest⟩ := rest
    split at rest
    · cases rest
    next valid =>
      simp only [v2Config, Option.bind_eq_bind, Option.bind_eq_some_iff, Option.pure_def,
        Option.some.injEq] at read
      obtain ⟨wifi, wifiRead, mqtt, mqttRead, rfl⟩ := read
      have keys : (text "wifi" == text "schema_version") = false ∧
          (text "mqtt" == text "schema_version") = false ∧ (text "mqtt" == text "wifi") = false := by
        decide +kernel
      have checked := ((validateConfiguration_ok _).mp valid).2.2
      simp only [field, List.lookup_cons, beq_self_eq_true, keys, Option.getD_some] at checked
      have port : v2Port blob = (get16 blob 18).toNat := by
        by_cases inside : 20 ≤ blob.length
        · exact fromLittle_get16 blob 18 inside
        · omega
      have wifiEmpty (off : byteAt blob 5 &&& 1 = 0) : v2Field blob 0 = [] ∧ v2Field blob 1 = [] := by
        have none := wifiAbsent (by simpa using off)
        simp only [Bool.and_eq_true, beq_iff_eq] at none
        have first := v2Field_length blob 0 whole (by omega)
        have second := v2Field_length blob 1 whole (by omega)
        constructor <;> apply List.length_eq_zero_iff.mp
        · simpa [v2Lengths, none] using first
        · simpa [v2Lengths, none] using second
      have mqttEmpty (off : byteAt blob 5 &&& 2 = 0) : v2Field blob 2 = [] ∧ v2Field blob 3 = [] ∧
          v2Field blob 4 = [] ∧ v2Field blob 5 = [] ∧ v2Port blob = 0 := by
        have none := mqttAbsent (by simpa using off)
        simp only [Bool.and_eq_true, beq_iff_eq] at none
        have second := v2Field_length blob 2 whole (by omega)
        have third := v2Field_length blob 3 whole (by omega)
        have fourth := v2Field_length blob 4 whole (by omega)
        have fifth := v2Field_length blob 5 whole (by omega)
        simp only [← List.length_eq_zero_iff]
        simp [second, third, fourth, fifth, v2Lengths, none]
      exact
        { least, begins, flags, ssid, wifiPassword, host, user, mqttPassword, ca, reserved, whole
          wifiValid := v2Wifi_accepted blob wifi wifiRead wifiEmpty checked.1
          mqttValid := v2Mqtt_accepted blob mqtt mqttRead (v2Key_length blob whole) port mqttEmpty
            checked.2.1
          revision := (Except.ok.inj rest).symm }

def v2Old (blob : List UInt8) : OldConfig :=
  { revision := get32 blob 8
    wifi := byteAt blob 5 &&& 1 != 0
    ssid := v2Field blob 0
    wifiPassword := v2Field blob 1
    mqtt := byteAt blob 5 &&& 2 != 0
    host := v2Field blob 2
    port := get16 blob 18
    user := v2Field blob 3
    mqttPassword := v2Field blob 4
    ca := v2Field blob 5
    key := v2Key blob }

theorem V2Accepted.sizes {blob : List UInt8} {revision : Nat} (accepted : V2Accepted blob revision) :
    (v2Field blob 0).length = (byteAt blob 6).toNat ∧
      (v2Field blob 1).length = (byteAt blob 7).toNat ∧
      (v2Field blob 2).length = (byteAt blob 12).toNat ∧
      (v2Field blob 3).length = (byteAt blob 13).toNat ∧
      (v2Field blob 4).length = fromLittle (cut blob 14 16) ∧
      (v2Field blob 5).length = fromLittle (cut blob 16 18) :=
  ⟨v2Field_length blob 0 accepted.whole (by omega), v2Field_length blob 1 accepted.whole (by omega),
    v2Field_length blob 2 accepted.whole (by omega), v2Field_length blob 3 accepted.whole (by omega),
    v2Field_length blob 4 accepted.whole (by omega), v2Field_length blob 5 accepted.whole (by omega)⟩

theorem V2Accepted.sound {blob : List UInt8} {revision : Nat} (accepted : V2Accepted blob revision) :
    (v2Old blob).Sound := by
  have sizes := accepted.sizes
  constructor
  · exact sizes.1.trans_le accepted.ssid
  · exact sizes.2.1.trans_le accepted.wifiPassword
  · exact sizes.2.2.1.trans_le accepted.host
  · exact sizes.2.2.2.1.trans_le accepted.user
  · exact sizes.2.2.2.2.1.trans_le accepted.mqttPassword
  · exact sizes.2.2.2.2.2.trans_le accepted.ca
  · exact v2Key_length blob accepted.whole
  · exact accepted.wifiValid
  · exact accepted.mqttValid

theorem flags_of_two (flags : UInt8) (known : flags ≤ 3) :
    (if flags &&& 1 != 0 then 1 else 0) ||| (if flags &&& 2 != 0 then 2 else 0) ||| 0 = flags := by
  have each : ∀ low : Fin 256, UInt8.ofFin low ≤ 3 →
      (if UInt8.ofFin low &&& 1 != 0 then 1 else 0) |||
        (if UInt8.ofFin low &&& 2 != 0 then 2 else 0) ||| 0 = UInt8.ofFin low := by
    decide +kernel
  exact each flags.toFin known

theorem V2Accepted.converted {blob : List UInt8} {revision : Nat}
    (accepted : V2Accepted blob revision) :
    (blob.take 20).set 4 3 ++ List.replicate 20 0 ++ blob.drop 24 =
      (v2Old blob).header ++ (v2Old blob).body := by
  have least := accepted.least
  have sizes := accepted.sizes
  have password := fromLittle_get16 blob 14 (by omega)
  have ca := fromLittle_get16 blob 16 (by omega)
  have body : blob.drop 24 = (v2Old blob).body := by
    rw [← v2Field_flatten blob accepted.whole]
    by_cases on : byteAt blob 5 &&& 2 = 0
    · have key := v2Field_length blob 6 accepted.whole (by omega)
      have none : v2Field blob 6 = [] := List.length_eq_zero_iff.mp (by simpa [v2Lengths, on] using key)
      simp [OldConfig.body, v2Old, List.range_succ_eq_map, on, none]
    · simp [OldConfig.body, v2Old, List.range_succ_eq_map, on, v2Key]
  have magic : slice blob 0 4 = configMagic := by
    have shorter := congrArg (List.take 4) accepted.begins
    rw [List.take_take] at shorter
    exact shorter
  have header : (blob.take 20).set 4 3 ++ List.replicate 20 0 = (v2Old blob).header := by
    have flags : (v2Old blob).config.flags = byteAt blob 5 := flags_of_two _ accepted.flags
    have ssid : lengthByte (v2Old blob).ssid = byteAt blob 6 := lengthByte_of _ _ sizes.1
    have wifiPassword : lengthByte (v2Old blob).wifiPassword = byteAt blob 7 :=
      lengthByte_of _ _ sizes.2.1
    have host : lengthByte (v2Old blob).host = byteAt blob 12 := lengthByte_of _ _ sizes.2.2.1
    have user : lengthByte (v2Old blob).user = byteAt blob 13 := lengthByte_of _ _ sizes.2.2.2.1
    have mqttPassword : lengthWord (v2Old blob).mqttPassword = get16 blob 14 :=
      lengthWord_of _ _ (sizes.2.2.2.2.1.trans password)
    have authority : lengthWord (v2Old blob).ca = get16 blob 16 :=
      lengthWord_of _ _ (sizes.2.2.2.2.2.trans ca)
    have taken : blob.take 20 = slice blob 0 20 := rfl
    rw [taken, slice_eq_map blob 0 20 (by omega)]
    rw [slice_eq_map blob 0 4 (by omega)] at magic
    rw [OldConfig.header, flags, ssid, wifiPassword, host, user, mqttPassword, authority, ← magic]
    simp only [v2Old, get16, get32, disassemble16, disassemble32]
    rfl
  rw [header, body]

def restoreV2 (converted : List UInt8) : List UInt8 :=
  (converted.take 20).set 4 2 ++ List.replicate 4 0 ++ converted.drop 40

theorem V2Accepted.restored {blob : List UInt8} {revision : Nat}
    (accepted : V2Accepted blob revision) :
    restoreV2 ((blob.take 20).set 4 3 ++ List.replicate 20 0 ++ blob.drop 24) = blob := by
  have least := accepted.least
  have version : (blob.take 20).set 4 2 = blob.take 20 := by
    have fifth : (blob.take 20)[4]? = some 2 := by
      have here := congrArg (fun bytes => bytes[4]?) accepted.begins
      simpa [configMagic, List.getElem?_take] using here
    apply List.ext_getElem?
    intro i
    by_cases at4 : i = 4
    · subst at4
      rw [List.getElem?_set_self (by simp; omega), fifth]
    · simp [Ne.symm at4]
  have front : ((blob.take 20).set 4 3).length = 20 := by
    simp
    omega
  have reserved : blob.drop 20 = List.replicate 4 0 ++ blob.drop 24 := by
    have four := accepted.reserved
    rw [← List.take_append_drop 4 (blob.drop 20), List.drop_drop]
    rw [cut, slice] at four
    rw [four]
  calc restoreV2 ((blob.take 20).set 4 3 ++ List.replicate 20 0 ++ blob.drop 24)
      = ((blob.take 20).set 4 3).set 4 2 ++ List.replicate 4 0 ++ blob.drop 24 := by
        simp only [restoreV2, List.append_assoc]
        rw [List.take_left' front]
        simp [List.drop_append, front]
    _ = blob.take 20 ++ blob.drop 20 := by rw [List.set_set, version, reserved, List.append_assoc]
    _ = blob := List.take_append_drop 20 blob

def MigratedV1 (blob : List UInt8) (revision : Nat) (c : RemoteConfig) : Prop :=
  c.revision.toNat = revision ∧
    c.wifi =
      { configured := byteAt blob 5 != 0
        ssid := padded 33 (v1Ssid blob)
        password := padded 65 (v1Password blob) } ∧
    c.mqtt = .zero ∧ c.frp = .zero

def MigratedV2 (blob : List UInt8) (revision : Nat) (c : RemoteConfig) : Prop :=
  c.revision.toNat = revision ∧
    c.wifi =
      { configured := byteAt blob 5 &&& 1 != 0
        ssid := padded 33 (v2Field blob 0)
        password := padded 65 (v2Field blob 1) } ∧
    c.mqtt =
      { configured := byteAt blob 5 &&& 2 != 0
        hostname := padded 254 (v2Field blob 2)
        port := UInt16.ofNat (v2Port blob)
        username := padded 129 (v2Field blob 3)
        password := padded 257 (v2Field blob 4)
        caPem := padded 4097 (v2Field blob 5)
        managementKey := padded 32 (v2Key blob) } ∧
    c.frp = .zero

theorem convertV1WifiOnly_ok (blob converted : List UInt8) :
    convertV1WifiOnly blob = .ok converted ↔ ∃ revision, validateV1Config blob = .ok revision ∧
      converted = configMagic ++ [3, byteAt blob 5] ++ cut blob 6 8 ++ cut blob 8 12 ++
        List.replicate 28 0 ++ v1Ssid blob ++ v1Password blob := by
  simp only [convertV1WifiOnly, bind_ok]
  constructor
  · intro ⟨revision, valid, done⟩
    exact ⟨revision, valid, (Except.ok.inj done).symm⟩
  · intro ⟨revision, valid, same⟩
    exact ⟨revision, valid, congrArg Except.ok same.symm⟩

theorem convertV2PreservingMqtt_ok (blob converted : List UInt8) :
    convertV2PreservingMqtt blob = .ok converted ↔ ∃ revision, validateV2Config blob = .ok revision ∧
      converted = (blob.take 20).set 4 3 ++ List.replicate 20 0 ++ blob.drop 24 := by
  simp only [convertV2PreservingMqtt, bind_ok]
  constructor
  · intro ⟨revision, valid, done⟩
    exact ⟨revision, valid, (Except.ok.inj done).symm⟩
  · intro ⟨revision, valid, same⟩
    exact ⟨revision, valid, congrArg Except.ok same.symm⟩

theorem convertV1WifiOnly_decoded (blob : List UInt8) (revision : Nat)
    (valid : validateV1Config blob = .ok revision) :
    ∃ converted c, convertV1WifiOnly blob = .ok converted ∧ configDecode converted = some c ∧
      MigratedV1 blob revision c := by
  have accepted := validateV1Config_accepted blob revision valid
  have decoded := accepted.sound.decoded
  rw [← accepted.converted] at decoded
  refine ⟨_, _, (convertV1WifiOnly_ok _ _).mpr ⟨revision, valid, rfl⟩, decoded, ?_⟩
  have length := accepted.length
  have same := fromLittle_get32 blob 8 (by omega)
  refine ⟨same.symm.trans accepted.revision.symm, rfl, ?_, rfl⟩
  simp only [OldConfig.config, v1Old, padded_nil, MqttConfig.zero]
  congr 1

theorem convertV2PreservingMqtt_decoded (blob : List UInt8) (revision : Nat)
    (valid : validateV2Config blob = .ok revision) :
    ∃ converted c, convertV2PreservingMqtt blob = .ok converted ∧ configDecode converted = some c ∧
      MigratedV2 blob revision c := by
  have accepted := validateV2Config_accepted blob revision valid
  have decoded := accepted.sound.decoded
  rw [← accepted.converted] at decoded
  refine ⟨_, _, (convertV2PreservingMqtt_ok _ _).mpr ⟨revision, valid, rfl⟩, decoded, ?_⟩
  have least := accepted.least
  have same := fromLittle_get32 blob 8 (by omega)
  have port := fromLittle_get16 blob 18 (by omega)
  refine ⟨same.symm.trans accepted.revision.symm, rfl, ?_, rfl⟩
  have number : UInt16.ofNat (v2Port blob) = get16 blob 18 := by
    rw [v2Port, cut, port, UInt16.ofNat_toNat]
  rw [number]
  rfl

theorem convertV1WifiOnly_injective (first second converted : List UInt8)
    (one : convertV1WifiOnly first = .ok converted) (two : convertV1WifiOnly second = .ok converted) :
    first = second := by
  obtain ⟨_, valid, rfl⟩ := (convertV1WifiOnly_ok _ _).mp one
  obtain ⟨_, other, same⟩ := (convertV1WifiOnly_ok _ _).mp two
  rw [← (validateV1Config_accepted _ _ valid).restored, same,
    (validateV1Config_accepted _ _ other).restored]

theorem convertV2PreservingMqtt_injective (first second converted : List UInt8)
    (one : convertV2PreservingMqtt first = .ok converted)
    (two : convertV2PreservingMqtt second = .ok converted) : first = second := by
  obtain ⟨_, valid, rfl⟩ := (convertV2PreservingMqtt_ok _ _).mp one
  obtain ⟨_, other, same⟩ := (convertV2PreservingMqtt_ok _ _).mp two
  rw [← (validateV2Config_accepted _ _ valid).restored, same,
    (validateV2Config_accepted _ _ other).restored]

theorem migration_preserves :
    (∀ blob revision, validateV1Config blob = .ok revision →
      ∃ converted c, convertV1WifiOnly blob = .ok converted ∧ configDecode converted = some c ∧
        MigratedV1 blob revision c) ∧
    (∀ blob revision, validateV2Config blob = .ok revision →
      ∃ converted c, convertV2PreservingMqtt blob = .ok converted ∧ configDecode converted = some c ∧
        MigratedV2 blob revision c) ∧
    (∀ first second converted, convertV1WifiOnly first = .ok converted →
      convertV1WifiOnly second = .ok converted → first = second) ∧
    (∀ first second converted, convertV2PreservingMqtt first = .ok converted →
      convertV2PreservingMqtt second = .ok converted → first = second) :=
  ⟨convertV1WifiOnly_decoded, convertV2PreservingMqtt_decoded, convertV1WifiOnly_injective,
    convertV2PreservingMqtt_injective⟩

end EspBase

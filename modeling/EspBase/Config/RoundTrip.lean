import EspBase.Config.Codec

set_option autoImplicit false

namespace EspBase

open Bytes

theorem textLength_split (text : List UInt8) (found : (textLength text).isSome) :
    (textOf text).length < text.length ∧ zeros (text.drop (textOf text).length) := by
  unfold textLength at found
  by_cases both : (textOf text).length < text.length ∧ zeros (text.drop (textOf text).length)
  · exact both
  · simp [both] at found

theorem textOf_capped {capacity : Nat} (text : Vector UInt8 capacity)
    (found : (textLength text.toList).isSome) : (textOf text.toList).length < capacity := by
  simpa using (textLength_split _ found).1

theorem zeros_replicate (bytes : List UInt8) (clear : zeros bytes = true) :
    bytes = List.replicate bytes.length 0 := by
  apply List.eq_replicate_of_mem
  intro byte member
  have zero := List.all_eq_true.mp clear byte member
  simpa using zero

theorem padded_textOf {capacity : Nat} (text : Vector UInt8 capacity)
    (found : (textLength text.toList).isSome) : padded capacity (textOf text.toList) = text := by
  obtain ⟨inside, clear⟩ := textLength_split _ found
  have capped : (textOf text.toList).length < capacity := by simpa using inside
  apply Vector.toList_inj.mp
  rw [padded_toList _ _ (by omega)]
  have front : text.toList.take (textOf text.toList).length = textOf text.toList :=
    (List.prefix_iff_eq_take.mp (List.takeWhile_prefix _)).symm
  have split : text.toList = textOf text.toList ++ text.toList.drop (textOf text.toList).length := by
    conv_lhs => rw [← List.take_append_drop (textOf text.toList).length text.toList]
    rw [front]
  conv_rhs => rw [split, zeros_replicate _ clear]
  simp

theorem padded_self {capacity : Nat} (bytes : Vector UInt8 capacity) :
    padded capacity bytes.toList = bytes := by
  apply Vector.toList_inj.mp
  rw [padded_toList _ _ (by simp)]
  simp

theorem optionalKey (configured : Bool) (key : Vector UInt8 32)
    (clear : configured = false → zeros key.toList = true) :
    (if configured then (if configured then key.toList else []) else zeroKey) = key.toList := by
  cases configured with
  | true => rfl
  | false =>
    have zero := zeros_replicate _ (clear rfl)
    rw [Vector.length_toList] at zero
    simp [zeroKey, mqttKeyBytes, zero]

theorem lengthByte_toNat (text : List UInt8) (fits : text.length < 256) :
    (lengthByte text).toNat = text.length := by
  simp [lengthByte, Nat.mod_eq_of_lt fits]

theorem lengthWord_toNat (text : List UInt8) (fits : text.length < 65536) :
    (lengthWord text).toNat = text.length := by
  simp [lengthWord, Nat.mod_eq_of_lt fits]

theorem flags_bits (c : RemoteConfig) :
    (c.flags &&& 1 != 0) = c.wifi.configured ∧ (c.flags &&& 2 != 0) = c.mqtt.configured ∧
      (c.flags &&& 4 != 0) = c.frp.configured ∧ c.flags &&& ~~~7 = 0 := by
  unfold RemoteConfig.flags
  cases c.wifi.configured <;> cases c.mqtt.configured <;> cases c.frp.configured <;> decide

-- The header as a cons chain: fixed offsets into it then reduce by `rfl`.
theorem configHeader_append (c : RemoteConfig) (fields : List UInt8) :
    configHeader c ++ fields =
      0x45 :: 0x42 :: 0x43 :: 0x46 :: 3 :: c.flags :: lengthByte (textOf c.wifi.ssid.toList) ::
      lengthByte (textOf c.wifi.password.toList) :: (put32 c.revision ++
      lengthByte (textOf c.mqtt.hostname.toList) :: lengthByte (textOf c.mqtt.username.toList) ::
      (put16 (lengthWord (textOf c.mqtt.password.toList)) ++
      (put16 (lengthWord (textOf c.mqtt.caPem.toList)) ++ (put16 c.mqtt.port ++
      lengthByte (textOf c.frp.serverHostname.toList) ::
      lengthByte (textOf c.frp.proxyName.toList) ::
      (put16 (lengthWord (textOf c.frp.token.toList)) ++
      (put16 (lengthWord (textOf c.frp.caPem.toList)) ++ (put16 c.frp.serverPort ++
      (put16 c.frp.remotePort ++ (put16 c.frp.localPort ++
      (List.replicate 8 0 ++ fields)))))))))) := by
  simp [configHeader, configMagic]

theorem configHeader_length (c : RemoteConfig) : (configHeader c).length = configHeaderBytes := by
  simp [configHeader, configMagic, put16, put32, configHeaderBytes]

structure HeaderReads (c : RemoteConfig) (b : List UInt8) : Prop where
  magic : b.take 4 = configMagic
  version : byteAt b 4 = 3
  flags : byteAt b 5 = c.flags
  ssid : byteAt b 6 = lengthByte (textOf c.wifi.ssid.toList)
  wifiPassword : byteAt b 7 = lengthByte (textOf c.wifi.password.toList)
  revision : get32 b 8 = c.revision
  host : byteAt b 12 = lengthByte (textOf c.mqtt.hostname.toList)
  user : byteAt b 13 = lengthByte (textOf c.mqtt.username.toList)
  mqttPassword : get16 b 14 = lengthWord (textOf c.mqtt.password.toList)
  ca : get16 b 16 = lengthWord (textOf c.mqtt.caPem.toList)
  port : get16 b 18 = c.mqtt.port
  frpHost : byteAt b 20 = lengthByte (textOf c.frp.serverHostname.toList)
  proxy : byteAt b 21 = lengthByte (textOf c.frp.proxyName.toList)
  token : get16 b 22 = lengthWord (textOf c.frp.token.toList)
  frpCa : get16 b 24 = lengthWord (textOf c.frp.caPem.toList)
  serverPort : get16 b 26 = c.frp.serverPort
  remotePort : get16 b 28 = c.frp.remotePort
  localPort : get16 b 30 = c.frp.localPort
  spare : slice b 32 8 = List.replicate 8 0

theorem configHeader_reads (c : RemoteConfig) (fields : List UInt8) :
    HeaderReads c (configHeader c ++ fields) := by
  rw [configHeader_append]
  constructor
  case revision => exact assemble32 c.revision
  case mqttPassword => exact assemble16 _
  case ca => exact assemble16 _
  case port => exact assemble16 _
  case token => exact assemble16 _
  case frpCa => exact assemble16 _
  case serverPort => exact assemble16 _
  case remotePort => exact assemble16 _
  case localPort => exact assemble16 _
  all_goals rfl

structure TextFits (c : RemoteConfig) : Prop where
  ssid : (textLength c.wifi.ssid.toList).isSome
  wifiPassword : (textLength c.wifi.password.toList).isSome
  host : (textLength c.mqtt.hostname.toList).isSome
  user : (textLength c.mqtt.username.toList).isSome
  mqttPassword : (textLength c.mqtt.password.toList).isSome
  ca : (textLength c.mqtt.caPem.toList).isSome
  frpHost : (textLength c.frp.serverHostname.toList).isSome
  token : (textLength c.frp.token.toList).isSome
  frpCa : (textLength c.frp.caPem.toList).isSome
  proxy : (textLength c.frp.proxyName.toList).isSome

theorem configValid_iff (c : RemoteConfig) :
    configValid c = true ↔ TextFits c ∧
      wifiValuesValid c.wifi.configured (textOf c.wifi.ssid.toList)
        (textOf c.wifi.password.toList) = true ∧
      c.mqtt.valuesValid = true ∧ c.frp.valuesValid = true := by
  simp only [configValid, wifiConfigValid, Bool.and_eq_true]
  constructor
  · rintro ⟨⟨⟨⟨⟨⟨⟨⟨⟨⟨⟨⟨a, b⟩, w⟩, c⟩, d⟩, e⟩, f⟩, m⟩, g⟩, h⟩, i⟩, j⟩, v⟩
    exact ⟨⟨a, b, c, d, e, f, g, h, i, j⟩, w, m, v⟩
  · rintro ⟨⟨a, b, c, d, e, f, g, h, i, j⟩, w, m, v⟩
    exact ⟨⟨⟨⟨⟨⟨⟨⟨⟨⟨⟨⟨a, b⟩, w⟩, c⟩, d⟩, e⟩, f⟩, m⟩, g⟩, h⟩, i⟩, j⟩, v⟩

theorem lengthByte_bounded (text : List UInt8) (capacity : Nat) (capped : text.length < capacity)
    (small : capacity ≤ 256) :
    (lengthByte text).toNat = text.length ∧ (lengthByte text).toNat ≤ capacity - 1 := by
  rw [lengthByte_toNat text (by omega)]
  omega

theorem lengthWord_bounded (text : List UInt8) (capacity : Nat) (capped : text.length < capacity)
    (small : capacity ≤ 65536) :
    (lengthWord text).toNat = text.length ∧ (lengthWord text).toNat ≤ capacity - 1 := by
  rw [lengthWord_toNat text (by omega)]
  omega

theorem configLengths_encoded (c : RemoteConfig) (fits : TextFits c) (b : List UInt8)
    (reads : HeaderReads c b) : configLengths b = (configFields c).map List.length := by
  have mqttKey : (if c.mqtt.configured then c.mqtt.managementKey.toList else []).length =
      if c.mqtt.configured then mqttKeyBytes else 0 := by
    cases c.mqtt.configured <;> simp [mqttKeyBytes]
  have frpKey : (if c.frp.configured then c.frp.managementKey.toList else []).length =
      if c.frp.configured then frpKeyBytes else 0 := by
    cases c.frp.configured <;> simp [frpKeyBytes]
  simp only [configLengths, configFields, List.map_cons, List.map_nil, mqttKey, frpKey,
    reads.ssid, reads.wifiPassword, reads.host, reads.user, reads.mqttPassword, reads.ca,
    reads.frpHost, reads.token, reads.frpCa, reads.proxy, reads.flags,
    (flags_bits c).2.1, (flags_bits c).2.2.1,
    (lengthByte_bounded _ _ (textOf_capped _ fits.ssid) (by omega)).1,
    (lengthByte_bounded _ _ (textOf_capped _ fits.wifiPassword) (by omega)).1,
    (lengthByte_bounded _ _ (textOf_capped _ fits.host) (by omega)).1,
    (lengthByte_bounded _ _ (textOf_capped _ fits.user) (by omega)).1,
    (lengthWord_bounded _ _ (textOf_capped _ fits.mqttPassword) (by omega)).1,
    (lengthWord_bounded _ _ (textOf_capped _ fits.ca) (by omega)).1,
    (lengthByte_bounded _ _ (textOf_capped _ fits.frpHost) (by omega)).1,
    (lengthWord_bounded _ _ (textOf_capped _ fits.token) (by omega)).1,
    (lengthWord_bounded _ _ (textOf_capped _ fits.frpCa) (by omega)).1,
    (lengthByte_bounded _ _ (textOf_capped _ fits.proxy) (by omega)).1]

theorem configField_encoded (c : RemoteConfig) (fits : TextFits c) (index : Nat) :
    configField (configHeader c ++ (configFields c).flatten) index =
      (configFields c).getD index [] := by
  have lengths := configLengths_encoded c fits _ (configHeader_reads c (configFields c).flatten)
  rw [configField, lengths, slice_past _ _ _ _ (by rw [configHeader_length]; omega),
    configHeader_length, Nat.add_sub_cancel_left, slice_flatten]

theorem configHeaderValid_encoded (c : RemoteConfig) (fits : TextFits c) (b : List UInt8)
    (reads : HeaderReads c b) (least : configHeaderBytes ≤ b.length)
    (most : b.length ≤ configMaxBytes) : configHeaderValid b = true := by
  simp only [configHeaderValid, reads.magic, reads.version, reads.flags, reads.ssid,
    reads.wifiPassword, reads.host, reads.user, reads.mqttPassword, reads.ca, reads.frpHost,
    reads.proxy, reads.token, reads.frpCa, reads.spare, (flags_bits c).2.2.2, frpTokenMaxBytes,
    frpCaMaxBytes]
  simp [UInt8.le_iff_toNat_le, UInt16.le_iff_toNat_le, zeros, least, most,
    (lengthByte_bounded _ _ (textOf_capped _ fits.ssid) (by omega)).2,
    (lengthByte_bounded _ _ (textOf_capped _ fits.wifiPassword) (by omega)).2,
    (lengthByte_bounded _ _ (textOf_capped _ fits.host) (by omega)).2,
    (lengthByte_bounded _ _ (textOf_capped _ fits.user) (by omega)).2,
    (lengthWord_bounded _ _ (textOf_capped _ fits.mqttPassword) (by omega)).2,
    (lengthWord_bounded _ _ (textOf_capped _ fits.ca) (by omega)).2,
    (lengthByte_bounded _ _ (textOf_capped _ fits.frpHost) (by omega)).2,
    (lengthWord_bounded _ _ (textOf_capped _ fits.token) (by omega)).2,
    (lengthWord_bounded _ _ (textOf_capped _ fits.frpCa) (by omega)).2,
    (lengthByte_bounded _ _ (textOf_capped _ fits.proxy) (by omega)).2]

theorem configFields_length (c : RemoteConfig) (fits : TextFits c) :
    (configFields c).flatten.length ≤ configMaxBytes - configHeaderBytes := by
  have ssid := textOf_capped _ fits.ssid
  have wifiPassword := textOf_capped _ fits.wifiPassword
  have host := textOf_capped _ fits.host
  have user := textOf_capped _ fits.user
  have mqttPassword := textOf_capped _ fits.mqttPassword
  have ca := textOf_capped _ fits.ca
  have frpHost := textOf_capped _ fits.frpHost
  have token := textOf_capped _ fits.token
  have frpCa := textOf_capped _ fits.frpCa
  have proxy := textOf_capped _ fits.proxy
  have key (configured : Bool) (bytes : Vector UInt8 32) :
      (if configured then bytes.toList else []).length ≤ 32 := by
    cases configured <;> simp
  have mqttKey := key c.mqtt.configured c.mqtt.managementKey
  have frpKey := key c.frp.configured c.frp.managementKey
  simp only [configFields, List.flatten_cons, List.flatten_nil, List.length_append,
    List.length_nil, configMaxBytes, configHeaderBytes]
  omega

theorem zeros_key_mqtt (m : MqttConfig) (valid : m.valuesValid = true)
    (off : m.configured = false) : zeros m.managementKey.toList = true := by
  simp [MqttConfig.valuesValid, mqttValuesValid, off] at valid
  exact valid.2

theorem zeros_key_frp (f : FrpConfig) (valid : f.valuesValid = true)
    (off : f.configured = false) : zeros f.managementKey.toList = true := by
  simp [FrpConfig.valuesValid, frpValuesValid, off] at valid
  exact valid.2

theorem configDecode_encode (c : RemoteConfig) (b : List UInt8) (encoded : configEncode c = some b) :
    configDecode b = some c := by
  have valid : configValid c = true := by
    by_contra invalid
    simp [configEncode, invalid] at encoded
  obtain ⟨fits, wifi, mqtt, frp⟩ := (configValid_iff c).mp valid
  simp only [configEncode, valid, if_true, Option.some.injEq] at encoded
  have reads := configHeader_reads c (configFields c).flatten
  have lengths := configLengths_encoded c fits _ reads
  have fields := configField_encoded c fits
  have total := configFields_length c fits
  have size : (configHeader c ++ (configFields c).flatten).length =
      configHeaderBytes + (configFields c).flatten.length := by
    rw [List.length_append, configHeader_length]
  have header := configHeaderValid_encoded c fits _ reads (by omega)
    (by rw [size]; simp only [configMaxBytes, configHeaderBytes] at total ⊢; omega)
  rw [encoded] at reads lengths fields size header
  have mqttKey := optionalKey c.mqtt.configured c.mqtt.managementKey (zeros_key_mqtt _ mqtt)
  have frpKey := optionalKey c.frp.configured c.frp.managementKey (zeros_key_frp _ frp)
  unfold MqttConfig.valuesValid at mqtt
  unfold FrpConfig.valuesValid at frp
  simp only [configDecode, header, size, lengths, reads.flags, (flags_bits c).1,
    (flags_bits c).2.1, (flags_bits c).2.2.1, fields, configFields,
    List.getD_cons_zero, List.getD_cons_succ, mqttKey, frpKey, reads.revision, reads.port,
    reads.serverPort, reads.remotePort, reads.localPort, wifi, mqtt, frp, padded_self,
    padded_textOf _ fits.ssid, padded_textOf _ fits.wifiPassword, padded_textOf _ fits.host,
    padded_textOf _ fits.user, padded_textOf _ fits.mqttPassword, padded_textOf _ fits.ca,
    padded_textOf _ fits.frpHost, padded_textOf _ fits.token, padded_textOf _ fits.frpCa,
    padded_textOf _ fits.proxy]
  simp

end EspBase

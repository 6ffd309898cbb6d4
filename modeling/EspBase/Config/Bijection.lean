import EspBase.Config.RoundTrip

set_option autoImplicit false

namespace EspBase

open Bytes

theorem textOf_padded (capacity : Nat) (text : List UInt8) (fits : text.length < capacity)
    (unbroken : 0 ∉ text) :
    textOf (padded capacity text).toList = text ∧
      (textLength (padded capacity text).toList).isSome := by
  have tail : capacity - text.length = capacity - text.length - 1 + 1 := by omega
  have found : textOf (padded capacity text).toList = text := by
    rw [padded_toList _ _ (by omega), textOf, tail, List.replicate_succ]
    apply (List.takeWhile_append_of_pos ?_).trans
    · simp
    · intro byte member
      have nonzero : byte ≠ 0 := fun zero => unbroken (zero ▸ member)
      simpa using nonzero
  have clear : zeros ((padded capacity text).toList.drop text.length) = true := by
    rw [padded_toList _ _ (by omega), List.drop_left, zeros]
    simp
  refine ⟨found, ?_⟩
  simp [textLength, found, clear, fits]

theorem utf8Allowed_zero (ssid : Bool) : utf8Allowed 0 0 ssid = false := by
  cases ssid <;> decide

theorem utf8Continue_unbroken (cp found : UInt32) (bytes : List UInt8)
    (read : utf8Continue cp bytes = some found) : 0 ∉ bytes := by
  induction bytes generalizing cp with
  | nil => simp
  | cons c rest ih =>
    simp only [utf8Continue] at read
    split at read
    · simp at read
    · rename_i continuation
      have later := ih _ read
      have nonzero : c ≠ 0 := by
        intro zero
        subst zero
        exact continuation (by decide)
      simp [later, nonzero.symm]

theorem utf8Loop_unbroken (ssid : Bool) (fuel : Nat) (s : List UInt8)
    (accepted : utf8Loop ssid fuel s = true) : 0 ∉ s := by
  induction fuel generalizing s with
  | zero =>
    cases s with
    | nil => simp
    | cons => simp [utf8Loop] at accepted
  | succ fuel ih =>
    cases s with
    | nil => simp
    | cons c rest =>
      have nonzero : c ≠ 0 := by
        intro zero
        subst zero
        have lead : utf8Lead 0 = some (0, 0, 0) := by decide
        simp [utf8Loop, lead, utf8Continue, utf8Allowed_zero] at accepted
      simp only [utf8Loop] at accepted
      split at accepted
      · simp at accepted
      · rename_i bits more minimum lead
        split at accepted
        · simp at accepted
        · split at accepted
          · simp at accepted
          · rename_i cp read
            have continued := utf8Continue_unbroken _ _ _ read
            have later := ih _ (Bool.and_eq_true_iff.mp accepted).2
            have split : rest = rest.take more ++ rest.drop more := (List.take_append_drop _ _).symm
            intro member
            rcases List.mem_cons.mp member with zero | member
            · exact nonzero zero.symm
            · rw [split] at member
              rcases List.mem_append.mp member with front | back
              · exact continued front
              · exact later back

theorem hostnameLoop_unbroken (label : Nat) (previous : UInt8) (host : List UInt8)
    (accepted : hostnameLoop label previous host = true) : 0 ∉ host := by
  induction host generalizing label previous with
  | nil => simp
  | cons c rest ih =>
    have nonzero : c ≠ 0 := by
      intro zero
      subst zero
      simp [hostnameLoop, isLower, isUpper, isDigit] at accepted
    simp only [hostnameLoop] at accepted
    have later : 0 ∉ rest := by
      split at accepted
      · split at accepted
        · simp at accepted
        · exact ih _ _ accepted
      · split at accepted
        · simp at accepted
        · split at accepted
          · simp at accepted
          · exact ih _ _ accepted
    simp [later, nonzero.symm]

theorem all_unbroken (accepts : UInt8 → Bool) (bytes : List UInt8) (refused : accepts 0 = false)
    (accepted : bytes.all accepts = true) : 0 ∉ bytes := by
  intro member
  have taken := List.all_eq_true.mp accepted 0 member
  rw [refused] at taken
  contradiction

theorem wifiValuesValid_unbroken (configured : Bool) (ssid password : List UInt8)
    (valid : wifiValuesValid configured ssid password = true) : 0 ∉ ssid ∧ 0 ∉ password := by
  cases configured with
  | false =>
    simp only [wifiValuesValid, Bool.not_false, if_true, Bool.and_eq_true, beq_iff_eq,
      List.length_eq_zero_iff] at valid
    simp [valid]
  | true =>
    simp only [wifiValuesValid, Bool.not_true, Bool.false_eq_true, if_false, Bool.and_eq_true] at valid
    refine ⟨utf8Loop_unbroken _ _ _ valid.1.1.1.2, all_unbroken _ _ ?_ valid.2⟩
    simp [wifiPasswordByte, isDigit]

theorem hostnameValid_unbroken (host : List UInt8) (valid : hostnameValid host = true) :
    0 ∉ host := by
  unfold hostnameValid at valid
  split at valid
  · simp at valid
  · exact hostnameLoop_unbroken _ _ _ valid

theorem mqttValuesValid_unbroken (configured : Bool) (host : List UInt8) (port : UInt16)
    (user password ca key : List UInt8)
    (valid : mqttValuesValid configured host port user password ca key = true) :
    0 ∉ host ∧ 0 ∉ user ∧ 0 ∉ password ∧ 0 ∉ ca := by
  cases configured with
  | false =>
    simp only [mqttValuesValid, Bool.not_false, if_true, Bool.and_eq_true, beq_iff_eq,
      List.length_eq_zero_iff] at valid
    simp [valid]
  | true =>
    simp only [mqttValuesValid, Bool.not_true, Bool.false_eq_true, if_false, Bool.and_eq_true] at valid
    obtain ⟨⟨⟨⟨⟨⟨⟨⟨⟨⟨⟨⟨⟨host, _⟩, _⟩, _⟩, _⟩, _⟩, _⟩, _⟩, user⟩, password⟩, _⟩, _⟩, _⟩, ca⟩ := valid
    exact ⟨hostnameValid_unbroken _ host, utf8Loop_unbroken _ _ _ user,
      utf8Loop_unbroken _ _ _ password, all_unbroken _ _ (by decide) ca⟩

theorem frpValuesValid_unbroken (configured : Bool) (host : List UInt8) (serverPort : UInt16)
    (token ca proxy : List UInt8) (remotePort localPort : UInt16) (key : List UInt8)
    (valid : frpValuesValid configured host serverPort token ca proxy remotePort localPort key = true) :
    0 ∉ host ∧ 0 ∉ token ∧ 0 ∉ ca ∧ 0 ∉ proxy := by
  cases configured with
  | false =>
    simp only [frpValuesValid, Bool.not_false, if_true, Bool.and_eq_true, beq_iff_eq,
      List.length_eq_zero_iff] at valid
    simp [valid]
  | true =>
    simp only [frpValuesValid, Bool.not_true, Bool.false_eq_true, if_false, Bool.and_eq_true] at valid
    obtain ⟨⟨⟨⟨⟨⟨⟨⟨⟨⟨⟨⟨⟨host, _⟩, _⟩, _⟩, _⟩, _⟩, pem⟩, _⟩, _⟩, _⟩, _⟩, _⟩, token⟩, proxy⟩ := valid
    simp only [pemValid, Bool.and_eq_true] at pem
    exact ⟨hostnameValid_unbroken _ host, all_unbroken _ _ (by decide) token,
      all_unbroken _ _ (by decide) pem.2, all_unbroken _ _ (by decide) proxy⟩

theorem flags_rebuilt (flags : UInt8) (known : flags &&& ~~~7 = 0) :
    (if flags &&& 1 != 0 then 1 else 0) ||| (if flags &&& 2 != 0 then 2 else 0) |||
      (if flags &&& 4 != 0 then 4 else 0) = flags := by
  have each : ∀ low : Fin 256, UInt8.ofFin low &&& ~~~7 = 0 →
      (if UInt8.ofFin low &&& 1 != 0 then 1 else 0) |||
        (if UInt8.ofFin low &&& 2 != 0 then 2 else 0) |||
        (if UInt8.ofFin low &&& 4 != 0 then 4 else 0) = UInt8.ofFin low := by
    decide +kernel
  exact each flags.toFin known

theorem HeaderReads.header {c : RemoteConfig} {b : List UInt8} (reads : HeaderReads c b)
    (least : configHeaderBytes ≤ b.length) : configHeader c = b.take configHeaderBytes := by
  have whole := slice_eq_map b 0 40 (by simpa [configHeaderBytes] using least)
  have magic := slice_eq_map b 0 4 (by simp only [configHeaderBytes] at least; omega)
  have spare := slice_eq_map b 32 8 (by simp only [configHeaderBytes] at least; omega)
  have first : configMagic = slice b 0 4 := by
    rw [← reads.magic]
    rfl
  have taken : b.take configHeaderBytes = slice b 0 40 := rfl
  rw [taken, whole, configHeader, first, magic, ← reads.spare, spare, ← reads.version, ← reads.flags,
    ← reads.ssid, ← reads.wifiPassword, ← reads.revision, ← reads.host, ← reads.user,
    ← reads.mqttPassword, ← reads.ca, ← reads.port, ← reads.frpHost, ← reads.proxy, ← reads.token,
    ← reads.frpCa, ← reads.serverPort, ← reads.remotePort, ← reads.localPort, get32, disassemble32]
  simp only [get16, disassemble16]
  rfl

structure HeaderSound (b : List UInt8) : Prop where
  least : configHeaderBytes ≤ b.length
  most : b.length ≤ configMaxBytes
  magic : b.take 4 = configMagic
  version : byteAt b 4 = 3
  flags : byteAt b 5 &&& ~~~7 = 0
  ssid : (byteAt b 6).toNat ≤ 32
  wifiPassword : (byteAt b 7).toNat ≤ 64
  host : (byteAt b 12).toNat ≤ 253
  user : (byteAt b 13).toNat ≤ 128
  mqttPassword : (get16 b 14).toNat ≤ 256
  ca : (get16 b 16).toNat ≤ 4096
  frpHost : (byteAt b 20).toNat ≤ 253
  proxy : (byteAt b 21).toNat ≤ 128
  token : (get16 b 22).toNat ≤ 256
  frpCa : (get16 b 24).toNat ≤ 2048
  spare : slice b 32 8 = List.replicate 8 0

theorem configHeaderValid_sound (b : List UInt8) (valid : configHeaderValid b = true) :
    HeaderSound b := by
  simp only [configHeaderValid, Bool.not_eq_true', Bool.or_eq_false_iff, decide_eq_false_iff_not,
    bne_eq_false_iff_eq, Nat.not_lt, gt_iff_lt, UInt8.lt_iff_toNat_lt, UInt16.lt_iff_toNat_lt,
    Bool.not_eq_false'] at valid
  obtain ⟨⟨⟨⟨⟨⟨⟨⟨⟨⟨⟨⟨⟨⟨⟨least, most⟩, magic⟩, version⟩, flags⟩, ssid⟩, wifiPassword⟩, host⟩, user⟩,
    mqttPassword⟩, ca⟩, frpHost⟩, proxy⟩, token⟩, frpCa⟩, spare⟩ := valid
  refine ⟨least, most, magic, version, flags, ssid, wifiPassword, host, user, mqttPassword, ca,
    frpHost, proxy, token, frpCa, ?_⟩
  have zero := zeros_replicate _ spare
  have eight : (slice b 32 8).length = 8 := by
    simp only [slice, List.length_take, List.length_drop, configHeaderBytes] at least ⊢
    omega
  rwa [eight] at zero

theorem configField_length (b : List UInt8) (index : Nat)
    (whole : b.length = configHeaderBytes + (configLengths b).sum) (inside : index < 12) :
    (configField b index).length = (configLengths b).getD index 0 := by
  have twelve : (configLengths b).length = 12 := rfl
  have reach : (configLengths b).getD index 0 ≤
      (configLengths b).sum - ((configLengths b).take index).sum := by
    have cut := congrArg List.sum (List.take_append_drop index (configLengths b))
    rw [List.drop_eq_getElem_cons (by omega), List.sum_append, List.sum_cons] at cut
    rw [List.getD_eq_getElem _ _ (by omega)]
    omega
  simp only [configField, slice, List.length_take, List.length_drop, whole]
  omega

theorem configField_flatten (b : List UInt8)
    (whole : b.length = configHeaderBytes + (configLengths b).sum) :
    ((List.range 12).map (configField b)).flatten = b.drop configHeaderBytes := by
  have pieces := slices_flatten b configHeaderBytes (configLengths b)
  have rest : slice b configHeaderBytes (configLengths b).sum = b.drop configHeaderBytes := by
    apply List.take_of_length_le
    simp only [List.length_drop]
    omega
  rw [rest] at pieces
  exact pieces

structure BlobAccepted (b : List UInt8) : Prop where
  header : HeaderSound b
  whole : b.length = configHeaderBytes + (configLengths b).sum
  wifi : wifiValuesValid (byteAt b 5 &&& 1 != 0) (configField b 0) (configField b 1) = true
  mqtt : mqttValuesValid (byteAt b 5 &&& 2 != 0) (configField b 2) (get16 b 18) (configField b 3)
    (configField b 4) (configField b 5)
    (if byteAt b 5 &&& 2 != 0 then configField b 6 else zeroKey) = true
  frp : frpValuesValid (byteAt b 5 &&& 4 != 0) (configField b 7) (get16 b 26) (configField b 8)
    (configField b 9) (configField b 10) (get16 b 28) (get16 b 30)
    (if byteAt b 5 &&& 4 != 0 then configField b 11 else zeroKey) = true

def decodedConfig (b : List UInt8) : RemoteConfig :=
  { revision := get32 b 8
    wifi :=
      { configured := byteAt b 5 &&& 1 != 0
        ssid := padded 33 (configField b 0)
        password := padded 65 (configField b 1) }
    mqtt :=
      { configured := byteAt b 5 &&& 2 != 0
        hostname := padded 254 (configField b 2)
        port := get16 b 18
        username := padded 129 (configField b 3)
        password := padded 257 (configField b 4)
        caPem := padded 4097 (configField b 5)
        managementKey := padded 32 (if byteAt b 5 &&& 2 != 0 then configField b 6 else zeroKey) }
    frp :=
      { configured := byteAt b 5 &&& 4 != 0
        serverHostname := padded 254 (configField b 7)
        serverPort := get16 b 26
        token := padded 257 (configField b 8)
        caPem := padded 2049 (configField b 9)
        proxyName := padded 129 (configField b 10)
        remotePort := get16 b 28
        localPort := get16 b 30
        managementKey := padded 32 (if byteAt b 5 &&& 4 != 0 then configField b 11 else zeroKey) } }

theorem configDecode_accepted (b : List UInt8) (c : RemoteConfig)
    (decoded : configDecode b = some c) : BlobAccepted b ∧ c = decodedConfig b := by
  simp only [configDecode, Option.ite_none_left_eq_some] at decoded
  obtain ⟨header, whole, values, same⟩ := decoded
  simp only [Bool.or_eq_true, Bool.not_eq_true', not_or, Bool.not_eq_false] at header values
  simp only [ne_eq, Decidable.not_not] at whole
  have rebuilt : decodedConfig b = c := Option.some.inj same
  exact ⟨⟨configHeaderValid_sound b header, whole, values.1.1, values.1.2, values.2⟩, rebuilt.symm⟩

theorem optionalKey_padded (configured : Bool) (key : List UInt8)
    (exact : key.length = if configured then mqttKeyBytes else 0) :
    (if configured then (padded 32 (if configured then key else zeroKey)).toList else []) = key := by
  cases configured with
  | false => simpa using (List.length_eq_zero_iff.mp exact).symm
  | true =>
    simp only [if_true, mqttKeyBytes] at exact ⊢
    rw [padded_toList _ _ (by omega), exact]
    simp

structure FieldsRead (b : List UInt8) : Prop where
  ssid : textOf (decodedConfig b).wifi.ssid.toList = configField b 0
  wifiPassword : textOf (decodedConfig b).wifi.password.toList = configField b 1
  host : textOf (decodedConfig b).mqtt.hostname.toList = configField b 2
  user : textOf (decodedConfig b).mqtt.username.toList = configField b 3
  mqttPassword : textOf (decodedConfig b).mqtt.password.toList = configField b 4
  ca : textOf (decodedConfig b).mqtt.caPem.toList = configField b 5
  frpHost : textOf (decodedConfig b).frp.serverHostname.toList = configField b 7
  token : textOf (decodedConfig b).frp.token.toList = configField b 8
  frpCa : textOf (decodedConfig b).frp.caPem.toList = configField b 9
  proxy : textOf (decodedConfig b).frp.proxyName.toList = configField b 10

theorem BlobAccepted.fields {b : List UInt8} (accepted : BlobAccepted b) :
    TextFits (decodedConfig b) ∧ FieldsRead b := by
  have header := accepted.header
  have length := fun index => configField_length b index accepted.whole
  have wifi := wifiValuesValid_unbroken _ _ _ accepted.wifi
  have mqtt := mqttValuesValid_unbroken _ _ _ _ _ _ _ accepted.mqtt
  have frp := frpValuesValid_unbroken _ _ _ _ _ _ _ _ _ accepted.frp
  have ssid := textOf_padded 33 _ (by rw [length 0 (by omega)]; exact Nat.lt_succ_of_le header.ssid) wifi.1
  have wifiPassword := textOf_padded 65 _
    (by rw [length 1 (by omega)]; exact Nat.lt_succ_of_le header.wifiPassword) wifi.2
  have host := textOf_padded 254 _
    (by rw [length 2 (by omega)]; exact Nat.lt_succ_of_le header.host) mqtt.1
  have user := textOf_padded 129 _
    (by rw [length 3 (by omega)]; exact Nat.lt_succ_of_le header.user) mqtt.2.1
  have mqttPassword := textOf_padded 257 _
    (by rw [length 4 (by omega)]; exact Nat.lt_succ_of_le header.mqttPassword) mqtt.2.2.1
  have ca := textOf_padded 4097 _
    (by rw [length 5 (by omega)]; exact Nat.lt_succ_of_le header.ca) mqtt.2.2.2
  have frpHost := textOf_padded 254 _
    (by rw [length 7 (by omega)]; exact Nat.lt_succ_of_le header.frpHost) frp.1
  have token := textOf_padded 257 _
    (by rw [length 8 (by omega)]; exact Nat.lt_succ_of_le header.token) frp.2.1
  have frpCa := textOf_padded 2049 _
    (by rw [length 9 (by omega)]; exact Nat.lt_succ_of_le header.frpCa) frp.2.2.1
  have proxy := textOf_padded 129 _
    (by rw [length 10 (by omega)]; exact Nat.lt_succ_of_le header.proxy) frp.2.2.2
  exact ⟨⟨ssid.2, wifiPassword.2, host.2, user.2, mqttPassword.2, ca.2, frpHost.2, token.2, frpCa.2,
    proxy.2⟩, ⟨ssid.1, wifiPassword.1, host.1, user.1, mqttPassword.1, ca.1, frpHost.1, token.1,
    frpCa.1, proxy.1⟩⟩

theorem key_length (b : List UInt8) (index : Nat)
    (whole : b.length = configHeaderBytes + (configLengths b).sum) (bit : UInt8)
    (mine : index = 6 ∧ bit = 2 ∨ index = 11 ∧ bit = 4) :
    (configField b index).length = if byteAt b 5 &&& bit != 0 then mqttKeyBytes else 0 := by
  rcases mine with ⟨rfl, rfl⟩ | ⟨rfl, rfl⟩ <;> exact configField_length b _ whole (by omega)

theorem BlobAccepted.keys {b : List UInt8} (accepted : BlobAccepted b) :
    configFields (decodedConfig b) = (List.range 12).map (configField b) := by
  have fields := accepted.fields.2
  have mqttKey : (if (decodedConfig b).mqtt.configured then
      (decodedConfig b).mqtt.managementKey.toList else []) = configField b 6 :=
    optionalKey_padded _ _ (key_length b 6 accepted.whole 2 (by simp))
  have frpKey : (if (decodedConfig b).frp.configured then
      (decodedConfig b).frp.managementKey.toList else []) = configField b 11 :=
    optionalKey_padded _ _ (key_length b 11 accepted.whole 4 (by simp))
  rw [configFields, fields.ssid, fields.wifiPassword, fields.host, fields.user, fields.mqttPassword,
    fields.ca, fields.frpHost, fields.token, fields.frpCa, fields.proxy, mqttKey, frpKey]
  rfl

theorem lengthByte_field (b : List UInt8) (index offset : Nat)
    (length : (configField b index).length = (byteAt b offset).toNat) :
    byteAt b offset = lengthByte (configField b index) := by
  simp [lengthByte, length]

theorem lengthWord_field (b : List UInt8) (index offset : Nat)
    (length : (configField b index).length = (get16 b offset).toNat) :
    get16 b offset = lengthWord (configField b index) := by
  simp [lengthWord, length]

theorem BlobAccepted.reads {b : List UInt8} (accepted : BlobAccepted b) :
    HeaderReads (decodedConfig b) b := by
  have header := accepted.header
  have fields := accepted.fields.2
  have length := fun index => configField_length b index accepted.whole
  constructor
  case magic => exact header.magic
  case version => exact header.version
  case flags => exact (flags_rebuilt _ header.flags).symm
  case ssid => rw [fields.ssid]; exact lengthByte_field b 0 6 (length 0 (by omega))
  case wifiPassword => rw [fields.wifiPassword]; exact lengthByte_field b 1 7 (length 1 (by omega))
  case host => rw [fields.host]; exact lengthByte_field b 2 12 (length 2 (by omega))
  case user => rw [fields.user]; exact lengthByte_field b 3 13 (length 3 (by omega))
  case mqttPassword => rw [fields.mqttPassword]; exact lengthWord_field b 4 14 (length 4 (by omega))
  case ca => rw [fields.ca]; exact lengthWord_field b 5 16 (length 5 (by omega))
  case frpHost => rw [fields.frpHost]; exact lengthByte_field b 7 20 (length 7 (by omega))
  case token => rw [fields.token]; exact lengthWord_field b 8 22 (length 8 (by omega))
  case frpCa => rw [fields.frpCa]; exact lengthWord_field b 9 24 (length 9 (by omega))
  case proxy => rw [fields.proxy]; exact lengthByte_field b 10 21 (length 10 (by omega))
  case spare => exact header.spare
  all_goals rfl

theorem keyValue (b : List UInt8) (index : Nat) (bit : UInt8)
    (exact : (configField b index).length = if byteAt b 5 &&& bit != 0 then mqttKeyBytes else 0) :
    (padded 32 (if byteAt b 5 &&& bit != 0 then configField b index else zeroKey)).toList =
      if byteAt b 5 &&& bit != 0 then configField b index else zeroKey := by
  have length : (if byteAt b 5 &&& bit != 0 then configField b index else zeroKey).length = 32 := by
    split
    · rename_i set
      simpa only [set, if_true, mqttKeyBytes] using exact
    · rfl
  rw [padded_toList _ _ (by omega), length]
  simp

theorem BlobAccepted.valid {b : List UInt8} (accepted : BlobAccepted b) :
    configValid (decodedConfig b) = true := by
  have fields := accepted.fields.2
  have mqttKey : (decodedConfig b).mqtt.managementKey.toList = _ :=
    keyValue b 6 2 (key_length b 6 accepted.whole 2 (by simp))
  have frpKey : (decodedConfig b).frp.managementKey.toList = _ :=
    keyValue b 11 4 (key_length b 11 accepted.whole 4 (by simp))
  refine (configValid_iff _).mpr ⟨accepted.fields.1, ?_, ?_, ?_⟩
  · rw [fields.ssid, fields.wifiPassword]
    exact accepted.wifi
  · rw [MqttConfig.valuesValid, fields.host, fields.user, fields.mqttPassword, fields.ca, mqttKey]
    exact accepted.mqtt
  · rw [FrpConfig.valuesValid, fields.frpHost, fields.token, fields.frpCa, fields.proxy, frpKey]
    exact accepted.frp

theorem configEncode_decode (b : List UInt8) (c : RemoteConfig) (decoded : configDecode b = some c) :
    configValid c = true ∧ configEncode c = some b := by
  obtain ⟨accepted, rfl⟩ := configDecode_accepted b c decoded
  have valid := accepted.valid
  have header := accepted.reads.header accepted.header.least
  have fields := configField_flatten b accepted.whole
  refine ⟨valid, ?_⟩
  rw [configEncode, if_pos valid, header, accepted.keys, fields, List.take_append_drop]

theorem configEncode_length (c : RemoteConfig) (b : List UInt8) (encoded : configEncode c = some b) :
    configHeaderBytes ≤ b.length ∧ b.length ≤ configMaxBytes := by
  have header := (configDecode_accepted b c (configDecode_encode c b encoded)).1.header
  exact ⟨header.least, header.most⟩

theorem configEncode_isSome (c : RemoteConfig) :
    (configEncode c).isSome = true ↔ configValid c = true := by
  cases valid : configValid c <;> simp [configEncode, valid]

theorem zeros_padded : padded 32 zeroKey = Vector.replicate 32 0 := by
  decide

theorem copiedKey (configured : Bool) (key : List UInt8) :
    (if configured then padded 32 key else Vector.replicate 32 0) =
      padded 32 (if configured then key else zeroKey) := by
  cases configured with
  | true => rfl
  | false => exact zeros_padded.symm

theorem refused_or (refused : Prop) [Decidable refused] (out : RemoteConfig)
    (written : Bool × RemoteConfig) (decoded : Option RemoteConfig)
    (same : written = (decoded.isSome, decoded.getD out)) :
    (if refused then (false, out) else written) =
      ((if refused then none else decoded).isSome, (if refused then none else decoded).getD out) := by
  by_cases refusal : refused
  · simp [refusal]
  · simp [refusal, same]

theorem configDecodeInto_eq (b : List UInt8) (out : RemoteConfig) :
    configDecodeInto b out = ((configDecode b).isSome, (configDecode b).getD out) := by
  unfold configDecodeInto configDecode
  apply refused_or
  apply refused_or
  apply refused_or
  simp only [Option.isSome_some, Option.getD_some, RemoteConfig.zero, WifiConfig.zero,
    MqttConfig.zero, FrpConfig.zero, copied_cleared, copiedKey, UInt32.zero_or]

theorem config_codec :
    (∀ c, (configEncode c).isSome = true ↔ configValid c = true) ∧
      (∀ c b, configEncode c = some b →
        40 ≤ b.length ∧ b.length ≤ 7618 ∧ ∀ out, configDecodeInto b out = (true, c)) ∧
      (∀ b out c, configDecodeInto b out = (true, c) →
        configValid c = true ∧ configEncode c = some b) ∧
      ∀ b out, (configDecodeInto b out).1 = false → (configDecodeInto b out).2 = out := by
  refine ⟨configEncode_isSome, ?_, ?_, ?_⟩
  · intro c b encoded
    have bounds := configEncode_length c b encoded
    refine ⟨bounds.1, bounds.2, fun out => ?_⟩
    rw [configDecodeInto_eq, configDecode_encode c b encoded]
    rfl
  · intro b out c accepted
    rw [configDecodeInto_eq, Prod.mk.injEq] at accepted
    obtain ⟨c', decoded⟩ := Option.isSome_iff_exists.mp accepted.1
    have same : c' = c := by simpa [decoded] using accepted.2
    subst same
    exact configEncode_decode b c' decoded
  · intro b out refused
    rw [configDecodeInto_eq] at refused ⊢
    simp only [Option.isSome_eq_false_iff, Option.isNone_iff_eq_none] at refused
    simp [refused]

end EspBase

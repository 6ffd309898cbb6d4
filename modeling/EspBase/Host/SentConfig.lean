import EspBase.Host.Sendable

set_option autoImplicit false

namespace EspBase

open Unicode

variable {fields : Entries} {items : List (CString × CJson)} {name : String} {tree : CJson}

theorem copyId_read (here : FieldRead fields items name tree) (id : CString) (uuid : isUuid id)
    (same : field fields name = .str (pointsOf id.bytes)) : copyId (some (.object items)) name = some id := by
  have joined := joinSurrogates_plain _ (plain_points id.bytes (uuid_plain id uuid))
  have value := here.value
  rw [same] at value
  obtain ⟨key, named, rfl⟩ := Option.map_eq_some_iff.mp value
  have written := (stringTree_encode _ joined key).mp named
  have ascii : isAscii (pointsOf id.bytes) = true := by
    have plain := plain_points id.bytes (uuid_plain id uuid)
    simp only [isAscii, List.all_eq_true, plainPoint, Bool.and_eq_true, decide_eq_true_eq] at plain ⊢
    intro point member
    have below : point.val < 0x7f := (plain point member).1.1.2
    omega
  rw [encode_of_ascii _ ascii, pointsOf_bytes] at written
  obtain rfl : key = id := CString.ext (Option.some.inj written).symm
  rw [copyId, here.item]
  simp [stringOf, uuid_length key uuid, uuid]

theorem isNumber_read (here : FieldRead fields items name tree) (value : Nat) (small : value < 2 ^ 53) :
    isNumber (objectItem (some (.object items)) name) value = true ↔ field fields name = .int value := by
  rw [here.item, isNumber]
  rcases number_tree _ here.value with ⟨n, same, rfl⟩ | ⟨other, none⟩
  · simpa [numberOf, same] using Double.ofInt_equals n value small
  · simp [none, other]

theorem isNull_read (here : FieldRead fields items name tree) :
    isNull (objectItem (some (.object items)) name) = true ↔ field fields name = .null := by
  rw [here.item]
  rcases section_cases _ here.value with ⟨same, rfl⟩ | ⟨entries, inner, same, rfl, -⟩ | ⟨some, -, null, -⟩
  · simp [same, isNull]
  · simp [same, isNull]
  · simp [some, null]

theorem revisionNumber_read (here : FieldRead fields items name tree) (n : Nat) (small : n < 2 ^ 32)
    (same : field fields name = .int n) : revisionNumber (objectItem (some (.object items)) name) = some n := by
  have value := here.value
  rw [same] at value
  obtain rfl := Option.some.inj value
  have between := (Double.ofInt_between n 0 4294967295 (by norm_num)).mpr (by omega)
  have least : (Double.ofInt n).less 0 = false := by simpa using between.1
  have most : (Double.ofInt n).exceeds 4294967295 = false := by simpa using between.2
  have whole := Double.ofInt_exact n (by omega)
  have floor : ((n : Int) : Rat).floor = n := Rat.floor_intCast n
  simp only [here.item, revisionNumber, numberOf, least, most]
  rw [whole]
  simp only [Double.isWhole, Double.toNat, floor]
  simp

theorem refused_error (out : Command) (error : String) : (refused out error).error ≠ none := by
  simp [refused]

theorem config_judged (fields : Entries) (items : List (CString × CJson)) (read : entriesTree fields = some items)
    (regular : Json.Regular (.dict fields)) (keys : sameKeys fields (configNames.map text) = true)
    (revision : Nat) :
    (supported fields = true ∧ validateWifi (field fields "wifi") = .ok () ∧
        validateMqtt (field fields "mqtt") = .ok () ∧ validateFrp (field fields "frp") = .ok ()) ↔
      isNumber (objectItem (some (.object items)) "schema_version") 3 = true ∧
        isNull (objectItem (some (.object items)) "business") = true ∧
          ∃ w m f, wifiFrom (objectItem (some (.object items)) "wifi") = some w ∧
            mqttFrom (objectItem (some (.object items)) "mqtt") = some m ∧
              frpFrom (objectItem (some (.object items)) "frp") = some f ∧
                configValid { revision := UInt32.ofNat revision, wifi := w, mqtt := m, frp := f } = true := by
  have found := field_read fields items read regular configNames keys
  obtain ⟨_, schema⟩ := found "schema_version" (by decide) (by decide)
  obtain ⟨_, wifi⟩ := found "wifi" (by decide) (by decide)
  obtain ⟨_, mqtt⟩ := found "mqtt" (by decide) (by decide)
  obtain ⟨_, frp⟩ := found "frp" (by decide) (by decide)
  obtain ⟨_, business⟩ := found "business" (by decide) (by decide)
  rw [supported_iff, isNumber_read schema 3 (by norm_num), isNull_read business, wifi.item, mqtt.item, frp.item,
    (wifi_section _ _ wifi.regular wifi.value).1, (mqtt_section _ _ mqtt.regular mqtt.value).1,
    (frp_section _ _ frp.regular frp.value).1]
  simp only [configValid_sections]
  constructor
  · rintro ⟨⟨version, none⟩, ⟨w, wifis, valid⟩, ⟨m, mqtts, sound⟩, f, frps, fine⟩
    exact ⟨version, none, w, m, f, wifis, mqtts, frps, valid, sound, fine⟩
  · rintro ⟨version, none, w, m, f, wifis, mqtts, frps, valid, sound, fine⟩
    exact ⟨⟨version, none⟩, ⟨w, wifis, valid⟩, ⟨m, mqtts, sound⟩, f, frps, fine⟩

theorem config_kept (fields : Entries) (items : List (CString × CJson)) (read : entriesTree fields = some items)
    (regular : Json.Regular (.dict fields)) (keys : sameKeys fields (configNames.map text) = true)
    (w : WifiConfig) (m : MqttConfig) (f : FrpConfig)
    (wifis : wifiFrom (objectItem (some (.object items)) "wifi") = some w)
    (mqtts : mqttFrom (objectItem (some (.object items)) "mqtt") = some m)
    (frps : frpFrom (objectItem (some (.object items)) "frp") = some f) (revision : Nat) :
    ({ revision := UInt32.ofNat revision, wifi := w, mqtt := m, frp := f } : RemoteConfig) =
      configOf revision (.dict fields) := by
  have found := field_read fields items read regular configNames keys
  obtain ⟨_, wifi⟩ := found "wifi" (by decide) (by decide)
  obtain ⟨_, mqtt⟩ := found "mqtt" (by decide) (by decide)
  obtain ⟨_, frp⟩ := found "frp" (by decide) (by decide)
  rw [wifi.item] at wifis
  rw [mqtt.item] at mqtts
  rw [frp.item] at frps
  simp only [configOf, (wifi_section _ _ wifi.regular wifi.value).2 w wifis,
    (mqtt_section _ _ mqtt.regular mqtt.value).2 m mqtts, (frp_section _ _ frp.regular frp.value).2 f frps]

theorem parseConfigSet_judged (here : FieldRead fields items "parameters" tree) (revision : Nat)
    (small : revision < 2 ^ 32) (config : Json) (same : field fields "parameters" = setParameters revision config)
    (out : Command) :
    (validateConfiguration config = .ok () → parseConfigSet (some (.object items)) out =
        decoded { out with config := configOf revision config, kind := .configSet }) ∧
      (validateConfiguration config ≠ .ok () → (parseConfigSet (some (.object items)) out).error ≠ none) := by
  have value := here.value
  have regular := here.regular
  rw [same] at value regular
  obtain ⟨inner, read, rfl⟩ := Option.map_eq_some_iff.mp value
  have named := sameKeys_dict ["expected_revision", "config"]
    [(text "expected_revision", .int revision), (text "config", config)] rfl
  have exact_ := exactKeys_tree _ inner read regular ["expected_revision", "config"] (by decide) (by decide)
  rw [named] at exact_
  obtain ⟨_, numbered⟩ := field_read _ inner read regular _ named "expected_revision" (by decide) (by decide)
  obtain ⟨tree, given⟩ := field_read _ inner read regular _ named "config" (by decide) (by decide)
  have revised := revisionNumber_read numbered revision small rfl
  have made : config.tree = some tree := given.value
  have whole : config.Regular := given.regular
  have item := given.item
  simp only [parseConfigSet, here.item, exact_, revised, item, Bool.not_true, Bool.false_eq_true, if_false]
  rcases section_cases config made with ⟨rfl, rfl⟩ | ⟨entries, leaves, rfl, rfl, inside⟩ | ⟨-, dict, -, keys⟩
  · simp [validateConfiguration, fieldsOf, exactKeys, invalidRequest, refused_error]
  · have five := exactKeys_tree entries leaves inside whole configKeys (by decide) configNames_distinct
    simp only [five, validateConfiguration_ok, ne_eq]
    by_cases keys : sameKeys entries (configNames.map text) = true
    · have judged := config_judged entries leaves inside whole keys revision
      have kept := config_kept entries leaves inside whole keys
      have known : sameKeys entries (configKeys.map text) = true := keys
      simp only [keys, known, judged, true_and, Bool.not_true, Bool.false_eq_true, if_false]
      cases schema : isNumber (objectItem (some (.object leaves)) "schema_version") 3 with
      | false => simp [invalidRequest, refused_error]
      | true =>
        cases business : isNull (objectItem (some (.object leaves)) "business") with
        | false => simp [refused_error]
        | true =>
          cases wifis : wifiFrom (objectItem (some (.object leaves)) "wifi") with
          | none => simp [invalidRequest, refused_error]
          | some w =>
            cases mqtts : mqttFrom (objectItem (some (.object leaves)) "mqtt") with
            | none => simp [invalidRequest, refused_error]
            | some m =>
              cases frps : frpFrom (objectItem (some (.object leaves)) "frp") with
              | none => simp [invalidRequest, refused_error]
              | some f =>
                have meant := kept w m f wifis mqtts frps revision
                simp only [meant]
                cases valid : configValid (configOf revision (.dict entries)) with
                | false => simp [meant, valid, invalidRequest, refused_error]
                | true => simp [meant, valid]
    · have unknown : sameKeys entries (configKeys.map text) = false := Bool.eq_false_of_not_eq_true keys
      simp [keys, unknown, invalidRequest, refused_error]
  · have invalid : validateConfiguration config ≠ .ok () := by
      cases config <;> simp_all [validateConfiguration, fieldsOf]
    simp [invalid, keys, invalidRequest, refused_error]

-- The identities that `read_result` has checked, and a deadline and revision in range.
structure SetHeader where
  requestId : CString
  deviceId : CString
  bootId : CString
  expires : Nat
  revision : Nat
  request : isUuid requestId = true
  device : isUuid deviceId = true
  boot : isUuid bootId = true
  deadline : expires ≤ 9007199254740991
  counted : revision < 2 ^ 32

def SetHeader.sent (h : SetHeader) (config : Json) : Json :=
  setRequest (pointsOf h.requestId.bytes) (pointsOf h.deviceId.bytes) (pointsOf h.bootId.bytes) h.expires
    h.revision config

def SetHeader.command (h : SetHeader) (config : Json) : Command :=
  { Command.zero with
    kind := .configSet
    request :=
      { Request.zero with
        requestId := h.requestId
        deviceId := h.deviceId
        bootId := h.bootId
        expiresAtMs := h.expires }
    config := configOf h.revision config }

theorem uuid_joined (id : CString) (uuid : isUuid id) :
    joinSurrogates (pointsOf id.bytes) = pointsOf id.bytes :=
  joinSurrogates_plain _ (plain_points id.bytes (uuid_plain id uuid))

theorem name_joined (name : String) (plain : (text name).all plainPoint = true) :
    joinSurrogates (text name) = text name := joinSurrogates_plain _ plain

section Request

variable {requestId deviceId bootId : CString} (expires revision : Int) {config : Json}

theorem setRequest_regular (request : isUuid requestId) (device : isUuid deviceId) (boot : isUuid bootId)
    (whole : config.Regular) :
    (setRequest (pointsOf requestId.bytes) (pointsOf deviceId.bytes) (pointsOf bootId.bytes) expires revision
      config).Regular := by
  have inner : (setParameters revision config).Regular := by
    have distinct : ([text "expected_revision", text "config"]).Nodup := by decide
    exact ⟨distinct, name_joined _ (by decide), trivial, name_joined _ (by decide), whole, trivial⟩
  have keys : ([text "protocol_version", text "request_id", text "command", text "device_id",
      text "target_boot_id", text "expires_at_uptime_ms", text "parameters"]).Nodup := by decide
  exact ⟨keys, name_joined _ (by decide), trivial, name_joined _ (by decide), uuid_joined _ request,
    name_joined _ (by decide), name_joined _ (by decide), name_joined _ (by decide), uuid_joined _ device,
    name_joined _ (by decide), uuid_joined _ boot, name_joined _ (by decide), trivial,
    name_joined _ (by decide), inner, trivial⟩

structure SetRead (requestId deviceId bootId : CString) (expires revision : Int) (config : Json)
    (items : List (CString × CJson)) (command : CString) : Prop where
  called : stringOf (objectItem (some (.object items)) "command") = some command
  spelled : command.bytes = bytesOf "config.set"
  version : isNumber (objectItem (some (.object items)) "protocol_version") 1 = true
  keys : exactKeys (some (.object items)) writeKeys = true
  request : copyId (some (.object items)) "request_id" = some requestId
  device : copyId (some (.object items)) "device_id" = some deviceId
  boot : copyId (some (.object items)) "target_boot_id" = some bootId
  deadline : ∃ fields tree, FieldRead fields items "expires_at_uptime_ms" tree ∧
    field fields "expires_at_uptime_ms" = .int expires
  parameters : ∃ fields tree, FieldRead fields items "parameters" tree ∧
    field fields "parameters" = setParameters revision config

theorem setRequest_read (request : isUuid requestId) (device : isUuid deviceId) (boot : isUuid bootId)
    (whole : config.Regular) (tree : CJson)
    (made : (setRequest (pointsOf requestId.bytes) (pointsOf deviceId.bytes) (pointsOf bootId.bytes) expires revision
      config).tree = some tree) :
    ∃ items command, tree = .object items ∧
      SetRead requestId deviceId bootId expires revision config items command := by
  have regular := setRequest_regular expires revision request device boot whole
  obtain ⟨entries, sent, named⟩ : ∃ entries : Entries,
      setRequest (pointsOf requestId.bytes) (pointsOf deviceId.bytes) (pointsOf bootId.bytes) expires revision
        config = .dict entries ∧ entries.map Prod.fst = writeKeys.map text ∧
      field entries "protocol_version" = .int (1 : Nat) ∧
      field entries "request_id" = .str (pointsOf requestId.bytes) ∧
      field entries "command" = .str (text "config.set") ∧
      field entries "device_id" = .str (pointsOf deviceId.bytes) ∧
      field entries "target_boot_id" = .str (pointsOf bootId.bytes) ∧
      field entries "expires_at_uptime_ms" = .int expires ∧
      field entries "parameters" = setParameters revision config :=
    ⟨_, rfl, rfl, rfl, rfl, rfl, rfl, rfl, rfl, rfl⟩
  obtain ⟨named, version_is, request_is, command_is, device_is, boot_is, expires_is, parameters_is⟩ := named
  rw [sent] at made regular
  obtain ⟨items, read, rfl⟩ := Option.map_eq_some_iff.mp made
  have keys := sameKeys_dict writeKeys entries named
  have exact_ := exactKeys_tree entries items read regular writeKeys (by decide) (by decide)
  rw [keys] at exact_
  have found := field_read entries items read regular writeKeys keys
  obtain ⟨_, version⟩ := found "protocol_version" (by decide) (by decide)
  obtain ⟨_, requested⟩ := found "request_id" (by decide) (by decide)
  obtain ⟨_, command⟩ := found "command" (by decide) (by decide)
  obtain ⟨_, addressed⟩ := found "device_id" (by decide) (by decide)
  obtain ⟨_, booted⟩ := found "target_boot_id" (by decide) (by decide)
  obtain ⟨_, deadline⟩ := found "expires_at_uptime_ms" (by decide) (by decide)
  obtain ⟨_, parameters⟩ := found "parameters" (by decide) (by decide)
  have value := command.value
  rw [command_is, Json.tree] at value
  obtain ⟨key, called, rfl⟩ := Option.map_eq_some_iff.mp value
  have bytes := (stringTree_encode _ (name_joined "config.set" (by decide)) key).mp called
  rw [encode_text "config.set" (by decide)] at bytes
  refine ⟨items, key, rfl, ?_⟩
  constructor
  case called => rw [command.item]; rfl
  case spelled => exact (Option.some.inj bytes).symm
  case version => exact (isNumber_read version 1 (by norm_num)).mpr version_is
  case keys => exact exact_
  case request => exact copyId_read requested requestId request request_is
  case device => exact copyId_read addressed deviceId device device_is
  case boot => exact copyId_read booted bootId boot boot_is
  case deadline => exact ⟨entries, _, deadline, expires_is⟩
  case parameters => exact ⟨entries, _, parameters, parameters_is⟩

variable {expires revision} {items : List (CString × CJson)} {command : CString}

theorem SetRead.parsed (here : SetRead requestId deviceId bootId expires revision config items command)
    (build : DecoderBuild) (n : Nat) (deadline : expires = n) (most : n ≤ 9007199254740991) :
    parseRoot build (some (.object items)) command =
      parseConfigSet (some (.object items))
        { Command.zero with
          request := { Request.zero with requestId, deviceId, bootId, expiresAtMs := n } } := by
  obtain ⟨fields, tree, read, same⟩ := here.deadline
  have bounded := (wholeNumber_read read 9007199254740991 n (by norm_num) 0).mpr
    ⟨by rw [same, deadline], Nat.zero_le _, most⟩
  have status : (bytesOf "config.set" == bytesOf "status") = false := by decide
  have result : (bytesOf "config.set" == bytesOf "ota.result") = false := by decide
  have start : ¬bytesOf "config.set" = bytesOf "ota.start" := by decide
  simp only [parseRoot, parseWrite, here.spelled, status, result, start, Bool.false_eq_true, if_false, if_true,
    here.keys, Bool.not_true, here.request, here.device, here.boot, bounded]

theorem SetRead.late (here : SetRead requestId deviceId bootId expires revision config items command)
    (build : DecoderBuild) (past : 9007199254740991 < expires) :
    (parseRoot build (some (.object items)) command).error ≠ none := by
  obtain ⟨fields, tree, read, same⟩ := here.deadline
  have unbounded : wholeNumber 0 9007199254740991 (objectItem (some (.object items)) "expires_at_uptime_ms") =
      none := by
    refine Option.eq_none_iff_forall_ne_some.mpr (fun n taken => ?_)
    obtain ⟨counted, -, most⟩ := (wholeNumber_read read 9007199254740991 n (by norm_num) 0).mp taken
    have equal := Json.int.inj (same.symm.trans counted)
    omega
  have status : (bytesOf "config.set" == bytesOf "status") = false := by decide
  have result : (bytesOf "config.set" == bytesOf "ota.result") = false := by decide
  simp only [parseRoot, parseWrite, here.spelled, status, result, Bool.false_eq_true, if_false, here.keys,
    Bool.not_true, here.request, here.device, here.boot, unbounded]
  exact refused_error _ _

end Request

theorem request_judged (h : SetHeader) (config : Json) (whole : config.Regular) (tree : CJson)
    (made : (h.sent config).tree = some tree) (build : DecoderBuild) :
    ∃ command : CString, stringOf (objectItem (some tree) "command") = some command ∧ isObject (some tree) = true ∧
      isNumber (objectItem (some tree) "protocol_version") 1 = true ∧
        (validateConfiguration config = .ok () →
          parseRoot build (some tree) command = decoded (h.command config)) ∧
        (validateConfiguration config ≠ .ok () → (parseRoot build (some tree) command).error ≠ none) := by
  obtain ⟨items, command, rfl, here⟩ := setRequest_read h.expires h.revision h.request h.device h.boot whole tree made
  obtain ⟨fields, leaf, parameters, same⟩ := here.parameters
  refine ⟨command, here.called, rfl, here.version, ?_⟩
  rw [here.parsed build h.expires rfl h.deadline]
  exact parseConfigSet_judged parameters h.revision h.counted config same _

theorem sent_nonempty (h : SetHeader) (config : Json) : (h.sent config).dumps.length ≠ 0 := by
  simp [SetHeader.sent, setRequest, Json.dumps]

theorem sent_sendable (h : SetHeader) (config : Json) (whole : config.Regular)
    (valid : validateConfiguration config = .ok ()) :
    validBytes (h.sent config).dumps = true ∧ (h.sent config).tree.isSome ∧ (h.sent config).modest = true := by
  have sendable := config_sendable config whole valid
  have name (literal : String) (plain : (text literal).all plainPoint = true) : Carried (text literal) :=
    plain_carried _ plain
  have id (value : CString) (uuid : isUuid value) : Carried (pointsOf value.bytes) :=
    plain_carried _ (plain_points value.bytes (uuid_plain value uuid))
  have number (n : Nat) (small : n < 10 ^ 62) : (Json.int n).Sendable 3 184 :=
    (int_sendable n small).weaken (by decide) (by decide)
  have words (s : Text) (carried : Carried s) : (Json.str s).Sendable 3 184 :=
    (text_sendable s carried).weaken (by decide) (by decide)
  have deadline : h.expires < 10 ^ 62 := lt_of_le_of_lt h.deadline (by norm_num)
  have counted : h.revision < 10 ^ 62 := lt_of_lt_of_le h.counted (by norm_num)
  have inner : (setParameters h.revision config).Sendable 3 184 := by
    refine dict_sendable [(text "expected_revision", .int h.revision), (text "config", config)] 2 90 ?_ ?_
    · simp only [List.forall_mem_cons, List.not_mem_nil, false_implies, implies_true, and_true]
      exact ⟨name _ (by decide), name _ (by decide)⟩
    · simp only [List.forall_mem_cons, List.not_mem_nil, false_implies, implies_true, and_true]
      exact ⟨(int_sendable h.revision counted).weaken (by decide) (by decide), sendable⟩
  have request : (h.sent config).Sendable 4 (7 * 186) := by
    refine dict_sendable [(text "protocol_version", .int (1 : Nat)),
      (text "request_id", .str (pointsOf h.requestId.bytes)), (text "command", .str (text "config.set")),
      (text "device_id", .str (pointsOf h.deviceId.bytes)), (text "target_boot_id", .str (pointsOf h.bootId.bytes)),
      (text "expires_at_uptime_ms", .int h.expires), (text "parameters", setParameters h.revision config)] 3 184
      ?_ ?_
    · simp only [List.forall_mem_cons, List.not_mem_nil, false_implies, implies_true, and_true]
      exact ⟨name _ (by decide), name _ (by decide), name _ (by decide), name _ (by decide), name _ (by decide),
        name _ (by decide), name _ (by decide)⟩
    · simp only [List.forall_mem_cons, List.not_mem_nil, false_implies, implies_true, and_true]
      exact ⟨number 1 (by norm_num), words _ (id _ h.request), words _ (name _ (by decide)),
        words _ (id _ h.device), words _ (id _ h.boot), number _ deadline, inner⟩
  refine ⟨?_, request.tree, request.modest⟩
  obtain ⟨total, scanned, -⟩ := sendable.scanned 2 16 (by decide) (by decide)
  have free (literal : String) (plain : (text literal).all plainPoint = true) : nulFree (text literal) = true :=
    (name literal plain).key.2
  have clear (value : CString) (uuid : isUuid value) : nulFree (pointsOf value.bytes) = true := (id value uuid).key.2
  rw [validBytes_dumps]
  simp [SetHeader.sent, setRequest, setParameters, Json.scanned, entriesScanned, scanned, clear _ h.request,
    clear _ h.device, clear _ h.boot, free "protocol_version" (by decide), free "request_id" (by decide),
    free "command" (by decide), free "config.set" (by decide), free "device_id" (by decide),
    free "target_boot_id" (by decide), free "expires_at_uptime_ms" (by decide), free "parameters" (by decide),
    free "expected_revision" (by decide), free "config" (by decide)]

theorem ebaseParseCommand_tree (build : DecoderBuild) (json : List UInt8) (tree : CJson) (command : CString)
    (some_byte : json.length ≠ 0) (short : json.length ≤ lineLimit) (scanned : validBytes json = true)
    (read : build.cjson json = some (tree, json.length))
    (called : stringOf (objectItem (some tree) "command") = some command) (object : isObject (some tree) = true)
    (version : isNumber (objectItem (some tree) "protocol_version") 1 = true) :
    ebaseParseCommand build json = parseRoot build (some tree) command := by
  have taken : ¬(json.length = 0 ∨ json.length > lineLimit ∨ (!validBytes json) = true) := by
    simp only [scanned, Bool.not_true, Bool.false_eq_true, or_false, not_or]
    exact ⟨some_byte, by omega⟩
  unfold ebaseParseCommand
  rw [if_neg taken]
  simp [read, called, object, version]

section Sent

variable (decoder : DecoderBuild) (h : SetHeader) (config : Json)

theorem sent_judged (whole : config.Regular) (short : (h.sent config).dumps.length ≤ lineLimit)
    (reads : CJsonDenotes decoder.cjson (h.sent config)) (scanned : validBytes (h.sent config).dumps = true)
    (tree : CJson) (finish : Nat) (read : decoder.cjson (h.sent config).dumps = some (tree, finish)) :
    ∃ command, ebaseParseCommand decoder (h.sent config).dumps = parseRoot decoder (some tree) command ∧
      (validateConfiguration config = .ok () → parseRoot decoder (some tree) command = decoded (h.command config)) ∧
      (validateConfiguration config ≠ .ok () → (parseRoot decoder (some tree) command).error ≠ none) := by
  obtain ⟨made, rfl⟩ := reads.sound scanned tree finish read
  obtain ⟨command, called, object, version, verdict⟩ := request_judged h config whole tree made decoder
  exact ⟨command, ebaseParseCommand_tree decoder _ tree command (sent_nonempty h config) short scanned read called
    object version, verdict⟩

theorem sent_decoded (whole : config.Regular) (short : (h.sent config).dumps.length ≤ lineLimit)
    (reads : CJsonDenotes decoder.cjson (h.sent config)) (valid : validateConfiguration config = .ok ()) :
    ebaseParseCommand decoder (h.sent config).dumps = decoded (h.command config) := by
  obtain ⟨scanned, made, modest⟩ := sent_sendable h config whole valid
  obtain ⟨⟨tree, finish⟩, read⟩ := Option.isSome_iff_exists.mp (reads.complete scanned made modest)
  obtain ⟨command, parsed, taken, -⟩ := sent_judged decoder h config whole short reads scanned tree finish read
  rw [parsed, taken valid]

theorem parse_refused (json : List UInt8)
    (each : validBytes json = true → ∀ tree finish, decoder.cjson json = some (tree, finish) →
      (ebaseParseCommand decoder json).error ≠ none) : (ebaseParseCommand decoder json).error ≠ none := by
  by_cases scanned : validBytes json = true
  · cases read : decoder.cjson json with
    | none =>
      simp only [ebaseParseCommand, read]
      split <;> exact refused_error _ _
    | some found => exact each scanned found.1 found.2 read
  · unfold ebaseParseCommand
    rw [if_pos (.inr (.inr (by simpa using scanned)))]
    exact refused_error _ _

end Sent

/-- For every loaded configuration value, the host's validation accepts it exactly when the device accepts the
line that `send` writes for it, and then the command is the one that the value means. -/
theorem configurations_agree (decoder : DecoderBuild) (h : SetHeader) (config : Json) (whole : config.Regular)
    (line : List UInt8) (sent : sendLine (h.sent config) = .ok line)
    (reads : CJsonDenotes decoder.cjson (h.sent config)) :
    (validateConfiguration config = .ok () ↔ (ebaseParseCommand decoder line).error = none) ∧
      (validateConfiguration config = .ok () → ebaseParseCommand decoder line = decoded (h.command config)) := by
  obtain ⟨rfl, short⟩ := sendLine_ok _ _ sent
  have accepted := sent_decoded decoder h config whole short reads
  refine ⟨⟨fun valid => by rw [accepted valid]; rfl, fun taken => ?_⟩, accepted⟩
  by_contra invalid
  refine parse_refused decoder _ (fun scanned tree finish read => ?_) taken
  obtain ⟨command, parsed, -, refuses⟩ := sent_judged decoder h config whole short reads scanned tree finish read
  rw [parsed]
  exact refuses invalid

theorem late_refused (decoder : DecoderBuild) {requestId deviceId bootId : CString} {expires revision : Int}
    {config : Json} (request : isUuid requestId) (device : isUuid deviceId) (boot : isUuid bootId)
    (whole : config.Regular) (past : 9007199254740991 < expires)
    (short : (setRequest (pointsOf requestId.bytes) (pointsOf deviceId.bytes) (pointsOf bootId.bytes) expires revision
      config).dumps.length ≤ lineLimit)
    (reads : CJsonDenotes decoder.cjson (setRequest (pointsOf requestId.bytes) (pointsOf deviceId.bytes)
      (pointsOf bootId.bytes) expires revision config)) :
    (ebaseParseCommand decoder (setRequest (pointsOf requestId.bytes) (pointsOf deviceId.bytes)
      (pointsOf bootId.bytes) expires revision config).dumps).error ≠ none := by
  have some_byte : (setRequest (pointsOf requestId.bytes) (pointsOf deviceId.bytes) (pointsOf bootId.bytes) expires
      revision config).dumps.length ≠ 0 := by simp [setRequest, Json.dumps]
  refine parse_refused decoder _ (fun scanned tree finish read => ?_)
  obtain ⟨made, rfl⟩ := reads.sound scanned tree finish read
  obtain ⟨items, command, rfl, here⟩ := setRequest_read expires revision request device boot whole tree made
  rw [ebaseParseCommand_tree decoder _ _ command some_byte short scanned read here.called rfl here.version]
  exact here.late decoder past

-- A decoder that knows one text.
def denoting (value : Json) : DecoderBuild :=
  { cjson := fun json => if json = value.dumps then value.tree.map (fun tree => (tree, json.length)) else none
    otaUrlBytes := 512 }

theorem denoting_denotes (value : Json) : CJsonDenotes (denoting value).cjson value := by
  constructor
  · intro _ tree finish read
    simp only [denoting, if_true, Option.map_eq_some_iff, Prod.mk.injEq] at read
    obtain ⟨found, made, rfl, rfl⟩ := read
    exact ⟨made, rfl⟩
  · intro _ made _
    simpa [denoting] using made

def kitchenConfig : Json :=
  .dict [(text "schema_version", .int 3),
    (text "wifi", .dict [(text "ssid", .str (text "K\u00fcche")), (text "password", .str (text "hunter22"))]),
    (text "mqtt", .null), (text "frp", .null), (text "business", .null)]

def kitchenHeader : SetHeader where
  requestId := CString.ofBytes (bytesOf "5f0c7a52-6e0d-4b57-9d3b-0a4f7d1c2e83")
  deviceId := sampleBoot.deviceId
  bootId := sampleBoot.bootId
  expires := 25000
  revision := 6
  request := by decide
  device := by decide
  boot := by decide
  deadline := by decide
  counted := by decide

theorem kitchenConfig_regular : kitchenConfig.Regular := by
  have five : ([text "schema_version", text "wifi", text "mqtt", text "frp", text "business"]).Nodup := by decide
  have two : ([text "ssid", text "password"]).Nodup := by decide
  exact ⟨five, name_joined _ (by decide), trivial, name_joined _ (by decide),
    ⟨two, name_joined _ (by decide), rfl, name_joined _ (by decide), name_joined _ (by decide), trivial⟩,
    name_joined _ (by decide), trivial, name_joined _ (by decide), trivial, name_joined _ (by decide), trivial,
    trivial⟩

theorem kitchenConfig_sent :
    sendLine (kitchenHeader.sent kitchenConfig) = .ok (kitchenHeader.sent kitchenConfig).dumps := by
  have written : (kitchenHeader.sent kitchenConfig).written = true := by decide
  have short : ¬(kitchenHeader.sent kitchenConfig).dumps.length > 9216 := by decide +kernel
  simp [sendLine, jsonDumps, written, short]

theorem configurations_agree_kitchen :
    validateConfiguration kitchenConfig = .ok () ∧
      ebaseParseCommand (denoting (kitchenHeader.sent kitchenConfig)) (kitchenHeader.sent kitchenConfig).dumps =
        decoded (kitchenHeader.command kitchenConfig) := by
  have valid : validateConfiguration kitchenConfig = .ok () := rfl
  exact ⟨valid, (configurations_agree (denoting (kitchenHeader.sent kitchenConfig)) kitchenHeader kitchenConfig
    kitchenConfig_regular _ kitchenConfig_sent (denoting_denotes _)).2 valid⟩

end EspBase

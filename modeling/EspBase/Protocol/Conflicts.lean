import EspBase.Protocol.CommandDecoder
import EspBase.Protocol.Replay

set_option autoImplicit false

/-!
# Which writes are taken for a repeat

A write is compared by what its fingerprint is taken of.
-/

namespace EspBase

open Bytes Transition

def isWrite (kind : CommandKind) : Prop := kind ≠ .status ∧ kind ≠ .otaResult

inductive Content where
  | config (config : RemoteConfig)
  | ota (request : OtaRequest)
  | restart
deriving DecidableEq

def Command.content (command : Command) : Content :=
  match command.kind with
  | .configSet => .config command.config
  | .otaStart => .ota command.ota
  | _ => .restart

def preimage (command : Command) : List UInt8 :=
  match command.kind with
  | .configSet => (configFingerprintBytes command.config).getD []
  | .otaStart => otaFingerprintBytes command.ota
  | _ => bytesOf "restart"

-- The fixed buffer of `ota.start`.
def otaFingerprintRoom (otaUrlBytes : Nat) : Nat := 10 + otaOperationIdBytes + otaUrlBytes + 1 + 32 + 4

structure Shaped (decoder : DecoderBuild) (command : Command) : Prop where
  config : command.kind = .configSet → configValid command.config = true
  operation : command.kind = .otaStart → command.ota.operationId.bytes.length = 36
  url : command.kind = .otaStart → command.ota.imageUrl.bytes.length ≤ decoder.otaUrlBytes
  restart : command.kind = .restart → command.request.fingerprint = restartFingerprint

def ShapedParse (decoder : DecoderBuild) (parsed : Parsed) : Prop :=
  parsed.error = none → Shaped decoder parsed.command

variable (decoder : DecoderBuild)

theorem refused_shaped (out : Command) (error : String) : ShapedParse decoder (refused out error) :=
  nofun

theorem copyId_length (object : Option CJson) (key : String) (id : CString)
    (copied : copyId object key = some id) : id.bytes.length = 36 := by
  unfold copyId at copied
  split at copied
  · split at copied
    next whole =>
      cases copied
      exact whole.1
    · cases copied
  · cases copied

theorem boundedText_text (most : Nat) (value : Option CJson) (text : List UInt8)
    (read : boundedText most value = some text) :
    (CString.ofBytes text).bytes = text ∧ text.length ≤ most := by
  unfold boundedText at read
  split at read
  next found _ =>
    split at read
    · cases read
    next short =>
      cases read
      exact ⟨by rw [CString.ofBytes_bytes], Nat.le_of_not_lt short⟩
  · cases read

theorem parseConfigSet_shaped (root : Option CJson) (out : Command) :
    ShapedParse decoder (parseConfigSet root out) := by
  unfold parseConfigSet
  dsimp only
  split
  · exact refused_shaped decoder out _
  split
  · exact refused_shaped decoder out _
  split
  · exact refused_shaped decoder out _
  split
  · exact refused_shaped decoder out _
  split
  · exact refused_shaped decoder out _
  split
  · split
    · exact refused_shaped decoder out _
    next valid =>
      intro _
      constructor <;> intro kind
      · simpa [decoded] using valid
      all_goals cases kind
  · exact refused_shaped decoder out _

theorem parseOtaStart_shaped (root : Option CJson) (out : Command) :
    ShapedParse decoder (parseOtaStart decoder root out) := by
  unfold parseOtaStart
  dsimp only
  split
  · exact refused_shaped decoder out _
  split
  · exact refused_shaped decoder out _
  next operationId copied =>
    split
    next url digest size target scheme located _ _ _ _ =>
      split
      · exact refused_shaped decoder _ _
      split
      · exact refused_shaped decoder _ _
      · intro _
        have text := boundedText_text _ _ url located
        constructor <;> intro kind
        · cases kind
        · exact copyId_length _ _ operationId copied
        · simpa [decoded, text.1] using text.2
        · cases kind
    · exact refused_shaped decoder _ _

theorem parseRestart_shaped (root : Option CJson) (out : Command) :
    ShapedParse decoder (parseRestart root out) := by
  unfold parseRestart
  split
  · exact refused_shaped decoder out _
  · intro _
    constructor <;> intro kind
    · cases kind
    · cases kind
    · cases kind
    · rfl

theorem parseWrite_shaped (root : Option CJson) (command : CString) (out : Command) :
    ShapedParse decoder (parseWrite decoder root command out) := by
  unfold parseWrite
  split
  · exact refused_shaped decoder out _
  dsimp only
  split
  · exact refused_shaped decoder _ _
  split
  · exact refused_shaped decoder _ _
  split
  · exact parseOtaStart_shaped decoder root _
  split
  · exact parseConfigSet_shaped decoder root _
  split
  · exact refused_shaped decoder _ _
  · exact parseRestart_shaped decoder root _

theorem parseOtaResult_shaped (root : Option CJson) (out : Command) :
    ShapedParse decoder (parseOtaResult root out) := by
  unfold parseOtaResult
  dsimp only
  split
  · exact refused_shaped decoder _ _
  split
  · exact refused_shaped decoder _ _
  · intro _
    constructor <;> intro kind <;> cases kind

theorem parseRoot_shaped (root : Option CJson) (command : CString) :
    ShapedParse decoder (parseRoot decoder root command) := by
  unfold parseRoot
  dsimp only
  generalize (if (command.bytes == bytesOf "status") = true then statusKeys else _) = keys
  split
  · exact refused_shaped decoder _ _
  split
  · exact refused_shaped decoder _ _
  split
  · intro _
    constructor <;> intro kind <;> cases kind
  split
  · exact parseOtaResult_shaped decoder root _
  · exact parseWrite_shaped decoder root command _

theorem ebaseParseCommand_shaped (json : List UInt8) :
    ShapedParse decoder (ebaseParseCommand decoder json) := by
  unfold ebaseParseCommand
  split
  · exact refused_shaped decoder _ _
  split
  · exact refused_shaped decoder _ _
  dsimp only
  split
  · exact refused_shaped decoder _ _
  split
  · exact refused_shaped decoder _ _
  · exact parseRoot_shaped decoder _ _

/-- The same tree, the members of every object in any order. -/
inductive Reordered : CJson → CJson → Prop where
  | same (tree : CJson) : Reordered tree tree
  | object (items between others : List (CString × CJson))
      (keys : items.map Prod.fst = between.map Prod.fst)
      (values : ∀ (index : Nat) (first second : CString × CJson), items[index]? = some first →
        between[index]? = some second → Reordered first.2 second.2)
      (order : between.Perm others) : Reordered (.object items) (.object others)

inductive SameItem : Option CJson → Option CJson → Prop where
  | missing : SameItem none none
  | present (first second : CJson) (same : Reordered first second) : SameItem (some first) (some second)

theorem isNull_same (first second : Option CJson) (same : SameItem first second) :
    isNull first = isNull second := by
  cases same with
  | missing => rfl
  | present _ _ same => cases same <;> rfl

theorem stringOf_same (first second : Option CJson) (same : SameItem first second) :
    stringOf first = stringOf second := by
  cases same with
  | missing => rfl
  | present _ _ same => cases same <;> rfl

theorem numberOf_same (first second : Option CJson) (same : SameItem first second) :
    numberOf first = numberOf second := by
  cases same with
  | missing => rfl
  | present _ _ same => cases same <;> rfl

theorem exactKeys_same (first second : Option CJson) (same : SameItem first second)
    (keys : List String) : exactKeys first keys = exactKeys second keys := by
  cases same with
  | missing => rfl
  | present _ _ same =>
    cases same with
    | same => rfl
    | object items between others named _ order =>
      have lengths : items.length = others.length := by
        rw [← List.length_map Prod.fst, named, List.length_map, order.length_eq]
      have counts (key : String) : items.countP (fun item => item.1.bytes == bytesOf key) =
          others.countP (fun item => item.1.bytes == bytesOf key) := by
        have mapped (l : List (CString × CJson)) :
            l.countP (fun item => item.1.bytes == bytesOf key) =
              (l.map Prod.fst).countP (fun name => name.bytes == bytesOf key) := by
          rw [List.countP_map]
          rfl
        rw [mapped, named, ← mapped, order.countP_eq]
      simp only [exactKeys, lengths, counts]

theorem find_named (names : CString → Bool) (items between : List (CString × CJson))
    (keys : items.map Prod.fst = between.map Prod.fst)
    (values : ∀ (index : Nat) (first second : CString × CJson), items[index]? = some first →
      between[index]? = some second → Reordered first.2 second.2) :
    SameItem ((items.find? (fun item => names item.1)).map Prod.snd)
      ((between.find? (fun item => names item.1)).map Prod.snd) := by
  induction items generalizing between with
  | nil =>
    obtain rfl : between = [] := by simpa using keys.symm
    exact .missing
  | cons item items ih =>
    cases between with
    | nil => cases keys
    | cons other between =>
      obtain ⟨key, keys⟩ := List.cons.inj keys
      have rest := ih between keys (fun index => values (index + 1))
      rw [List.find?_cons, List.find?_cons, ← key]
      cases names item.1 with
      | true => exact .present item.2 other.2 (values 0 item other rfl rfl)
      | false => exact rest

-- Among members of which one qualifies, the order decides nothing.
theorem find_perm {α : Type} (qualifies : α → Bool) (items others : List α)
    (order : items.Perm others) (once : items.countP qualifies = 1) :
    items.find? qualifies = others.find? qualifies := by
  rw [List.countP_eq_length_filter] at once
  obtain ⟨item, alone⟩ := List.length_eq_one_iff.mp once
  have filtered := order.filter qualifies
  rw [alone] at filtered
  rw [← List.head?_filter, ← List.head?_filter, alone, List.singleton_perm.mp filtered]

theorem objectItem_same (first second : Option CJson) (same : SameItem first second)
    (keys : List String) (exact_keys : exactKeys first keys = true) (key : String) (member : key ∈ keys) :
    SameItem (objectItem first key) (objectItem second key) := by
  cases same with
  | missing => exact .missing
  | present first second same =>
    cases same with
    | same =>
      cases found : objectItem (some first) key with
      | none => exact .missing
      | some item => exact .present item item (.same item)
    | object items between others named values order =>
      have named_between := find_named (fun name => name.bytes == bytesOf key) items between named values
      have once : between.countP (fun item => item.1.bytes == bytesOf key) = 1 := by
        have reached := exactKeys_same _ _ (.present _ _ (.object items between between named values (.refl _))) keys
        rw [reached] at exact_keys
        simp only [exactKeys, Bool.and_eq_true, List.all_eq_true, beq_iff_eq] at exact_keys
        exact exact_keys.2 key member
      simp only [objectItem]
      rw [← find_perm _ between others order once]
      exact named_between

theorem copyId_same (first second : Option CJson) (same : SameItem first second)
    (keys : List String) (exact_keys : exactKeys first keys = true) (key : String) (member : key ∈ keys) :
    copyId first key = copyId second key := by
  unfold copyId
  rw [stringOf_same _ _ (objectItem_same first second same keys exact_keys key member)]

theorem boundedText_same (most : Nat) (first second : Option CJson) (same : SameItem first second) :
    boundedText most first = boundedText most second := by
  simp only [boundedText, stringOf_same first second same]

theorem keyBytes_same (first second : Option CJson) (same : SameItem first second) :
    keyBytes first = keyBytes second := by
  simp only [keyBytes, stringOf_same first second same]

theorem wholeNumber_same (least most : Nat) (first second : Option CJson)
    (same : SameItem first second) : wholeNumber least most first = wholeNumber least most second := by
  simp only [wholeNumber, numberOf_same first second same]

theorem revisionNumber_same (first second : Option CJson) (same : SameItem first second) :
    revisionNumber first = revisionNumber second := by
  simp only [revisionNumber, numberOf_same first second same]

theorem isNumber_same (first second : Option CJson) (same : SameItem first second) (expected : Nat) :
    isNumber first expected = isNumber second expected := by
  simp only [isNumber, numberOf_same first second same]

theorem wifiFrom_same (first second : Option CJson) (same : SameItem first second) :
    wifiFrom first = wifiFrom second := by
  unfold wifiFrom
  rw [isNull_same _ _ same, exactKeys_same _ _ same]
  split
  · rfl
  split
  · rfl
  next whole =>
    rw [Bool.not_eq_true', Bool.not_eq_false, ← exactKeys_same _ _ same] at whole
    have item := objectItem_same first second same wifiKeys whole
    rw [boundedText_same 32 _ _ (item "ssid" (by decide)),
      boundedText_same 64 _ _ (item "password" (by decide))]

theorem mqttFrom_same (first second : Option CJson) (same : SameItem first second) :
    mqttFrom first = mqttFrom second := by
  unfold mqttFrom
  rw [isNull_same _ _ same, exactKeys_same _ _ same]
  split
  · rfl
  split
  · rfl
  next whole =>
    rw [Bool.not_eq_true', Bool.not_eq_false, ← exactKeys_same _ _ same] at whole
    have item := objectItem_same first second same mqttKeys whole
    rw [boundedText_same 253 _ _ (item "hostname" (by decide)),
      wholeNumber_same 1 65535 _ _ (item "port" (by decide)),
      boundedText_same 128 _ _ (item "username" (by decide)),
      boundedText_same 256 _ _ (item "password" (by decide)),
      boundedText_same 4096 _ _ (item "ca_pem" (by decide)),
      keyBytes_same _ _ (item "management_key_hex" (by decide))]

theorem frpFrom_same (first second : Option CJson) (same : SameItem first second) :
    frpFrom first = frpFrom second := by
  unfold frpFrom
  rw [isNull_same _ _ same, exactKeys_same _ _ same]
  split
  · rfl
  split
  · rfl
  next whole =>
    rw [Bool.not_eq_true', Bool.not_eq_false, ← exactKeys_same _ _ same] at whole
    have item := objectItem_same first second same frpKeys whole
    rw [boundedText_same 253 _ _ (item "server_hostname" (by decide)),
      wholeNumber_same 1 65535 _ _ (item "server_port" (by decide)),
      boundedText_same frpTokenMaxBytes _ _ (item "token" (by decide)),
      boundedText_same frpCaMaxBytes _ _ (item "ca_pem" (by decide)),
      boundedText_same 128 _ _ (item "proxy_name" (by decide)),
      wholeNumber_same 1 65535 _ _ (item "remote_port" (by decide)),
      wholeNumber_same 1 65535 _ _ (item "local_port" (by decide)),
      keyBytes_same _ _ (item "management_key_hex" (by decide))]

theorem parseConfigSet_same (first second : Option CJson) (same : SameItem first second)
    (whole : exactKeys first writeKeys = true) (out : Command) :
    parseConfigSet first out = parseConfigSet second out := by
  have parameters := objectItem_same first second same writeKeys whole "parameters" (by decide)
  unfold parseConfigSet
  dsimp only
  rw [exactKeys_same _ _ parameters]
  split
  · rfl
  next complete =>
    rw [Bool.not_eq_true', Bool.not_eq_false, ← exactKeys_same _ _ parameters] at complete
    have item := objectItem_same _ _ parameters _ complete
    have config := item "config" (by decide)
    rw [revisionNumber_same _ _ (item "expected_revision" (by decide)), exactKeys_same _ _ config]
    split
    · rfl
    split
    · rfl
    next filled =>
      rw [Bool.not_eq_true', Bool.not_eq_false, ← exactKeys_same _ _ config] at filled
      have field := objectItem_same _ _ config configKeys filled
      rw [isNumber_same _ _ (field "schema_version" (by decide)) 3,
        isNull_same _ _ (field "business" (by decide)), wifiFrom_same _ _ (field "wifi" (by decide)),
        mqttFrom_same _ _ (field "mqtt" (by decide)), frpFrom_same _ _ (field "frp" (by decide))]

theorem parseOtaStart_same (first second : Option CJson) (same : SameItem first second)
    (whole : exactKeys first writeKeys = true) (out : Command) :
    parseOtaStart decoder first out = parseOtaStart decoder second out := by
  have parameters := objectItem_same first second same writeKeys whole "parameters" (by decide)
  unfold parseOtaStart
  dsimp only
  rw [exactKeys_same _ _ parameters]
  split
  · rfl
  next complete =>
    rw [Bool.not_eq_true', Bool.not_eq_false, ← exactKeys_same _ _ parameters] at complete
    have item := objectItem_same _ _ parameters startKeys complete
    have signature := item "signature" (by decide)
    rw [copyId_same _ _ parameters startKeys complete "operation_id" (by decide),
      boundedText_same _ _ _ (item "image_url" (by decide)), stringOf_same _ _ (item "sha256" (by decide)),
      wholeNumber_same 1 4294967295 _ _ (item "image_size_bytes" (by decide)),
      stringOf_same _ _ (item "target" (by decide)), exactKeys_same _ _ signature]
    cases signed : exactKeys (objectItem (objectItem second "parameters") "signature") ["scheme"] with
    | true =>
      rw [← exactKeys_same _ _ signature] at signed
      have scheme := objectItem_same _ _ signature ["scheme"] signed "scheme" (by decide)
      rw [stringOf_same _ _ scheme]
    | false =>
      -- Without its exact key the signature is refused, whatever its scheme reads.
      split
      · rfl
      next operationId _ =>
        trans invalidRequest { out with ota := { out.ota with operationId } }
        · split <;> simp
        · split <;> simp

theorem parseRestart_same (first second : Option CJson) (same : SameItem first second)
    (whole : exactKeys first writeKeys = true) (out : Command) :
    parseRestart first out = parseRestart second out := by
  have parameters := objectItem_same first second same writeKeys whole "parameters" (by decide)
  simp only [parseRestart, exactKeys_same _ _ parameters]

theorem parseWrite_same (first second : Option CJson) (same : SameItem first second)
    (whole : exactKeys first writeKeys = true) (command : CString) (out : Command) :
    parseWrite decoder first command out = parseWrite decoder second command out := by
  have item := objectItem_same first second same writeKeys whole
  unfold parseWrite
  rw [copyId_same _ _ same writeKeys whole "device_id" (by decide),
    copyId_same _ _ same writeKeys whole "target_boot_id" (by decide),
    wholeNumber_same 0 9007199254740991 _ _ (item "expires_at_uptime_ms" (by decide))]
  simp only [parseOtaStart_same decoder first second same whole,
    parseConfigSet_same first second same whole, parseRestart_same first second same whole]

theorem parseOtaResult_same (first second : Option CJson) (same : SameItem first second)
    (whole : exactKeys first queryKeys = true) (out : Command) :
    parseOtaResult first out = parseOtaResult second out := by
  have parameters := objectItem_same first second same queryKeys whole "parameters" (by decide)
  unfold parseOtaResult
  dsimp only
  rw [exactKeys_same _ _ parameters]
  split
  · rfl
  next complete =>
    rw [Bool.not_eq_true', Bool.not_eq_false, ← exactKeys_same _ _ parameters] at complete
    rw [copyId_same _ _ parameters _ complete "operation_id" (by decide)]

def commandKeys (command : CString) : List String :=
  if command.bytes == bytesOf "status" then statusKeys
  else if command.bytes == bytesOf "ota.result" then queryKeys
  else writeKeys

theorem commandKeys_common (command : CString) (key : String) (common : key ∈ statusKeys) :
    key ∈ commandKeys command := by
  unfold commandKeys
  simp only [statusKeys, List.mem_cons, List.not_mem_nil, or_false] at common
  split
  · simpa [statusKeys] using common
  split
  · rcases common with rfl | rfl | rfl <;> decide
  · rcases common with rfl | rfl | rfl <;> decide

theorem parseRoot_same (first second : Option CJson) (same : SameItem first second)
    (command : CString) : parseRoot decoder first command = parseRoot decoder second command := by
  unfold parseRoot
  change (if (!exactKeys first (commandKeys command)) = true then _ else _) =
    if (!exactKeys second (commandKeys command)) = true then _ else _
  rw [← exactKeys_same _ _ same]
  split
  · rfl
  next whole =>
    rw [Bool.not_eq_true', Bool.not_eq_false] at whole
    rw [copyId_same _ _ same _ whole "request_id" (commandKeys_common command _ (by decide))]
    split
    · rfl
    split
    · rfl
    next status =>
      split
      next otaResult =>
        have keys : commandKeys command = queryKeys := by simp [commandKeys, status, otaResult]
        rw [parseOtaResult_same first second same (keys ▸ whole)]
      next other =>
        have keys : commandKeys command = writeKeys := by simp [commandKeys, status, other]
        rw [parseWrite_same decoder first second same (keys ▸ whole)]

theorem ebaseParseCommand_accepted (json : List UInt8)
    (accepted : (ebaseParseCommand decoder json).error = none) :
    ∃ tree finish command, decoder.cjson json = some (tree, finish) ∧
      stringOf (objectItem (some tree) "command") = some command ∧
      exactKeys (some tree) (commandKeys command) = true ∧
      ebaseParseCommand decoder json = parseRoot decoder (some tree) command := by
  unfold ebaseParseCommand at accepted ⊢
  split at accepted
  · cases accepted
  next scanned =>
    rw [if_neg scanned]
    split at accepted
    · cases accepted
    next tree finish read =>
      dsimp only at accepted ⊢
      split at accepted
      · cases accepted
      next command named =>
        split at accepted
        · cases accepted
        next formed =>
          refine ⟨tree, finish, command, read, named, ?_, ?_⟩
          · by_contra other
            have refusal : parseRoot decoder (some tree) command = invalidRequest .zero := by
              exact if_pos (by rwa [Bool.not_eq_true', ← Bool.not_eq_true])
            rw [refusal] at accepted
            cases accepted
          · exact if_neg formed

theorem ebaseParseCommand_same (json other : List UInt8) (tree reordered : CJson) (finish stop : Nat)
    (accepted : (ebaseParseCommand decoder json).error = none)
    (also : (ebaseParseCommand decoder other).error = none)
    (first : decoder.cjson json = some (tree, finish))
    (second : decoder.cjson other = some (reordered, stop)) (same : Reordered tree reordered) :
    ebaseParseCommand decoder json = ebaseParseCommand decoder other := by
  obtain ⟨root, _, command, read, named, whole, parsed⟩ := ebaseParseCommand_accepted decoder json accepted
  obtain ⟨root', _, command', read', named', _, parsed'⟩ := ebaseParseCommand_accepted decoder other also
  obtain ⟨rfl, -⟩ := Prod.mk.inj (Option.some.inj (read.symm.trans first))
  obtain ⟨rfl, -⟩ := Prod.mk.inj (Option.some.inj (read'.symm.trans second))
  have roots : SameItem (some root) (some root') := .present root root' same
  have item := objectItem_same _ _ roots _ whole "command" (commandKeys_common command _ (by decide))
  rw [stringOf_same _ _ item, named'] at named
  obtain rfl := Option.some.inj named
  rw [parsed, parsed', parseRoot_same decoder _ _ roots]

theorem put32_injective (a b : UInt32) (same : put32 a = put32 b) : a = b := by
  have value (x : UInt32) : get32 (put32 x) 0 = x := assemble32 x
  rw [← value a, same, value b]

theorem terminated_injective (a b : CString) (after other : List UInt8)
    (same : a.bytes ++ 0 :: after = b.bytes ++ 0 :: other) : a = b ∧ after = other := by
  have first (c : CString) (rest : List UInt8) :
      (c.bytes ++ 0 :: rest).takeWhile (· != 0) = c.bytes := by
    have plain : ∀ byte ∈ c.bytes, (byte != 0) = true := by
      intro byte member
      have nonzero : byte ≠ 0 := fun zero => c.unbroken (zero ▸ member)
      simpa using nonzero
    rw [List.takeWhile_append_of_pos plain]
    simp
  have texts : a.bytes = b.bytes := by rw [← first a after, same, first b other]
  rw [texts] at same
  exact ⟨CString.ext texts, (List.cons.inj (List.append_cancel_left same)).2⟩

theorem otaFingerprintBytes_whole (ota : OtaRequest) (whole : ota.operationId.bytes.length = 36) :
    otaFingerprintBytes ota = bytesOf "ota.start" ++ (ota.operationId.bytes ++ 0 ::
      (ota.imageUrl.bytes ++ 0 :: (ota.sha256.toList ++ (put32 ota.imageSizeBytes).reverse))) := by
  simp [otaFingerprintBytes, otaOperationIdBytes, whole]

theorem otaFingerprintBytes_injective (first second : OtaRequest)
    (whole : first.operationId.bytes.length = 36) (other : second.operationId.bytes.length = 36)
    (same : otaFingerprintBytes first = otaFingerprintBytes second) : first = second := by
  rw [otaFingerprintBytes_whole first whole, otaFingerprintBytes_whole second other] at same
  obtain ⟨operation, rest⟩ := terminated_injective _ _ _ _ (List.append_cancel_left same)
  obtain ⟨url, fixed⟩ := terminated_injective _ _ _ _ rest
  have lengths : first.sha256.toList.length = second.sha256.toList.length := by simp
  obtain ⟨digest, size⟩ := List.append_inj fixed lengths
  have sizes := put32_injective _ _ (List.reverse_injective size)
  cases first
  cases second
  simp only [OtaRequest.mk.injEq]
  exact ⟨operation, url, Vector.toList_inj.mp digest, sizes⟩

theorem preimage_config (command : Command) (kind : command.kind = .configSet)
    (valid : configValid command.config = true) :
    ∃ encoded, configEncode command.config = some encoded ∧
      preimage command = bytesOf "config.set" ++ encoded := by
  have written : configEncode command.config = some _ := if_pos valid
  exact ⟨_, written, by simp [preimage, kind, configFingerprintBytes, written]⟩

theorem write_kinds (kind : CommandKind) (write : isWrite kind) :
    kind = .configSet ∨ kind = .otaStart ∨ kind = .restart := by
  cases kind <;> simp_all [isWrite]

theorem preimage_ota (command : Command) (kind : command.kind = .otaStart) :
    preimage command = otaFingerprintBytes command.ota := by
  simp [preimage, kind]

theorem preimage_restart (command : Command) (kind : command.kind = .restart) :
    preimage command = bytesOf "restart" := by
  simp [preimage, kind]

theorem preimage_head (command : Command) (write : isWrite command.kind)
    (shaped : Shaped decoder command) :
    (preimage command).head? =
      match command.kind with
      | .configSet => some 0x63
      | .otaStart => some 0x6f
      | _ => some 0x72 := by
  rcases write_kinds command.kind write with kind | kind | kind
  · obtain ⟨encoded, -, bytes⟩ := preimage_config command kind (shaped.config kind)
    rw [bytes, kind]
    rfl
  · rw [preimage_ota command kind, otaFingerprintBytes_whole _ (shaped.operation kind), kind]
    rfl
  · rw [preimage_restart command kind, kind]
    rfl

/-- The pre-images of the three kinds are jointly injective. -/
theorem preimage_content (first second : Command) (write : isWrite first.kind)
    (also : isWrite second.kind) (shaped : Shaped decoder first) (other : Shaped decoder second) :
    preimage first = preimage second ↔ first.content = second.content := by
  have heads := preimage_head decoder first write shaped
  have tails := preimage_head decoder second also other
  constructor
  · intro same
    rw [same, tails] at heads
    rcases write_kinds first.kind write with kind | kind | kind <;>
      rcases write_kinds second.kind also with again | again | again <;>
      simp only [kind, again, Option.some.injEq] at heads
    · obtain ⟨encoded, written, bytes⟩ := preimage_config first kind (shaped.config kind)
      obtain ⟨others, rewritten, more⟩ := preimage_config second again (other.config again)
      rw [bytes, more] at same
      have blobs := List.append_cancel_left same
      have configs := configEncode_injective _ _ _ written (blobs ▸ rewritten)
      simp [Command.content, kind, again, configs]
    · exact absurd heads (by decide)
    · exact absurd heads (by decide)
    · exact absurd heads (by decide)
    · rw [preimage_ota first kind, preimage_ota second again] at same
      have requests := otaFingerprintBytes_injective _ _ (shaped.operation kind) (other.operation again) same
      simp [Command.content, kind, again, requests]
    · exact absurd heads (by decide)
    · exact absurd heads (by decide)
    · exact absurd heads (by decide)
    · simp [Command.content, kind, again]
  · intro same
    rcases write_kinds first.kind write with kind | kind | kind <;>
      rcases write_kinds second.kind also with again | again | again <;>
      simp_all [Command.content, preimage]

theorem otaFingerprint_fits (command : Command) (kind : command.kind = .otaStart)
    (shaped : Shaped decoder command) :
    (preimage command).length ≤ otaFingerprintRoom decoder.otaUrlBytes := by
  have operation := shaped.operation kind
  have url := shaped.url kind
  rw [preimage_ota command kind, otaFingerprintBytes_whole _ operation]
  have prefixed : (bytesOf "ota.start").length = 9 := by decide
  simp only [List.length_append, List.length_cons, List.length_reverse, Vector.length_toList, prefixed,
    operation, otaFingerprintRoom, otaOperationIdBytes]
  simp only [put32, List.length_cons, List.length_nil]
  omega

variable (build : Build)

theorem fingerprinted_preimage (command : Command) (write : isWrite command.kind)
    (shaped : Shaped decoder command) (restart : build.sha256 (bytesOf "restart") = restartFingerprint) :
    fingerprinted build true command =
      some { command.request with fingerprint := build.sha256 (preimage command) } := by
  rcases write_kinds command.kind write with kind | kind | kind
  · obtain ⟨encoded, written, bytes⟩ := preimage_config command kind (shaped.config kind)
    simp [fingerprinted, kind, configFingerprintBytes, written, bytes]
  · simp [fingerprinted, kind, preimage]
  · have given := shaped.restart kind
    simp only [fingerprinted, kind, preimage, restart, ← given]

def SameWrite (first second : Command) : Prop :=
  first.kind = second.kind ∧ first.request.expiresAtMs = second.request.expiresAtMs ∧
    first.content = second.content

instance (first second : Command) : Decidable (SameWrite first second) :=
  inferInstanceAs (Decidable (_ ∧ _ ∧ _))

theorem content_kind (first second : Command) (write : isWrite first.kind) (also : isWrite second.kind)
    (same : first.content = second.content) : first.kind = second.kind := by
  rcases write_kinds first.kind write with kind | kind | kind <;>
    rcases write_kinds second.kind also with again | again | again <;>
    simp_all [Command.content]

theorem ebaseAdmit_conflict (g : Guard) (held r : Request) (slot : Nat) (device boot : CString)
    (now : Nat) (distinct : (g.requests.map Request.requestId).Nodup)
    (here : g.requests[slot]? = some held) (id : r.requestId = held.requestId)
    (differs : held.expiresAtMs ≠ r.expiresAtMs ∨ held.fingerprint ≠ r.fingerprint)
    (device_same : r.deviceId = device) (boot_same : r.bootId = boot)
    (request_uuid : isUuid r.requestId) (device_uuid : isUuid device) (boot_uuid : isUuid boot) :
    ebaseAdmit g r device boot now = (.requestConflict, 0, g) := by
  have found := previousRequest_here g.requests slot held distinct here 0
  rw [Nat.zero_add, ← id] at found
  simp [ebaseAdmit, request_uuid, device_uuid, boot_uuid, device_same, boot_same, found, differs]

theorem handleWrite_conflict (a : LineAnswers) (command : Command) (s : Control) (inv : Ledger none s)
    (slot : Nat) (held request : Request) (here : s.guard.requests[slot]? = some held)
    (id : request.requestId = held.requestId)
    (differs : held.expiresAtMs ≠ request.expiresAtMs ∨ held.fingerprint ≠ request.fingerprint)
    (device : request.deviceId = s.deviceId) (boot : request.bootId = s.bootId) :
    handleWrite build a command request s =
      { s with
        log := s.log ++ sentResult s.deviceId s.bootId s.replyMqtt request.requestId (some .failed)
          (some "request_conflict") none } := by
  obtain ⟨-, -, formed, device_uuid, boot_uuid⟩ := inv.addressed held (List.mem_of_getElem? here)
  have conflict := ebaseAdmit_conflict s.guard held request slot s.deviceId s.bootId a.admitNow
    inv.distinct here id differs device boot (id ▸ formed) device_uuid boot_uuid
  exact handleWrite_refused build a command s request .requestConflict 0 s.guard conflict (by decide)

/-- The answer to a write that carries the request ID of an admitted one. -/
def answerAgain (s : Control) (slot : Nat) (viaMqtt : Bool) (first second : Command) : List Event :=
  if SameWrite first second then
    emission s.deviceId s.bootId second.request.requestId viaMqtt (s.outcomes slot)
  else
    sentResult s.deviceId s.bootId viaMqtt second.request.requestId (some .failed)
      (some "request_conflict") none

/-- Two texts are compared by kind, deadline and content, however they are spelled. -/
theorem conflicts_exact (decoder : DecoderBuild) (build : Build) :
    (∀ text again first second, ebaseParseCommand decoder text = decoded first →
      ebaseParseCommand decoder again = decoded second → isWrite first.kind → isWrite second.kind →
      (preimage first = preimage second ↔ first.content = second.content)) ∧
    (∀ text command, ebaseParseCommand decoder text = decoded command → command.kind = .otaStart →
      (preimage command).length ≤ otaFingerprintRoom decoder.otaUrlBytes) ∧
    ∀ text again first second, ebaseParseCommand decoder text = decoded first →
      ebaseParseCommand decoder again = decoded second → isWrite first.kind → isWrite second.kind →
      build.sha256 (bytesOf "restart") = restartFingerprint →
      (build.sha256 (preimage first) = build.sha256 (preimage second) →
        preimage first = preimage second) →
      ∀ b labels slot viaMqtt held, .accepted slot viaMqtt held ∈ (runBoot build b labels).log →
      fingerprinted build true first = some held →
      second.request.requestId = first.request.requestId →
      let s := runBoot build b labels
      second.request.deviceId = s.deviceId → second.request.bootId = s.bootId →
      s.restarted = false →
      (∀ tree reordered finish stop, decoder.cjson text = some (tree, finish) →
        decoder.cjson again = some (reordered, stop) → Reordered tree reordered →
        SameWrite first second) ∧
      ∀ a repeatMqtt, a.hashed = true →
        (∃ request, fingerprinted build true second = some request ∧
          (ebaseAdmit s.guard request s.deviceId s.bootId a.admitNow).1 =
            if SameWrite first second then .replay else .requestConflict) ∧
        step build (.line repeatMqtt a (ebaseParseCommand decoder again)) s =
          { s with log := s.log ++ answerAgain s slot repeatMqtt first second } := by
  have shaped (text : List UInt8) (command : Command)
      (parsed : ebaseParseCommand decoder text = decoded command) : Shaped decoder command := by
    have shape := ebaseParseCommand_shaped decoder text
    rw [parsed] at shape
    exact shape rfl
  refine ⟨?_, ?_, ?_⟩
  · intro text again first second parsed reparsed write also
    exact preimage_content decoder first second write also (shaped _ _ parsed) (shaped _ _ reparsed)
  · intro text command parsed kind
    exact otaFingerprint_fits decoder command kind (shaped _ _ parsed)
  intro text again first second parsed reparsed write also restart injective b labels slot viaMqtt held
    accepted presented id s device boot awake
  have first_shaped := shaped _ _ parsed
  have second_shaped := shaped _ _ reparsed
  obtain ⟨usb, inv⟩ := ledger_reached build b labels
  obtain ⟨here, -⟩ := inv.accepted slot viaMqtt held accepted
  obtain ⟨-, -, formed, device_uuid, boot_uuid⟩ := inv.addressed held (List.mem_of_getElem? here)
  have presents := fingerprinted_preimage decoder build second also second_shaped restart
  rw [fingerprinted_preimage decoder build first write first_shaped restart] at presented
  obtain rfl := Option.some.inj presented
  refine ⟨?_, ?_⟩
  · intro tree reordered finish stop read reread same
    have one := ebaseParseCommand_same decoder text again tree reordered finish stop
      (by rw [parsed]; rfl) (by rw [reparsed]; rfl) read reread same
    rw [parsed, reparsed] at one
    obtain rfl : first = second := congrArg Parsed.command one
    exact ⟨rfl, rfl, rfl⟩
  intro a repeatMqtt hashed
  set request : Request := { second.request with fingerprint := build.sha256 (preimage second) }
    with request_def
  have line : WriteLine build a (decoded second) request := by
    refine ⟨rfl, also.1, also.2, ?_⟩
    rw [hashed]
    exact presents
  have usb_again : s.withChannel false = s := withChannel_same s false usb
  have reached : Ledger none (s.withChannel repeatMqtt) := inv.unchanged ⟨rfl, rfl, rfl, rfl⟩ rfl
  rw [reparsed, step_line build a _ repeatMqtt s usb awake, handleLine_write build a _ request _ line]
  by_cases same : SameWrite first second
  · have ⟨_, deadline, content⟩ := same
    have bytes := (preimage_content decoder first second write also first_shaped second_shaped).mpr content
    have repeats : Repeats { first.request with fingerprint := build.sha256 (preimage first) } request :=
      ⟨id, deadline.symm, by rw [request_def, bytes]⟩
    refine ⟨⟨request, presents, ?_⟩, ?_⟩
    · rw [if_pos same, ebaseAdmit_repeat _ _ request slot _ _ _ inv.distinct here repeats.id
        repeats.deadline repeats.fingerprint device boot (repeats.id ▸ formed) device_uuid boot_uuid]
    · rw [handleWrite_repeat build a _ _ reached slot _ request here repeats device boot, answerAgain,
        if_pos same, id]
      conv_rhs => rw [← usb_again]
      rfl
  · have differs : first.request.expiresAtMs ≠ second.request.expiresAtMs ∨
        build.sha256 (preimage first) ≠ build.sha256 (preimage second) := by
      by_contra neither
      rw [not_or, not_not, not_not] at neither
      have content := (preimage_content decoder first second write also first_shaped second_shaped).mp
        (injective neither.2)
      exact same ⟨content_kind first second write also content, neither.1, content⟩
    refine ⟨⟨request, presents, ?_⟩, ?_⟩
    · rw [if_neg same, ebaseAdmit_conflict _ _ request slot _ _ _ inv.distinct here id differs device boot
        (id ▸ formed) device_uuid boot_uuid]
    · rw [handleWrite_conflict build a _ _ reached slot _ request here id differs device boot,
        answerAgain, if_neg same]
      conv_rhs => rw [← usb_again]
      rfl

def spelledStart : List UInt8 :=
  bytesOf "\x7b\"protocol_version\":1,\"request_id\":\"1a2b3c4d-0000-4000-8000-0000000000c0\"," ++
    bytesOf "\"command\":\"ota.start\",\"device_id\":\"1a2b3c4d-0000-4000-8000-000000000001\"," ++
    bytesOf "\"target_boot_id\":\"1a2b3c4d-0000-4000-8000-0000000000b0\"," ++
    bytesOf "\"expires_at_uptime_ms\":10000,\"parameters\":\x7b" ++
    bytesOf "\"operation_id\":\"1a2b3c4d-0000-4000-8000-00000000000a\"," ++
    bytesOf "\"image_url\":\"https://host/a.bin\"," ++
    bytesOf "\"sha256\":\"000102030405060708090a0b0c0d0e0f101112131415161718191a1b1c1d1e1f\"," ++
    bytesOf "\"image_size_bytes\":4096,\"target\":\"esp32c3/esp_base\"," ++
    bytesOf "\"signature\":\x7b\"scheme\":\"esp_secure_boot_v2_rsa3072\"\x7d\x7d\x7d"

-- The command first, blanks between the members, and an escape in the URL.
def respelledStart : List UInt8 :=
  bytesOf "\x7b\"command\" : \"ota.start\", \"protocol_version\" : 1, " ++
    bytesOf "\"request_id\" : \"1a2b3c4d-0000-4000-8000-0000000000c0\", " ++
    bytesOf "\"device_id\" : \"1a2b3c4d-0000-4000-8000-000000000001\", " ++
    bytesOf "\"target_boot_id\" : \"1a2b3c4d-0000-4000-8000-0000000000b0\", " ++
    bytesOf "\"expires_at_uptime_ms\" : 10000, \"parameters\" : \x7b" ++
    bytesOf "\"operation_id\" : \"1a2b3c4d-0000-4000-8000-00000000000a\", " ++
    bytesOf "\"image_url\" : \"https:\\/\\/host\\/a.bin\", " ++
    bytesOf "\"sha256\" : \"000102030405060708090a0b0c0d0e0f101112131415161718191a1b1c1d1e1f\", " ++
    bytesOf "\"image_size_bytes\" : 4096, \"target\" : \"esp32c3/esp_base\", " ++
    bytesOf "\"signature\" : \x7b\"scheme\" : \"esp_secure_boot_v2_rsa3072\"\x7d\x7d\x7d"

def textItem (key value : String) : CString × CJson :=
  (.ofBytes (bytesOf key), .string (.ofBytes (bytesOf value)))

def numberItem (key : String) (value : Rat) : CString × CJson :=
  (.ofBytes (bytesOf key), .number (.finite value))

def startParameters : CString × CJson :=
  (.ofBytes (bytesOf "parameters"),
    .object
      [textItem "operation_id" "1a2b3c4d-0000-4000-8000-00000000000a", textItem "image_url" "https://host/a.bin",
        textItem "sha256" "000102030405060708090a0b0c0d0e0f101112131415161718191a1b1c1d1e1f",
        numberItem "image_size_bytes" 4096, textItem "target" "esp32c3/esp_base",
        (.ofBytes (bytesOf "signature"), .object [textItem "scheme" "esp_secure_boot_v2_rsa3072"])])

def startAddress : List (CString × CJson) :=
  [textItem "device_id" "1a2b3c4d-0000-4000-8000-000000000001",
    textItem "target_boot_id" "1a2b3c4d-0000-4000-8000-0000000000b0",
    numberItem "expires_at_uptime_ms" 10000, startParameters]

def spelledTree : CJson :=
  .object
    (numberItem "protocol_version" 1 :: textItem "request_id" "1a2b3c4d-0000-4000-8000-0000000000c0" ::
      textItem "command" "ota.start" :: startAddress)

def respelledTree : CJson :=
  .object
    (textItem "command" "ota.start" :: numberItem "protocol_version" 1 ::
      textItem "request_id" "1a2b3c4d-0000-4000-8000-0000000000c0" :: startAddress)

def respellingDecoder : DecoderBuild :=
  { cjson := fun json =>
      if json = spelledStart then some (spelledTree, spelledStart.length)
      else if json = respelledStart then some (respelledTree, respelledStart.length)
      else none
    otaUrlBytes := 512 }

-- What both texts ask for; the configuration of an update is never looked at.
def startCommand (unread : RemoteConfig) : Command :=
  { kind := .otaStart
    request :=
      { requestId := .ofBytes (bytesOf "1a2b3c4d-0000-4000-8000-0000000000c0")
        deviceId := sampleDevice
        bootId := sampleBootId
        expiresAtMs := 10000
        fingerprint := zeroDigest }
    config := unread
    ota :=
      { operationId := .ofBytes (bytesOf "1a2b3c4d-0000-4000-8000-00000000000a")
        imageUrl := .ofBytes (bytesOf "https://host/a.bin")
        sha256 := Vector.ofFn (fun index => UInt8.ofNat index)
        imageSizeBytes := 4096 }
    operationId := .empty }

def spelledCommand : Command := startCommand (ebaseParseCommand respellingDecoder spelledStart).command.config

def respelledCommand : Command :=
  startCommand (ebaseParseCommand respellingDecoder respelledStart).command.config

def spelledDigest : Digest :=
  #v[0xac, 0xc2, 0x1a, 0x8d, 0xd0, 0xc4, 0x90, 0x87, 0x76, 0x79, 0x77, 0x87, 0x94, 0xcb, 0x4a, 0x6b,
    0x39, 0x5c, 0x94, 0x69, 0x4b, 0x11, 0x29, 0xb0, 0x6c, 0x2b, 0x9a, 0x03, 0x71, 0xb8, 0x5c, 0x4a]

-- SHA-256 on the pre-images of `restart` and of the update above.
def respellingBuild : Build :=
  { eota := unsignedBuild.eota
    sha256 := fun bytes =>
      if bytes = bytesOf "restart" then restartFingerprint
      else if bytes = preimage (startCommand .zero) then spelledDigest
      else zeroDigest }

def spelledRequest : Request := { (startCommand .zero).request with fingerprint := spelledDigest }

def spelledRun : List Label :=
  [.line false (sampleAnswersAt 1000) (ebaseParseCommand respellingDecoder spelledStart)]

theorem decoded_start (parsed : Parsed)
    (read : parsed.error = none ∧ parsed.command.kind = (startCommand .zero).kind ∧
      parsed.command.request = (startCommand .zero).request ∧
      parsed.command.ota = (startCommand .zero).ota ∧
      parsed.command.operationId = (startCommand .zero).operationId) :
    parsed = decoded (startCommand parsed.command.config) := by
  rcases parsed with ⟨error, kind, request, config, ota, operationId⟩
  obtain ⟨rfl, rfl, rfl, rfl, rfl⟩ := read
  rfl

theorem spelledStart_decoded :
    ebaseParseCommand respellingDecoder spelledStart = decoded spelledCommand :=
  decoded_start _ (by decide +kernel)

theorem respelledStart_decoded :
    ebaseParseCommand respellingDecoder respelledStart = decoded respelledCommand :=
  decoded_start _ (by decide +kernel)

theorem startCommand_preimage (unread : RemoteConfig) :
    preimage (startCommand unread) = preimage (startCommand .zero) := rfl

theorem startCommand_request (unread : RemoteConfig) :
    (startCommand unread).request = (startCommand .zero).request := rfl

theorem startCommand_isWrite (unread : RemoteConfig) : isWrite (startCommand unread).kind := ⟨nofun, nofun⟩

theorem startCommand_presents (unread : RemoteConfig) :
    fingerprinted respellingBuild true (startCommand unread) = some spelledRequest := by
  change some { (startCommand .zero).request with
    fingerprint := respellingBuild.sha256 (preimage (startCommand .zero)) } = _
  decide +kernel

theorem startCommand_admitted :
    ebaseAdmit .empty spelledRequest sampleDevice sampleBootId 1000 =
      (.accept, 0, { requests := [spelledRequest], bounded := by decide }) := by
  decide +kernel

theorem startCommand_refused (a : LineAnswers) (unread : RemoteConfig) (slot : Nat) (s : Control) :
    execute respellingBuild a (startCommand unread) slot s =
      saveOutcome slot .failed (some "ota_signing_unavailable") none s := rfl

theorem startCommand_written (s : Control) (guard : s.guard = .empty) (device : s.deviceId = sampleDevice)
    (boot : s.bootId = sampleBootId) (unread : RemoteConfig) :
    handleWrite respellingBuild (sampleAnswersAt 1000) (startCommand unread) spelledRequest s =
      saveOutcome 0 .failed (some "ota_signing_unavailable") none
        (s.accept 0 spelledRequest { requests := [spelledRequest], bounded := by decide }) := by
  have admitted := startCommand_admitted
  rw [← guard, ← device, ← boot] at admitted
  unfold handleWrite
  rw [show ebaseAdmit s.guard spelledRequest s.deviceId s.bootId (sampleAnswersAt 1000).admitNow = _ from admitted]
  exact startCommand_refused _ _ _ _

theorem spelledRun_reached :
    runBoot respellingBuild sampleBoot spelledRun =
      (saveOutcome 0 .failed (some "ota_signing_unavailable") none
        ((sampleBoot.control.withChannel false).accept 0 spelledRequest
          { requests := [spelledRequest], bounded := by decide })).withChannel false := by
  have line : WriteLine respellingBuild (sampleAnswersAt 1000) (decoded spelledCommand) spelledRequest :=
    ⟨rfl, nofun, nofun, startCommand_presents _⟩
  calc runBoot respellingBuild sampleBoot spelledRun
    _ = step respellingBuild (.line false (sampleAnswersAt 1000) (decoded spelledCommand))
          sampleBoot.control := by rw [runBoot, spelledRun, run_cons, run_nil, spelledStart_decoded]
    _ = (handleLine respellingBuild (sampleAnswersAt 1000) (decoded spelledCommand)
          (sampleBoot.control.withChannel false)).withChannel false :=
        step_line respellingBuild _ _ false sampleBoot.control rfl rfl
    _ = (handleWrite respellingBuild (sampleAnswersAt 1000) spelledCommand spelledRequest
          (sampleBoot.control.withChannel false)).withChannel false := by
        rw [handleLine_write respellingBuild _ _ _ _ line]; rfl
    _ = _ := by rw [spelledCommand, startCommand_written _ rfl rfl rfl]

theorem spelledRun_state :
    let s := runBoot respellingBuild sampleBoot spelledRun
    s.guard.requests[0]? = some spelledRequest ∧ (s.outcomes 0).viaMqtt = false ∧ s.restarted = false ∧
      s.deviceId = sampleDevice ∧ s.bootId = sampleBootId := by
  rw [spelledRun_reached, saveOutcome_eq]
  exact ⟨rfl, rfl, rfl, rfl, rfl⟩

theorem conflicts_exact_respelled :
    let s := runBoot respellingBuild sampleBoot spelledRun
    step respellingBuild
        (.line false (sampleAnswersAt 2000) (ebaseParseCommand respellingDecoder respelledStart)) s =
      { s with log := s.log ++ answerAgain s 0 false spelledCommand respelledCommand } := by
  obtain ⟨held, usb, awake, device, boot⟩ := spelledRun_state
  have accepted : .accepted 0 false spelledRequest ∈ (runBoot respellingBuild sampleBoot spelledRun).log :=
    usb ▸ (ledger_reached respellingBuild sampleBoot spelledRun).2.recorded 0 spelledRequest held
  have same : preimage spelledCommand = preimage respelledCommand :=
    (startCommand_preimage _).trans (startCommand_preimage _).symm
  have again : respelledCommand.request = spelledCommand.request :=
    (startCommand_request _).trans (startCommand_request _).symm
  have here : respelledCommand.request = (startCommand .zero).request := startCommand_request _
  exact ((conflicts_exact respellingDecoder respellingBuild).2.2 spelledStart respelledStart
    spelledCommand respelledCommand spelledStart_decoded respelledStart_decoded
    (startCommand_isWrite _) (startCommand_isWrite _) (by decide +kernel) (fun _ => same) sampleBoot spelledRun
    0 false spelledRequest accepted (startCommand_presents _) (by rw [again]) (by rw [here, device]; rfl)
    (by rw [here, boot]; rfl) awake).2 (sampleAnswersAt 2000) false rfl |>.2

end EspBase

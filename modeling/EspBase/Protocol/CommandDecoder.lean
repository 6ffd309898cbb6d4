import EspBase.Protocol.Control
import EspBase.Shared.Bytes
import EspBase.Shared.Double

set_option autoImplicit false

/-!
# Decoding one command line

The bytes are scanned before cJSON sees them. `cjson` stands for
`cJSON_ParseWithLengthOpts`: the tree and where its text ends.
-/

namespace EspBase

open Bytes

def lineLimit : Nat := 9216

inductive CJson where
  | null
  | bool (value : Bool)
  | number (valuedouble : Double)
  | string (valuestring : CString)
  | array (items : List CJson)
  | object (items : List (CString × CJson))

structure DecoderBuild where
  cjson : List UInt8 → Option (CJson × Nat)
  otaUrlBytes : Nat

def wideAllowed (count : Nat) (cp : UInt32) : Bool :=
  !((count == 2 && cp < 0x800) || (count == 3 && cp < 0x10000) || cp > 0x10ffff ||
    (0xd800 ≤ cp && cp ≤ 0xdfff))

-- What follows the character that `c` leads.
def skipWide (c : UInt8) (rest : List UInt8) : Option (List UInt8) :=
  match utf8Lead c with
  | none => none
  | some (bits, count, _) =>
    if rest.length < count then none
    else match utf8Continue bits (rest.take count) with
      | none => none
      | some cp => if wideAllowed count cp then some (rest.drop count) else none

def headIs (accepts : UInt8 → Bool) (bytes : List UInt8) : Bool := (bytes.head?.map accepts).getD false

def skipDigits (c : UInt8) (rest : List UInt8) : Option (List UInt8) :=
  if !isDigit c then none
  else if c == 0x30 && headIs isDigit rest then none
  else
    let after := rest.dropWhile isDigit
    if headIs (fun c => c == 0x2e || c == 0x65 || c == 0x45) after then none else some after

-- What follows the number that `c` starts.
def skipNumber (c : UInt8) (rest : List UInt8) : Option (List UInt8) :=
  if c = 0x2d then
    match rest with
    | [] => none
    | digit :: rest => skipDigits digit rest
  else skipDigits c rest

def scanRound (next : Bool → Nat → Nat → List UInt8 → Bool) (quoted : Bool) (depth members : Nat)
    (c : UInt8) (rest : List UInt8) : Bool :=
  if c = 0 then false
  else if 0x80 ≤ c then
    match skipWide c rest with
    | none => false
    | some rest => quoted && next quoted depth members rest
  else if quoted then
    if c < 0x20 then false
    else if c = 0x22 then next false depth members rest
    else if c = 0x5c then
      match rest with
      | [] => false
      | escape :: rest =>
        if escape == 0x75 && 4 ≤ rest.length && rest.take 4 == [0x30, 0x30, 0x30, 0x30] then false
        else next true depth members rest
    else next true depth members rest
  else if c = 0x3a ∨ c = 0x2c then
    if members + 1 > 128 then false else next false depth (members + 1) rest
  else if c = 0x22 then next true depth members rest
  else if c = 0x7b ∨ c = 0x5b then
    if depth + 1 > 8 then false else next false (depth + 1) members rest
  else if c = 0x7d ∨ c = 0x5d then
    if depth = 0 then false else next false (depth - 1) members rest
  else if c == 0x2d || isDigit c then
    match skipNumber c rest with
    | none => false
    | some rest => next false depth members rest
  else if c == 0x2b || c == 0x2e || (c < 0x20 && c != 0x09 && c != 0x0d && c != 0x0a) then false
  else next false depth members rest

/-- Every round reads at least one byte, so `fuel` is the length. -/
def scanLoop : Nat → Bool → Nat → Nat → List UInt8 → Bool
  | _, quoted, depth, _, [] => !quoted && depth == 0
  | 0, _, _, _, _ :: _ => false
  | fuel + 1, quoted, depth, members, c :: rest => scanRound (scanLoop fuel) quoted depth members c rest

def validBytes (s : List UInt8) : Bool := scanLoop s.length false 0 0 s

def exactKeys (object : Option CJson) (keys : List String) : Bool :=
  match object with
  | some (.object items) =>
    items.length == keys.length &&
      keys.all (fun key => items.countP (fun item => item.1.bytes == bytesOf key) == 1)
  | _ => false

def objectItem (object : Option CJson) (key : String) : Option CJson :=
  match object with
  | some (.object items) => (items.find? (fun item => item.1.bytes == bytesOf key)).map Prod.snd
  | _ => none

def isObject : Option CJson → Bool
  | some (.object _) => true
  | _ => false

def isNull : Option CJson → Bool
  | some .null => true
  | _ => false

def stringOf : Option CJson → Option CString
  | some (.string value) => some value
  | _ => none

def numberOf : Option CJson → Option Double
  | some (.number value) => some value
  | _ => none

def copyId (object : Option CJson) (key : String) : Option CString :=
  match stringOf (objectItem object key) with
  | some value => if value.bytes.length = 36 ∧ isUuid value then some value else none
  | none => none

def commandHexDigit (c : UInt8) : Option UInt8 :=
  if isDigit c then some (c - 0x30)
  else if 0x61 ≤ c ∧ c ≤ 0x66 then some (c - 0x61 + 10)
  else none

def hexPairs : Nat → List UInt8 → List UInt8 × Bool
  | 0, _ => ([], true)
  | count + 1, digits =>
    match commandHexDigit (byteAt digits 0), commandHexDigit (byteAt digits 1) with
    | some hi, some lo =>
      let rest := hexPairs count (digits.drop 2)
      (((hi <<< 4) ||| lo) :: rest.1, rest.2)
    | _, _ => ([], false)

def isNumber (value : Option CJson) (expected : Nat) : Bool :=
  ((numberOf value).map (fun d => d.equals expected)).getD false

def wholeNumber (least most : Nat) (value : Option CJson) : Option Nat :=
  match numberOf value with
  | some d =>
    if !d.isFinite || d.less least || d.exceeds most || !d.isWhole then none else some d.toNat
  | none => none

-- The revision is not asked to be finite; the bound does that.
def revisionNumber (value : Option CJson) : Option Nat :=
  match numberOf value with
  | some d => if d.less 0 || d.exceeds 4294967295 || !d.isWhole then none else some d.toNat
  | none => none

def boundedText (most : Nat) (value : Option CJson) : Option (List UInt8) :=
  match stringOf value with
  | some text => if text.bytes.length > most then none else some text.bytes
  | none => none

def keyBytes (value : Option CJson) : Option (List UInt8) :=
  match stringOf value with
  | some text =>
    if text.bytes.length ≠ 64 then none
    else
      let decoded := hexPairs 32 text.bytes
      if decoded.2 then some decoded.1 else none
  | none => none

def statusKeys : List String := ["protocol_version", "request_id", "command"]

def queryKeys : List String := ["protocol_version", "request_id", "command", "parameters"]

def writeKeys : List String :=
  ["protocol_version", "request_id", "command", "device_id", "target_boot_id", "expires_at_uptime_ms",
    "parameters"]

def startKeys : List String :=
  ["operation_id", "image_url", "sha256", "image_size_bytes", "target", "signature"]

def configKeys : List String := ["schema_version", "wifi", "mqtt", "frp", "business"]

def wifiKeys : List String := ["ssid", "password"]

def mqttKeys : List String :=
  ["hostname", "port", "username", "password", "ca_pem", "management_key_hex"]

def frpKeys : List String :=
  ["server_hostname", "server_port", "token", "ca_pem", "proxy_name", "remote_port", "local_port",
    "management_key_hex"]

def otaSignatureScheme : String := "esp_secure_boot_v2_rsa3072"

def Request.zero : Request :=
  { requestId := .empty, deviceId := .empty, bootId := .empty, expiresAtMs := 0, fingerprint := zeroDigest }

def Command.zero : Command :=
  { kind := .status, request := .zero, config := .zero, ota := .zero, operationId := .empty }

-- `done` with an error clears the configuration, and only that.
def refused (out : Command) (error : String) : Parsed :=
  { error := some error, command := { out with config := .zero } }

def invalidRequest (out : Command) : Parsed := refused out "invalid_request"

def decoded (out : Command) : Parsed := { error := none, command := out }

def wifiFrom (wifi : Option CJson) : Option WifiConfig :=
  if isNull wifi then some .zero
  else if !exactKeys wifi wifiKeys then none
  else do
    let ssid ← boundedText 32 (objectItem wifi "ssid")
    let password ← boundedText 64 (objectItem wifi "password")
    return {
      configured := true
      ssid := padded 33 ssid
      password := padded 65 password }

def mqttFrom (mqtt : Option CJson) : Option MqttConfig :=
  if isNull mqtt then some .zero
  else if !exactKeys mqtt mqttKeys then none
  else do
    let hostname ← boundedText 253 (objectItem mqtt "hostname")
    let port ← wholeNumber 1 65535 (objectItem mqtt "port")
    let username ← boundedText 128 (objectItem mqtt "username")
    let password ← boundedText 256 (objectItem mqtt "password")
    let ca ← boundedText 4096 (objectItem mqtt "ca_pem")
    let key ← keyBytes (objectItem mqtt "management_key_hex")
    return {
      configured := true
      hostname := padded 254 hostname
      port := UInt16.ofNat port
      username := padded 129 username
      password := padded 257 password
      caPem := padded 4097 ca
      managementKey := padded 32 key }

def frpFrom (frp : Option CJson) : Option FrpConfig :=
  if isNull frp then some .zero
  else if !exactKeys frp frpKeys then none
  else do
    let host ← boundedText 253 (objectItem frp "server_hostname")
    let port ← wholeNumber 1 65535 (objectItem frp "server_port")
    let token ← boundedText frpTokenMaxBytes (objectItem frp "token")
    let ca ← boundedText frpCaMaxBytes (objectItem frp "ca_pem")
    let proxy ← boundedText 128 (objectItem frp "proxy_name")
    let remote ← wholeNumber 1 65535 (objectItem frp "remote_port")
    let localPort ← wholeNumber 1 65535 (objectItem frp "local_port")
    let key ← keyBytes (objectItem frp "management_key_hex")
    return {
      configured := true
      serverHostname := padded 254 host
      serverPort := UInt16.ofNat port
      token := padded 257 token
      caPem := padded 2049 ca
      proxyName := padded 129 proxy
      remotePort := UInt16.ofNat remote
      localPort := UInt16.ofNat localPort
      managementKey := padded 32 key }

def parseConfigSet (root : Option CJson) (out : Command) : Parsed :=
  let parameters := objectItem root "parameters"
  if !exactKeys parameters ["expected_revision", "config"] then invalidRequest out
  else match revisionNumber (objectItem parameters "expected_revision") with
    | none => invalidRequest out
    | some revision =>
      let config := objectItem parameters "config"
      if !exactKeys config configKeys then invalidRequest out
      else if !isNumber (objectItem config "schema_version") 3 then invalidRequest out
      else if !isNull (objectItem config "business") then refused out "unsupported_configuration"
      else
        match wifiFrom (objectItem config "wifi"), mqttFrom (objectItem config "mqtt"),
          frpFrom (objectItem config "frp") with
        | some wifi, some mqtt, some frp =>
          let configuration : RemoteConfig := { revision := UInt32.ofNat revision, wifi, mqtt, frp }
          if !configValid configuration then invalidRequest out
          else decoded { out with config := configuration, kind := .configSet }
        | _, _, _ => invalidRequest out

def parseOtaStart (build : DecoderBuild) (root : Option CJson) (out : Command) : Parsed :=
  let parameters := objectItem root "parameters"
  if !exactKeys parameters startKeys then invalidRequest out
  else match copyId parameters "operation_id" with
    | none => invalidRequest out
    | some operationId =>
      let started := { out with ota := { out.ota with operationId } }
      let signature := objectItem parameters "signature"
      match boundedText build.otaUrlBytes (objectItem parameters "image_url"),
        stringOf (objectItem parameters "sha256"),
        wholeNumber 1 4294967295 (objectItem parameters "image_size_bytes"),
        stringOf (objectItem parameters "target"), stringOf (objectItem signature "scheme") with
      | some url, some digest, some size, some target, some scheme =>
        if !(bytesOf "https://").isPrefixOf url || digest.bytes.length != 64 ||
            target.bytes != bytesOf otaTarget || !exactKeys signature ["scheme"] ||
            scheme.bytes != bytesOf otaSignatureScheme
        then invalidRequest started
        else
          let sha256 := hexPairs 32 digest.bytes
          let filled := { started with ota := { started.ota with sha256 := padded 32 sha256.1 } }
          if !sha256.2 then invalidRequest filled
          else decoded
            { filled with
              ota :=
                { filled.ota with
                  imageUrl := CString.ofBytes url
                  imageSizeBytes := UInt32.ofNat size }
              kind := .otaStart }
      | _, _, _, _, _ => invalidRequest started

def restartFingerprint : Digest :=
  #v[0x3a, 0xce, 0x60, 0xb0, 0xa0, 0xc1, 0xb6, 0xc9, 0x34, 0x5e, 0x31, 0x49, 0x41, 0x42, 0x94, 0x7a,
    0xa9, 0x7d, 0x4e, 0xf4, 0x91, 0x2e, 0x89, 0x5d, 0x87, 0x95, 0x66, 0x33, 0x93, 0x81, 0x97, 0x59]

def parseRestart (root : Option CJson) (out : Command) : Parsed :=
  if !exactKeys (objectItem root "parameters") [] then invalidRequest out
  else decoded { out with kind := .restart, request := { out.request with fingerprint := restartFingerprint } }

def parseOtaResult (root : Option CJson) (out : Command) : Parsed :=
  let parameters := objectItem root "parameters"
  if !exactKeys parameters ["operation_id"] then invalidRequest out
  else match copyId parameters "operation_id" with
    | none => invalidRequest out
    | some operationId => decoded { out with operationId, kind := .otaResult }

def parseWrite (build : DecoderBuild) (root : Option CJson) (command : CString) (out : Command) :
    Parsed :=
  match copyId root "device_id" with
  | none => invalidRequest out
  | some deviceId =>
    let addressed := { out with request := { out.request with deviceId } }
    match copyId root "target_boot_id" with
    | none => invalidRequest addressed
    | some bootId =>
      let booted := { addressed with request := { addressed.request with bootId } }
      match wholeNumber 0 9007199254740991 (objectItem root "expires_at_uptime_ms") with
      | none => invalidRequest booted
      | some expiresAtMs =>
        let out := { booted with request := { booted.request with expiresAtMs } }
        if command.bytes = bytesOf "ota.start" then parseOtaStart build root out
        else if command.bytes = bytesOf "config.set" then parseConfigSet root out
        else if command.bytes ≠ bytesOf "restart" then refused out "unsupported_command"
        else parseRestart root out

def parseRoot (build : DecoderBuild) (root : Option CJson) (command : CString) : Parsed :=
  let status := command.bytes == bytesOf "status"
  let otaResult := command.bytes == bytesOf "ota.result"
  if !exactKeys root (if status then statusKeys else if otaResult then queryKeys else writeKeys) then
    invalidRequest .zero
  else match copyId root "request_id" with
    | none => invalidRequest .zero
    | some requestId =>
      let out := { Command.zero with request := { Request.zero with requestId } }
      if status then decoded { out with kind := .status }
      else if otaResult then parseOtaResult root out
      else parseWrite build root command out

def isSpace (c : UInt8) : Bool := c == 0x20 || c == 0x09 || c == 0x0d || c == 0x0a

def ebaseParseCommand (build : DecoderBuild) (json : List UInt8) : Parsed :=
  if json.length = 0 ∨ json.length > lineLimit ∨ !validBytes json then invalidRequest .zero
  else match build.cjson json with
    | none => invalidRequest .zero
    | some (tree, finish) =>
      let root := some tree
      match stringOf (objectItem root "command") with
      | none => invalidRequest .zero
      | some command =>
        if (json.drop finish).dropWhile isSpace ≠ [] ∨ !isObject root ∨
            !isNumber (objectItem root "protocol_version") 1
        then invalidRequest .zero
        else parseRoot build root command

end EspBase

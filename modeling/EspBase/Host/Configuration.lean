import EspBase.Config.Validity
import EspBase.Shared.CodePoints
import Mathlib.Data.List.Infix

set_option autoImplicit false

/-!
# The host's checks on a configuration

The values that `json` reads and writes. An `int` is never a `bool`, as in
`type(value) is int`.
-/

namespace EspBase

open Unicode

structure FloatText where
  negative : Bool
  whole : Nat
  rest : List UInt8
  marked : rest.head? = some 0x2e ∨ rest.head? = some 0x65
  plain : ∀ byte ∈ rest, isDigit byte ∨ byte ∈ bytesOf ".e+-"

inductive Json where
  | null
  | bool (value : Bool)
  | int (value : Int)
  | float (value : FloatText)
  | str (value : Text)
  | list (items : List Json)
  | dict (entries : List (Text × Json))

abbrev Entries := List (Text × Json)

def sameKeys (entries : Entries) (names : List Text) : Bool :=
  entries.all (fun entry => names.contains entry.1) &&
    names.all (fun name => entries.any (fun entry => entry.1 == name))

def fieldsOf (names : List String) : Json → Option Entries
  | .dict entries => if sameKeys entries (names.map text) then some entries else none
  | _ => none

def field (entries : Entries) (name : String) : Json := (entries.lookup (text name)).getD .null

def require (condition : Bool) (message : String) : Except String Unit :=
  if condition then .ok () else .error message

def ssidText : Json → Bool
  | .str ssid =>
    match encode ssid with
    | none => false
    | some bytes =>
      1 ≤ bytes.length && bytes.length ≤ 32 && !ssid.any (fun c => c.val < 32 || c.val == 127)
  | _ => false

def hexPoint (c : Point) : Bool :=
  (0x30 ≤ c.val && c.val ≤ 0x39) || (0x61 ≤ c.val && c.val ≤ 0x66)

def upperHexPoint (c : Point) : Bool := 0x41 ≤ c.val && c.val ≤ 0x46

def printable (c : Point) : Bool := 32 ≤ c.val && c.val ≤ 126

def wifiPasswordText : Json → Bool
  | .str password =>
    (8 ≤ password.length && password.length ≤ 63 && password.all printable) ||
      (password.length == 64 && password.all (fun c => hexPoint c || upperHexPoint c))
  | _ => false

def alnumPoint (c : Point) : Bool :=
  (0x61 ≤ c.val && c.val ≤ 0x7a) || (0x41 ≤ c.val && c.val ≤ 0x5a) ||
    (0x30 ≤ c.val && c.val ≤ 0x39)

def labelText (label : Text) : Bool :=
  1 ≤ label.length && label.length ≤ 63 && (label.head?.map alnumPoint).getD false &&
    (label.getLast?.map alnumPoint).getD false &&
    label.all (fun c => alnumPoint c || c.val == 0x2d)

def hostnameText : Json → Bool
  | .str host =>
    1 ≤ host.length && host.length ≤ 253 && isAscii host && (host.splitOn 0x2e).all labelText
  | _ => false

def portNumber : Json → Bool
  | .int port => 1 ≤ port && port ≤ 65535
  | _ => false

def credentialText (limit : Nat) : Json → Bool
  | .str value =>
    match encode value with
    | none => false
    | some bytes =>
      1 ≤ bytes.length && bytes.length ≤ limit &&
        !value.any (fun c => c.val < 32 || (127 ≤ c.val && c.val ≤ 159) ||
          (0xfdd0 ≤ c.val && c.val ≤ 0xfdef) || 0xfffe ≤ c.val &&& 0xffff)
  | _ => false

def certificateText (limit : Nat) : Json → Bool
  | .str ca =>
    1 ≤ ca.length && ca.length ≤ limit &&
      ca.all (fun c => c.val == 9 || c.val == 13 || c.val == 10 || printable c) &&
      decide (text "-----BEGIN CERTIFICATE-----" <:+: ca) &&
      decide (text "-----END CERTIFICATE-----" <:+: ca)
  | _ => false

def keyText : Json → Bool
  | .str key => key.length == 64 && key.all hexPoint && key.any (fun c => c.val != 0x30)
  | _ => false

def tokenText : Json → Bool
  | .str token =>
    1 ≤ token.length && token.length ≤ 256 && token.all (fun c => 32 < c.val && c.val < 127)
  | _ => false

def proxyText : Json → Bool
  | .str proxy =>
    1 ≤ proxy.length && proxy.length ≤ 128 &&
      !proxy.any (fun c => c.val ≤ 32 || 127 ≤ c.val || c.val == 0x2f || c.val == 0x5c ||
        c.val == 0x2a || c.val == 0x40)
  | _ => false

def wifiNames : List String := ["ssid", "password"]

def mqttNames : List String :=
  ["hostname", "port", "username", "password", "ca_pem", "management_key_hex"]

def frpNames : List String :=
  ["server_hostname", "server_port", "token", "ca_pem", "proxy_name", "remote_port", "local_port",
    "management_key_hex"]

def configNames : List String := ["schema_version", "wifi", "mqtt", "frp", "business"]

def validateWifi : Json → Except String Unit
  | .null => .ok ()
  | network =>
    match fieldsOf wifiNames network with
    | none => .error "Wi-Fi 配置字段无效"
    | some fields => do
      require (ssidText (field fields "ssid")) "SSID 长度或字符无效"
      require (wifiPasswordText (field fields "password")) "Wi-Fi 密码格式无效"

def validateMqtt : Json → Except String Unit
  | .null => .ok ()
  | mqtt =>
    match fieldsOf mqttNames mqtt with
    | none => .error "MQTT 配置字段无效"
    | some fields => do
      require (hostnameText (field fields "hostname")) "MQTT 主机无效"
      require (portNumber (field fields "port")) "MQTT 端口无效"
      require (credentialText 128 (field fields "username")) "MQTT 设备凭据无效"
      require (credentialText 256 (field fields "password")) "MQTT 设备凭据无效"
      require (certificateText 4096 (field fields "ca_pem")) "MQTT CA PEM 无效"
      require (keyText (field fields "management_key_hex")) "MQTT 管理密钥无效"

def validateFrp : Json → Except String Unit
  | .null => .ok ()
  | frp =>
    match fieldsOf frpNames frp with
    | none => .error "FRP 配置字段无效"
    | some fields => do
      require (hostnameText (field fields "server_hostname")) "FRP 主机无效"
      require (portNumber (field fields "server_port")) "FRP 端口无效"
      require (portNumber (field fields "remote_port")) "FRP 端口无效"
      require (portNumber (field fields "local_port")) "FRP 端口无效"
      require (tokenText (field fields "token")) "FRP Token 无效"
      require (certificateText 2048 (field fields "ca_pem")) "FRP CA PEM 无效"
      require (proxyText (field fields "proxy_name")) "FRP 代理名无效"
      require (keyText (field fields "management_key_hex")) "FRP 管理密钥无效"

def supported (fields : Entries) : Bool :=
  match field fields "schema_version", field fields "business" with
  | .int version, .null => version == 3
  | _, _ => false

def validateConfiguration (config : Json) : Except String Unit :=
  match fieldsOf configNames config with
  | none => .error "配置字段不完整"
  | some fields => do
    require (supported fields) "配置版本或能力尚未支持"
    validateWifi (field fields "wifi")
    validateMqtt (field fields "mqtt")
    validateFrp (field fields "frp")

theorem require_ok (condition : Bool) (message : String) (value : Unit) :
    require condition message = .ok value ↔ condition = true := by
  cases condition <;> simp [require]

theorem bind_ok {α β : Type} (x : Except String α) (next : α → Except String β) (result : β) :
    (x >>= next) = .ok result ↔ ∃ value, x = .ok value ∧ next value = .ok result := by
  cases x <;> simp [bind, Except.bind]

theorem then_ok (first next : Except String Unit) :
    (first >>= fun _ => next) = .ok () ↔ first = .ok () ∧ next = .ok () := by
  cases first <;> simp [bind, Except.bind]

theorem sameKeys_dict (names : List String) (entries : Entries)
    (same : entries.map Prod.fst = names.map text) :
    sameKeys entries (names.map text) = true := by
  rw [← same]
  simp only [sameKeys, Bool.and_eq_true, List.all_eq_true, List.contains_iff_mem, List.any_eq_true,
    List.mem_map, beq_iff_eq]
  constructor
  · intro entry member
    exact ⟨entry, member, rfl⟩
  · intro name member
    exact member

theorem validateWifi_ok (entries : Entries) :
    validateWifi (.dict entries) = .ok () ↔ sameKeys entries (wifiNames.map text) = true ∧
      (ssidText (field entries "ssid") && wifiPasswordText (field entries "password")) = true := by
  by_cases keys : sameKeys entries (wifiNames.map text) = true
  · simp [validateWifi, fieldsOf, keys, then_ok, require_ok]
  · simp [validateWifi, fieldsOf, keys]

theorem validateMqtt_ok (entries : Entries) :
    validateMqtt (.dict entries) = .ok () ↔ sameKeys entries (mqttNames.map text) = true ∧
      (hostnameText (field entries "hostname") && portNumber (field entries "port") &&
        credentialText 128 (field entries "username") &&
        credentialText 256 (field entries "password") &&
        certificateText 4096 (field entries "ca_pem") &&
        keyText (field entries "management_key_hex")) = true := by
  by_cases keys : sameKeys entries (mqttNames.map text) = true
  · simp [validateMqtt, fieldsOf, keys, then_ok, require_ok, and_assoc]
  · simp [validateMqtt, fieldsOf, keys]

theorem validateFrp_ok (entries : Entries) :
    validateFrp (.dict entries) = .ok () ↔ sameKeys entries (frpNames.map text) = true ∧
      (hostnameText (field entries "server_hostname") && portNumber (field entries "server_port") &&
        portNumber (field entries "remote_port") && portNumber (field entries "local_port") &&
        tokenText (field entries "token") && certificateText 2048 (field entries "ca_pem") &&
        proxyText (field entries "proxy_name") &&
        keyText (field entries "management_key_hex")) = true := by
  by_cases keys : sameKeys entries (frpNames.map text) = true
  · simp [validateFrp, fieldsOf, keys, then_ok, require_ok, and_assoc]
  · simp [validateFrp, fieldsOf, keys]

theorem validateConfiguration_ok (entries : Entries) :
    validateConfiguration (.dict entries) = .ok () ↔ sameKeys entries (configNames.map text) = true ∧
      supported entries = true ∧ validateWifi (field entries "wifi") = .ok () ∧
      validateMqtt (field entries "mqtt") = .ok () ∧ validateFrp (field entries "frp") = .ok () := by
  by_cases keys : sameKeys entries (configNames.map text) = true
  · simp [validateConfiguration, fieldsOf, keys, then_ok, require_ok]
  · simp [validateConfiguration, fieldsOf, keys]

end EspBase

import EspBase.Config.Data

set_option autoImplicit false

namespace EspBase

def zeros (bytes : List UInt8) : Bool := bytes.all (· == 0)

def textOf (text : List UInt8) : List UInt8 := text.takeWhile (· != 0)

def textLength (text : List UInt8) : Option Nat :=
  let length := (textOf text).length
  if length < text.length ∧ zeros (text.drop length) then some length else none

def utf8Lead (c : UInt8) : Option (UInt32 × Nat × UInt32) :=
  if 0xc2 ≤ c ∧ c ≤ 0xdf then some (c.toUInt32 &&& 31, 1, 0x80)
  else if 0xe0 ≤ c ∧ c ≤ 0xef then some (c.toUInt32 &&& 15, 2, 0x800)
  else if 0xf0 ≤ c ∧ c ≤ 0xf4 then some (c.toUInt32 &&& 7, 3, 0x10000)
  else if 0x80 ≤ c then none
  else some (c.toUInt32, 0, 0)

def utf8Continue : UInt32 → List UInt8 → Option UInt32
  | cp, [] => some cp
  | cp, c :: rest =>
    if c &&& 0xc0 ≠ 0x80 then none
    else utf8Continue ((cp <<< 6) ||| (c.toUInt32 &&& 63)) rest

def utf8Allowed (cp minimum : UInt32) (ssid : Bool) : Bool :=
  !(cp < minimum || cp > 0x10ffff || (0xd800 ≤ cp && cp ≤ 0xdfff) ||
    cp < 0x20 || (0x7f ≤ cp && cp ≤ (if ssid then 0x7f else 0x9f)) ||
    (!ssid && ((0xfdd0 ≤ cp && cp ≤ 0xfdef) || 0xfffe ≤ cp &&& 0xffff)))

/-- The loop of `utf8`; every round reads at least one byte, so `fuel` is the length. -/
def utf8Loop (ssid : Bool) : Nat → List UInt8 → Bool
  | _, [] => true
  | 0, _ :: _ => false
  | fuel + 1, c :: rest =>
    match utf8Lead c with
    | none => false
    | some (bits, more, minimum) =>
      if rest.length < more then false
      else match utf8Continue bits (rest.take more) with
        | none => false
        | some cp => utf8Allowed cp minimum ssid && utf8Loop ssid fuel (rest.drop more)

def utf8 (s : List UInt8) (ssid : Bool) : Bool := utf8Loop ssid s.length s

def isDigit (c : UInt8) : Bool := 0x30 ≤ c && c ≤ 0x39
def isLower (c : UInt8) : Bool := 0x61 ≤ c && c ≤ 0x7a
def isUpper (c : UInt8) : Bool := 0x41 ≤ c && c ≤ 0x5a

def wifiPasswordByte (length : Nat) (c : UInt8) : Bool :=
  if length = 64 then isDigit c || (0x61 ≤ c && c ≤ 0x66) || (0x41 ≤ c && c ≤ 0x46)
  else 0x20 ≤ c && c ≤ 0x7e

def wifiValuesValid (configured : Bool) (ssid password : List UInt8) : Bool :=
  if !configured then ssid.length == 0 && password.length == 0
  else ssid.length != 0 && ssid.length ≤ 32 && utf8 ssid true &&
    8 ≤ password.length && password.length ≤ 64 &&
    password.all (wifiPasswordByte password.length)

def wifiConfigValid (wifi : WifiConfig) : Bool :=
  (textLength wifi.ssid.toList).isSome && (textLength wifi.password.toList).isSome &&
    wifiValuesValid wifi.configured (textOf wifi.ssid.toList) (textOf wifi.password.toList)

/-- The loop of `hostname_valid`: `label` bytes of the current label, the previous byte, the rest. -/
def hostnameLoop : Nat → UInt8 → List UInt8 → Bool
  | _, _, [] => true
  | label, previous, c :: rest =>
    if c = 0x2e then
      if label = 0 ∨ previous = 0x2d ∨ rest.isEmpty then false
      else hostnameLoop 0 c rest
    else
      if !(isLower c || isUpper c || isDigit c || (c == 0x2d && label != 0)) then false
      else if label + 1 > 63 ∨ (rest.isEmpty ∧ c = 0x2d) then false
      else hostnameLoop (label + 1) c rest

def hostnameValid (host : List UInt8) : Bool :=
  if host.length = 0 ∨ host.length > 253 then false else hostnameLoop 0 0 host

def contains (haystack needle : List UInt8) : Bool :=
  (List.range (haystack.length + 1 - needle.length)).any
    (fun i => (haystack.drop i).take needle.length == needle)

def beginCertificate : List UInt8 := bytesOf "-----BEGIN CERTIFICATE-----"
def endCertificate : List UInt8 := bytesOf "-----END CERTIFICATE-----"

def pemByte (c : UInt8) : Bool :=
  c == 0x0a || c == 0x0d || c == 0x09 || (0x20 ≤ c && c ≤ 0x7e)

def mqttValuesValid (configured : Bool) (host : List UInt8) (port : UInt16)
    (user password ca key : List UInt8) : Bool :=
  if !configured then
    host.length == 0 && port == 0 && user.length == 0 && password.length == 0 &&
      ca.length == 0 && zeros key
  else
    hostnameValid host && port != 0 && user.length != 0 && user.length ≤ 128 &&
      password.length != 0 && password.length ≤ 256 && ca.length != 0 && ca.length ≤ 4096 &&
      utf8 user false && utf8 password false && !zeros key &&
      contains ca beginCertificate && contains ca endCertificate && ca.all pemByte

def pemValid (ca : List UInt8) : Bool :=
  ca.length != 0 && contains ca beginCertificate && contains ca endCertificate && ca.all pemByte

def tokenByte (c : UInt8) : Bool := !(c ≤ 0x20 || 0x7f ≤ c)

def proxyByte (c : UInt8) : Bool :=
  !(c ≤ 0x20 || 0x7f ≤ c || c == 0x2f || c == 0x5c || c == 0x2a || c == 0x40)

def frpValuesValid (configured : Bool) (host : List UInt8) (serverPort : UInt16)
    (token ca proxy : List UInt8) (remotePort localPort : UInt16) (key : List UInt8) : Bool :=
  if !configured then
    host.length == 0 && serverPort == 0 && token.length == 0 && ca.length == 0 &&
      proxy.length == 0 && remotePort == 0 && localPort == 0 && zeros key
  else
    hostnameValid host && serverPort != 0 && token.length != 0 &&
      token.length ≤ frpTokenMaxBytes && ca.length != 0 && ca.length ≤ frpCaMaxBytes &&
      pemValid ca && proxy.length != 0 && proxy.length ≤ 128 &&
      remotePort != 0 && localPort != 0 && !zeros key &&
      token.all tokenByte && proxy.all proxyByte

def MqttConfig.valuesValid (m : MqttConfig) : Bool :=
  mqttValuesValid m.configured (textOf m.hostname.toList) m.port (textOf m.username.toList)
    (textOf m.password.toList) (textOf m.caPem.toList) m.managementKey.toList

def FrpConfig.valuesValid (f : FrpConfig) : Bool :=
  frpValuesValid f.configured (textOf f.serverHostname.toList) f.serverPort
    (textOf f.token.toList) (textOf f.caPem.toList) (textOf f.proxyName.toList)
    f.remotePort f.localPort f.managementKey.toList

def configValid (c : RemoteConfig) : Bool :=
  wifiConfigValid c.wifi &&
    (textLength c.mqtt.hostname.toList).isSome && (textLength c.mqtt.username.toList).isSome &&
    (textLength c.mqtt.password.toList).isSome && (textLength c.mqtt.caPem.toList).isSome &&
    c.mqtt.valuesValid &&
    (textLength c.frp.serverHostname.toList).isSome && (textLength c.frp.token.toList).isSome &&
    (textLength c.frp.caPem.toList).isSome && (textLength c.frp.proxyName.toList).isSome &&
    c.frp.valuesValid

end EspBase

import EspBase.Ota.ReceiptStore
import EspBase.Wifi.Runtime

set_option autoImplicit false

namespace EspBase

inductive ResultState where
  | running
  | succeeded
  | failed
  | expired
  | unknown
deriving DecidableEq, Repr

def ResultState.text : ResultState → String
  | .running => "running"
  | .succeeded => "succeeded"
  | .failed => "failed"
  | .expired => "expired"
  | .unknown => "unknown"

inductive MqttState where
  | failed
  | unconfigured
  | ready
  | disconnected
  | connecting
deriving DecidableEq, Repr

def MqttState.text : MqttState → String
  | .failed => "failed"
  | .unconfigured => "unconfigured"
  | .ready => "ready"
  | .disconnected => "disconnected"
  | .connecting => "connecting"

inductive FrpState where
  | unconfigured
  | endpointUnavailable
  | networkUnavailable
  | stopping
  | ready
  | backoff
  | failed
  | connecting
  | unknown
deriving DecidableEq, Repr

def FrpState.text : FrpState → String
  | .unconfigured => "unconfigured"
  | .endpointUnavailable => "endpoint_unavailable"
  | .networkUnavailable => "network_unavailable"
  | .stopping => "stopping"
  | .ready => "ready"
  | .backoff => "backoff"
  | .failed => "failed"
  | .connecting => "connecting"
  | .unknown => "unknown"

inductive Capability where
  | ready
  | running
  | failed
  | unsupported
deriving DecidableEq, Repr

def Capability.text : Capability → String
  | .ready => "ready"
  | .running => "running"
  | .failed => "failed"
  | .unsupported => "unsupported"

structure StatusSnapshot where
  uptime : Nat
  revision : UInt32
  freeHeap : Nat
  minimumFreeHeap : Nat
  otaReceived : Nat
  otaTotal : Nat
  wifi : WifiState
  mqtt : MqttState
  frp : FrpState
  config : Capability
  ota : Capability
deriving DecidableEq

def decimal (n : Nat) : List UInt8 := bytesOf (toString n)

def quotedOrNull : Option (List UInt8) → List UInt8
  | none => bytesOf "null"
  | some text => bytesOf "\"" ++ text ++ bytesOf "\""

-- Everything before `"result":`; the state of a slot never saved is a null pointer.
def resultHead (deviceId bootId : CString) (requestId : Option CString) (state : Option ResultState)
    (error : Option String) : List UInt8 :=
  bytesOf "\x7b\"protocol_version\":1,\"device_id\":\"" ++ deviceId.bytes ++
    bytesOf "\",\"boot_id\":\"" ++ bootId.bytes ++ bytesOf "\",\"request_id\":" ++
    quotedOrNull (requestId.map CString.bytes) ++ bytesOf ",\"state\":\"" ++
    bytesOf (match state with | some state => state.text | none => "(null)") ++
    bytesOf "\",\"error_code\":" ++ quotedOrNull (error.map bytesOf) ++ bytesOf ",\"result\":"

def statusJson (s : StatusSnapshot) : List UInt8 :=
  bytesOf "\x7b\"uptime_ms\":" ++ decimal s.uptime ++ bytesOf ",\"revision\":" ++
    decimal s.revision.toNat ++ bytesOf ",\"free_heap\":" ++ decimal s.freeHeap ++
    bytesOf ",\"min_free_heap\":" ++ decimal s.minimumFreeHeap ++
    bytesOf ",\"ota_received_bytes\":" ++ decimal s.otaReceived ++
    bytesOf ",\"ota_total_bytes\":" ++ decimal s.otaTotal ++
    bytesOf ",\"capabilities\":\x7b\"wifi\":\"" ++ bytesOf s.wifi.text ++
    bytesOf "\",\"mqtt\":\"" ++ bytesOf s.mqtt.text ++ bytesOf "\",\"frp\":\"" ++
    bytesOf s.frp.text ++ bytesOf "\",\"config\":\"" ++ bytesOf s.config.text ++
    bytesOf "\",\"ota\":\"" ++ bytesOf s.ota.text ++ bytesOf "\"\x7d\x7d"

def resultJsonBytes : Nat := 1024

@[irreducible] def formatResultJson (capacity : Nat) (deviceId bootId : CString) (requestId : Option CString)
    (state : Option ResultState) (error : Option String) (status : Option StatusSnapshot) :
    Option (List UInt8) :=
  let result := match status with
    | some status => statusJson status
    | none => bytesOf "null"
  let response := resultHead deviceId bootId requestId state error ++ result ++ bytesOf "\x7d"
  if response.length < capacity then some response else none

def hexDigit (n : UInt8) : UInt8 := if n < 10 then 0x30 + n else 0x57 + n

def hexText (bytes : List UInt8) : List UInt8 :=
  bytes.flatMap (fun b : UInt8 => [hexDigit (b >>> 4), hexDigit (b &&& 15)])

def OtaOperationState.result : OtaOperationState → ResultState
  | .running => .running
  | .succeeded => .succeeded
  | .failed => .failed
  | .unknown => .unknown

def otaTarget : String := "esp32c3/esp_base"

def otaResultJson (deviceId bootId requestId : CString) (view : OtaReceiptView) : List UInt8 :=
  resultHead deviceId bootId (some requestId) (some view.state.result) view.errorCode ++
    bytesOf "\x7b\"operation_id\":\"" ++ view.operationId.bytes ++ bytesOf "\",\"sha256\":\"" ++
    hexText view.sha256.toList ++ bytesOf "\",\"image_size_bytes\":" ++
    decimal view.imageSizeBytes.toNat ++ bytesOf ",\"target\":\"" ++ bytesOf otaTarget ++
    bytesOf "\",\"target_slot\":\"" ++
    bytesOf (if view.targetSubtype = appOta0 then "ota_0" else "ota_1") ++ bytesOf "\"\x7d\x7d"

end EspBase

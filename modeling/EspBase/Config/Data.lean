import EspBase.Platform

set_option autoImplicit false

/-!
# The remote configuration record

`char` arrays keep their full capacity: what follows the first NUL is part of the value.
-/

namespace EspBase

def configHeaderBytes : Nat := 40
def configMaxBytes : Nat := 7618
def mqttKeyBytes : Nat := 32
def frpKeyBytes : Nat := 32
def frpCaMaxBytes : Nat := 2048
def frpTokenMaxBytes : Nat := 256

structure WifiConfig where
  configured : Bool
  ssid : Vector UInt8 33
  password : Vector UInt8 65
deriving DecidableEq

structure MqttConfig where
  configured : Bool
  hostname : Vector UInt8 254
  port : UInt16
  username : Vector UInt8 129
  password : Vector UInt8 257
  caPem : Vector UInt8 4097
  managementKey : Vector UInt8 32
deriving DecidableEq

structure FrpConfig where
  configured : Bool
  serverHostname : Vector UInt8 254
  serverPort : UInt16
  token : Vector UInt8 257
  caPem : Vector UInt8 2049
  proxyName : Vector UInt8 129
  remotePort : UInt16
  localPort : UInt16
  managementKey : Vector UInt8 32
deriving DecidableEq

structure RemoteConfig where
  revision : UInt32
  wifi : WifiConfig
  mqtt : MqttConfig
  frp : FrpConfig
deriving DecidableEq

def WifiConfig.zero : WifiConfig :=
  { configured := false
    ssid := Vector.replicate 33 0
    password := Vector.replicate 65 0 }

def MqttConfig.zero : MqttConfig :=
  { configured := false
    hostname := Vector.replicate 254 0
    port := 0
    username := Vector.replicate 129 0
    password := Vector.replicate 257 0
    caPem := Vector.replicate 4097 0
    managementKey := Vector.replicate 32 0 }

def FrpConfig.zero : FrpConfig :=
  { configured := false
    serverHostname := Vector.replicate 254 0
    serverPort := 0
    token := Vector.replicate 257 0
    caPem := Vector.replicate 2049 0
    proxyName := Vector.replicate 129 0
    remotePort := 0
    localPort := 0
    managementKey := Vector.replicate 32 0 }

def RemoteConfig.zero : RemoteConfig :=
  { revision := 0, wifi := .zero, mqtt := .zero, frp := .zero }

end EspBase

import EspBase.Config.Validity
import EspBase.Shared.Bytes

set_option autoImplicit false

namespace EspBase

open Bytes

def configMagic : List UInt8 := [0x45, 0x42, 0x43, 0x46]

def RemoteConfig.flags (c : RemoteConfig) : UInt8 :=
  (if c.wifi.configured then 1 else 0) ||| (if c.mqtt.configured then 2 else 0) |||
    (if c.frp.configured then 4 else 0)

def lengthByte (text : List UInt8) : UInt8 := text.length.toUInt8
def lengthWord (text : List UInt8) : UInt16 := text.length.toUInt16

def configHeader (c : RemoteConfig) : List UInt8 :=
  configMagic ++
    [3, c.flags, lengthByte (textOf c.wifi.ssid.toList), lengthByte (textOf c.wifi.password.toList)] ++
    put32 c.revision ++
    [lengthByte (textOf c.mqtt.hostname.toList), lengthByte (textOf c.mqtt.username.toList)] ++
    put16 (lengthWord (textOf c.mqtt.password.toList)) ++
    put16 (lengthWord (textOf c.mqtt.caPem.toList)) ++ put16 c.mqtt.port ++
    [lengthByte (textOf c.frp.serverHostname.toList), lengthByte (textOf c.frp.proxyName.toList)] ++
    put16 (lengthWord (textOf c.frp.token.toList)) ++
    put16 (lengthWord (textOf c.frp.caPem.toList)) ++ put16 c.frp.serverPort ++
    put16 c.frp.remotePort ++ put16 c.frp.localPort ++ List.replicate 8 0

def configFields (c : RemoteConfig) : List (List UInt8) :=
  [textOf c.wifi.ssid.toList, textOf c.wifi.password.toList,
    textOf c.mqtt.hostname.toList, textOf c.mqtt.username.toList,
    textOf c.mqtt.password.toList, textOf c.mqtt.caPem.toList,
    if c.mqtt.configured then c.mqtt.managementKey.toList else [],
    textOf c.frp.serverHostname.toList, textOf c.frp.token.toList,
    textOf c.frp.caPem.toList, textOf c.frp.proxyName.toList,
    if c.frp.configured then c.frp.managementKey.toList else []]

def configEncode (c : RemoteConfig) : Option (List UInt8) :=
  if configValid c then some (configHeader c ++ (configFields c).flatten) else none

def configHeaderValid (b : List UInt8) : Bool :=
  !(b.length < configHeaderBytes || b.length > configMaxBytes ||
    b.take 4 != configMagic || byteAt b 4 != 3 || byteAt b 5 &&& ~~~7 != 0 ||
    byteAt b 6 > 32 || byteAt b 7 > 64 || byteAt b 12 > 253 || byteAt b 13 > 128 ||
    get16 b 14 > 256 || get16 b 16 > 4096 ||
    byteAt b 20 > 253 || byteAt b 21 > 128 || (get16 b 22).toNat > frpTokenMaxBytes ||
    (get16 b 24).toNat > frpCaMaxBytes || !zeros (slice b 32 8))

def configLengths (b : List UInt8) : List Nat :=
  [(byteAt b 6).toNat, (byteAt b 7).toNat, (byteAt b 12).toNat, (byteAt b 13).toNat,
    (get16 b 14).toNat, (get16 b 16).toNat, if byteAt b 5 &&& 2 != 0 then mqttKeyBytes else 0,
    (byteAt b 20).toNat, (get16 b 22).toNat, (get16 b 24).toNat, (byteAt b 21).toNat,
    if byteAt b 5 &&& 4 != 0 then frpKeyBytes else 0]

def configField (b : List UInt8) (index : Nat) : List UInt8 :=
  slice b (configHeaderBytes + ((configLengths b).take index).sum) ((configLengths b).getD index 0)

def zeroKey : List UInt8 := List.replicate mqttKeyBytes 0

def configDecode (b : List UInt8) : Option RemoteConfig :=
  if !configHeaderValid b then none
  else if b.length ≠ configHeaderBytes + (configLengths b).sum then none
  else
    let wifi := byteAt b 5 &&& 1 != 0
    let mqtt := byteAt b 5 &&& 2 != 0
    let frp := byteAt b 5 &&& 4 != 0
    let ssid := configField b 0
    let wifiPassword := configField b 1
    let host := configField b 2
    let user := configField b 3
    let mqttPassword := configField b 4
    let ca := configField b 5
    let key := if mqtt then configField b 6 else zeroKey
    let frpHost := configField b 7
    let token := configField b 8
    let frpCa := configField b 9
    let proxy := configField b 10
    let frpKey := if frp then configField b 11 else zeroKey
    if !wifiValuesValid wifi ssid wifiPassword ||
        !mqttValuesValid mqtt host (get16 b 18) user mqttPassword ca key ||
        !frpValuesValid frp frpHost (get16 b 26) token frpCa proxy (get16 b 28) (get16 b 30) frpKey
    then none
    else some
      { revision := get32 b 8
        wifi :=
          { configured := wifi
            ssid := padded 33 ssid
            password := padded 65 wifiPassword }
        mqtt :=
          { configured := mqtt
            hostname := padded 254 host
            port := get16 b 18
            username := padded 129 user
            password := padded 257 mqttPassword
            caPem := padded 4097 ca
            managementKey := padded 32 key }
        frp :=
          { configured := frp
            serverHostname := padded 254 frpHost
            serverPort := get16 b 26
            token := padded 257 token
            caPem := padded 2049 frpCa
            proxyName := padded 129 proxy
            remotePort := get16 b 28
            localPort := get16 b 30
            managementKey := padded 32 frpKey } }

def configDecodeInto (b : List UInt8) (out : RemoteConfig) : Bool × RemoteConfig :=
  if !configHeaderValid b then (false, out)
  else if b.length ≠ configHeaderBytes + (configLengths b).sum then (false, out)
  else if !wifiValuesValid (byteAt b 5 &&& 1 != 0) (configField b 0) (configField b 1) ||
      !mqttValuesValid (byteAt b 5 &&& 2 != 0) (configField b 2) (get16 b 18) (configField b 3)
        (configField b 4) (configField b 5)
        (if byteAt b 5 &&& 2 != 0 then configField b 6 else zeroKey) ||
      !frpValuesValid (byteAt b 5 &&& 4 != 0) (configField b 7) (get16 b 26) (configField b 8)
        (configField b 9) (configField b 10) (get16 b 28) (get16 b 30)
        (if byteAt b 5 &&& 4 != 0 then configField b 11 else zeroKey)
  then (false, out)
  else
    let cleared := RemoteConfig.zero
    let mqtt := byteAt b 5 &&& 2 != 0
    let frp := byteAt b 5 &&& 4 != 0
    (true,
      { revision := cleared.revision ||| get32 b 8
        wifi :=
          { configured := byteAt b 5 &&& 1 != 0
            ssid := copied cleared.wifi.ssid (configField b 0)
            password := copied cleared.wifi.password (configField b 1) }
        mqtt :=
          { configured := mqtt
            hostname := copied cleared.mqtt.hostname (configField b 2)
            port := get16 b 18
            username := copied cleared.mqtt.username (configField b 3)
            password := copied cleared.mqtt.password (configField b 4)
            caPem := copied cleared.mqtt.caPem (configField b 5)
            managementKey :=
              if mqtt then copied cleared.mqtt.managementKey (configField b 6)
              else cleared.mqtt.managementKey }
        frp :=
          { configured := frp
            serverHostname := copied cleared.frp.serverHostname (configField b 7)
            serverPort := get16 b 26
            token := copied cleared.frp.token (configField b 8)
            caPem := copied cleared.frp.caPem (configField b 9)
            proxyName := copied cleared.frp.proxyName (configField b 10)
            remotePort := get16 b 28
            localPort := get16 b 30
            managementKey :=
              if frp then copied cleared.frp.managementKey (configField b 11)
              else cleared.frp.managementKey } })

end EspBase

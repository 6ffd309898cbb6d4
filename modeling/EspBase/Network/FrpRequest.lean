import EspBase.Config.Validity
import EspBase.Network.Authentication

set_option autoImplicit false

namespace EspBase

def frpHttpBodyBytes : Nat := 384

def crlf : List UInt8 := [0x0d, 0x0a]

def headerLength : List UInt8 → Option Nat
  | [] => none
  | c :: rest =>
    if (c :: rest).take 4 = crlf ++ crlf then some 4 else (headerLength rest).map (· + 1)

def lineEnd : List UInt8 → Option Nat
  | [] => none
  | c :: rest => if (c :: rest).take 2 = crlf then some 0 else (lineEnd rest).map (· + 1)

def requestLine : List UInt8 := bytesOf "POST /api/v1/commands/status HTTP/1.1\r\n"

structure RequestFields where
  host : Bool := false
  type : Bool := false
  bodyLength : Option Nat := none
  tag : Option (List UInt8) := none
deriving DecidableEq

def decimalValue (digits : List UInt8) : Nat :=
  digits.foldl (fun parsed digit => parsed * 10 + (digit.toNat - 0x30)) 0

def decimalLength (value : List UInt8) : Option Nat :=
  if value.length = 0 ∨ value.length > 3 ∨ !value.all isDigit then none
  else if decimalValue value = 0 ∨ decimalValue value > frpHttpBodyBytes then none
  else some (decimalValue value)

def lowered (c : UInt8) : UInt8 := if isUpper c then c + 0x20 else c

def equalHeader (name : List UInt8) (expected : String) : Bool :=
  name.map lowered == (bytesOf expected).map lowered

def headerNameByte (c : UInt8) : Bool := isUpper c || isLower c || isDigit c || c == 0x2d

def headerLine (line : List UInt8) (fields : RequestFields) : Option RequestFields :=
  let name := line.takeWhile (· != 0x3a)
  if name.length = 0 ∨ name.length + 1 ≥ line.length ∨ line.getD (name.length + 1) 0 ≠ 0x20 then none
  else if !name.all headerNameByte || !line.all (fun c => 0x20 ≤ c && c ≤ 0x7e) then none
  else
    let value := line.drop (name.length + 2)
    if equalHeader name "Host" then
      if fields.host || value.length == 0 then none else some { fields with host := true }
    else if equalHeader name "Content-Type" then
      if fields.type || value != bytesOf "application/json" then none
      else some { fields with type := true }
    else if equalHeader name "Content-Length" then
      if fields.bodyLength.isSome then none
      else (decimalLength value).map (fun length => { fields with bodyLength := some length })
    else if equalHeader name "X-ESP-Management-Tag" then
      if fields.tag.isSome || value.length != 64 then none
      else (hexTag managementTagBytes value).map (fun tag => { fields with tag := some tag })
    else if equalHeader name "Transfer-Encoding" || equalHeader name "Expect" then none
    else some fields

/-- The loop of `parse_headers`; every round takes at least a line end, so `fuel` is the length. -/
def headerLines : Nat → List UInt8 → RequestFields → Option RequestFields
  | fuel, block, fields =>
    if block.length ≤ 2 then if block.length = 2 then some fields else none
    else
      match fuel, lineEnd block with
      | fuel + 1, some (last + 1) =>
        match headerLine (block.take (last + 1)) fields with
        | some fields => headerLines fuel (block.drop (last + 3)) fields
        | none => none
      | _, _ => none

def parseHeaders (input : List UInt8) (headerLength : Nat) : Option (Nat × List UInt8) :=
  if input.take requestLine.length ≠ requestLine then none
  else
    let block := (input.take headerLength).drop requestLine.length
    match headerLines block.length block {} with
    | some { host := true, type := true, bodyLength := some length, tag := some tag } =>
      some (length, tag)
    | _ => none

end EspBase

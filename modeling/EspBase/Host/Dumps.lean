import EspBase.Host.Answers
import EspBase.Host.Configuration

set_option autoImplicit false

/-!
# `json.dumps` and `send`

Compact separators and ASCII only, as `send` asks for.
-/

namespace EspBase

open Unicode

def nibbleByte (nibble : Nat) : UInt8 := UInt8.ofNat (if nibble < 10 then 0x30 + nibble else 0x57 + nibble)

def unitEscape (unit : Nat) : List UInt8 :=
  [0x5c, 0x75, nibbleByte (unit / 4096 % 16), nibbleByte (unit / 256 % 16), nibbleByte (unit / 16 % 16),
    nibbleByte (unit % 16)]

-- A character beyond the first plane is written as its two surrogates.
def escapePoint (c : Point) : List UInt8 :=
  if c.val = 0x22 then [0x5c, 0x22]
  else if c.val = 0x5c then [0x5c, 0x5c]
  else if c.val = 0x0a then [0x5c, 0x6e]
  else if c.val = 0x0d then [0x5c, 0x72]
  else if c.val = 0x09 then [0x5c, 0x74]
  else if c.val = 0x0c then [0x5c, 0x66]
  else if c.val = 0x08 then [0x5c, 0x62]
  else if 0x20 ≤ c.val ∧ c.val ≤ 0x7e then [c.byte]
  else if c.val < 0x10000 then unitEscape c.val
  else
    unitEscape (0xd800 + (c.val - 0x10000) / 0x400) ++ unitEscape (0xdc00 + (c.val - 0x10000) % 0x400)

def dumpText (s : Text) : List UInt8 := 0x22 :: (s.flatMap escapePoint ++ [0x22])

def signText (negative : Bool) : List UInt8 := if negative then [0x2d] else []

def dumpInt (n : Int) : List UInt8 := signText (n < 0) ++ decimal n.natAbs

def FloatText.dumps (x : FloatText) : List UInt8 := signText x.negative ++ decimal x.whole ++ x.rest

mutual
def Json.dumps : Json → List UInt8
  | .null => bytesOf "null"
  | .bool value => if value then bytesOf "true" else bytesOf "false"
  | .int value => dumpInt value
  | .float value => value.dumps
  | .str value => dumpText value
  | .list [] => bytesOf "[]"
  | .list (item :: rest) => 0x5b :: (item.dumps ++ dumpItems rest ++ [0x5d])
  | .dict [] => bytesOf "\x7b\x7d"
  | .dict ((name, value) :: rest) => 0x7b :: (dumpText name ++ 0x3a :: value.dumps ++ dumpEntries rest ++ [0x7d])
-- The items after the first, each with the comma before it.
def dumpItems : List Json → List UInt8
  | [] => []
  | item :: rest => 0x2c :: (item.dumps ++ dumpItems rest)
def dumpEntries : Entries → List UInt8
  | [] => []
  | (name, value) :: rest => 0x2c :: (dumpText name ++ 0x3a :: value.dumps ++ dumpEntries rest)
end

-- Whether the text of every integer is within the limit of `str`.
mutual
def Json.written : Json → Bool
  | .int value => (decimal value.natAbs).length ≤ intMaxStrDigits
  | .list items => itemsWritten items
  | .dict entries => entriesWritten entries
  | _ => true
def itemsWritten : List Json → Bool
  | [] => true
  | item :: rest => item.written && itemsWritten rest
def entriesWritten : Entries → Bool
  | [] => true
  | (_, value) :: rest => value.written && entriesWritten rest
end

def jsonDumps (value : Json) : Except String (List UInt8) :=
  if value.written then .ok value.dumps
  else .error "Exceeds the limit (4300 digits) for integer string conversion"

def sendLine (request : Json) : Except String (List UInt8) :=
  match jsonDumps request with
  | .error error => .error error
  | .ok line => if line.length > 9216 then .error "USB 请求超过 9216 字节，未发送" else .ok line

-- What it hands to the port.
def sendPayload (line : List UInt8) : List UInt8 := 0x0a :: (line ++ [0x0a])

theorem sendLine_ok (request : Json) (line : List UInt8) (sent : sendLine request = .ok line) :
    line = request.dumps ∧ line.length ≤ lineLimit := by
  unfold sendLine jsonDumps at sent
  by_cases written : request.written = true
  · rw [if_pos written] at sent
    by_cases long : request.dumps.length > 9216
    · simp [long] at sent
    · simp only [long, if_false, Except.ok.injEq] at sent
      subst sent
      exact ⟨rfl, by simpa [lineLimit] using long⟩
  · simp [written] at sent

-- A pair of surrogates never stands in a loaded text, nor one name twice in a loaded dict.
mutual
def Json.Regular : Json → Prop
  | .str value => joinSurrogates value = value
  | .list items => ItemsRegular items
  | .dict entries => (entries.map Prod.fst).Nodup ∧ EntriesRegular entries
  | _ => True
def ItemsRegular : List Json → Prop
  | [] => True
  | item :: rest => item.Regular ∧ ItemsRegular rest
def EntriesRegular : Entries → Prop
  | [] => True
  | (name, value) :: rest => joinSurrogates name = name ∧ value.Regular ∧ EntriesRegular rest
end

def setParameters (revision : Int) (config : Json) : Json :=
  .dict [(text "expected_revision", .int revision), (text "config", config)]

def setRequest (requestId deviceId bootId : Text) (expires revision : Int) (config : Json) : Json :=
  .dict [(text "protocol_version", .int 1), (text "request_id", .str requestId),
    (text "command", .str (text "config.set")), (text "device_id", .str deviceId),
    (text "target_boot_id", .str bootId), (text "expires_at_uptime_ms", .int expires),
    (text "parameters", setParameters revision config)]

end EspBase

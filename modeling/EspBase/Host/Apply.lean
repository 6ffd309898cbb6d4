import EspBase.Host.Dumps

set_option autoImplicit false

namespace EspBase

open Transition Unicode

inductive HostError where
  | valueError (message : Text)
  | keyError (key : Text)
  | typeError
  | osError (message : Text)
  | timeoutError (message : Text)
  | recursionError

def ResultReader.ended (heard : ResultReader) : HostError :=
  if heard.raised then .recursionError
  else .timeoutError (text "没有收到设备最终结果；状态为 unknown，不自动重发写命令")

-- `port.write` returns how much it has written, or raises.
def send (write : List UInt8 → Except HostError Nat) (request : Json) : Except HostError Unit :=
  match sendLine request with
  | .error message => .error (.valueError (text message))
  | .ok line =>
    match write (sendPayload line) with
    | .error error => .error error
    | .ok written =>
      if written ≠ (sendPayload line).length then .error (.osError (text "串口写入不完整；状态为 unknown"))
      else .ok ()

def stateOf (receipt : List (Text × Loaded)) : Text :=
  match item receipt "state" with
  | some (.str state) => state
  | _ => []

-- `read_result` yields the identities as texts.
def textField (entries : List (Text × Loaded)) (key : String) : Except HostError Text :=
  match item entries key with
  | some (.str value) => .ok value
  | some _ => .error .typeError
  | none => .error (.keyError (text key))

def resultField (current : List (Text × Loaded)) (key : String) : Except HostError Loaded :=
  match item current "result" with
  | some (.dict result) =>
    match item result key with
    | some value => .ok value
    | none => .error (.keyError (text key))
  | some _ => .error .typeError
  | none => .error (.keyError (text "result"))

def statusRequest (requestId : Text) : Json :=
  .dict [(text "protocol_version", .int 1), (text "request_id", .str requestId),
    (text "command", .str (text "status"))]

def checkStatus (value : List (Text × Loaded)) : Except HostError (List (Text × Loaded)) :=
  match item value "result" with
  | some (.dict result) =>
    if stateOf value != text "succeeded" then .error (.valueError (text "设备拒绝状态请求"))
    else
      match item result "uptime_ms" with
      | some (.int uptime) =>
        if 0 ≤ uptime ∧ uptime ≤ 9007199254740991 then .ok value
        else .error (.valueError (text "设备 uptime 无效"))
      | _ => .error (.valueError (text "设备 uptime 无效"))
  | _ => .error (.valueError (text "设备拒绝状态请求"))

def status (write : List UInt8 → Except HostError Nat) (requestId : Text) (heard : ResultReader) :
    Except HostError (List (Text × Loaded)) :=
  match send write (statusRequest requestId) with
  | .error error => .error error
  | .ok () =>
    match heard.yielded with
    | [] => .error heard.ended
    | .dict value :: _ => checkStatus value
    -- Nothing but objects is yielded.
    | _ :: _ => .error .typeError

def currentRevision (current : List (Text × Loaded)) : Except HostError Nat :=
  match resultField current "revision" with
  | .error error => .error error
  | .ok (.int revision) =>
    if 0 ≤ revision ∧ revision < 4294967295 then .ok revision.toNat
    else .error (.valueError (text "配置 revision 无效或已耗尽"))
  | .ok _ => .error (.valueError (text "配置 revision 无效或已耗尽"))

-- `status` has checked that it is an `int`.
def currentUptime (current : List (Text × Loaded)) : Except HostError Int :=
  match resultField current "uptime_ms" with
  | .error error => .error error
  | .ok (.int uptime) => .ok uptime
  | .ok _ => .error .typeError

def configRequest (current : List (Text × Loaded)) (requestId : Text) (revision : Nat) (config : Json) :
    Except HostError Json :=
  match textField current "device_id" with
  | .error error => .error error
  | .ok deviceId =>
    match textField current "boot_id" with
    | .error error => .error error
    | .ok bootId =>
      match currentUptime current with
      | .error error => .error error
      | .ok uptime => .ok (setRequest requestId deviceId bootId (uptime + 10000) revision config)

section Receipts

-- Whether a `float` with this literal equals an `int`.
variable (floatIs : Text → Int → Bool)

def equalsInt (expected : Int) : Loaded → Bool
  | .int n => n == expected
  | .bool b => (if b then 1 else 0) == expected
  | .float literal => floatIs literal expected
  | _ => false

def sameText : Option Loaded → Option Loaded → Bool
  | some (.str first), some (.str second) => first == second
  | _, _ => false

def reportsRevision (expected : Int) (receipt : List (Text × Loaded)) : Bool :=
  match item receipt "result" with
  | some (.dict result) => (item result "revision").any (equalsInt floatIs expected)
  | _ => false

def errorCode (receipt : List (Text × Loaded)) : Text :=
  match item receipt "error_code" with
  | some (.str error) => error
  | _ => text "None"

def applyReceipts (current : List (Text × Loaded)) (revision : Nat) (ended : HostError) :
    List Loaded → Except HostError (List (Text × Loaded))
  | [] => .error ended
  | .dict receipt :: rest =>
    if !sameText (item receipt "device_id") (item current "device_id") ||
        !sameText (item receipt "boot_id") (item current "boot_id") then applyReceipts current revision ended rest
    else if failedStates.contains (stateOf receipt) then
      .error (.valueError (text "配置未确认提交：" ++ errorCode receipt))
    else if stateOf receipt == text "succeeded" then
      if reportsRevision floatIs (revision + 1) receipt then .ok receipt
      else .error (.valueError (text "配置提交缺少 revision 证据；状态为 unknown"))
    else applyReceipts current revision ended rest
  -- Nothing but objects is yielded.
  | _ :: rest => applyReceipts current revision ended rest

def applyConfiguration (write : List UInt8 → Except HostError Nat) (current : List (Text × Loaded)) (config : Json)
    (requestId : Text) (heard : ResultReader) : Except HostError (List (Text × Loaded)) :=
  match validateConfiguration config with
  | .error message => .error (.valueError (text message))
  | .ok () =>
    match currentRevision current with
    | .error error => .error error
    | .ok revision =>
      match configRequest current requestId revision config with
      | .error error => .error error
      | .ok request =>
        match send write request with
        | .error error => .error error
        | .ok () => applyReceipts floatIs current revision heard.ended heard.yielded

theorem send_ok (write : List UInt8 → Except HostError Nat) (request : Json) (done : send write request = .ok ()) :
    sendLine request = .ok request.dumps ∧
      write (sendPayload request.dumps) = .ok (sendPayload request.dumps).length := by
  unfold send at done
  split at done
  · cases done
  next line sent =>
    obtain ⟨rfl, -⟩ := sendLine_ok request line sent
    refine ⟨sent, ?_⟩
    split at done
    · cases done
    next written answered =>
      split at done
      · cases done
      next whole => rw [answered, not_not.mp whole]

structure Evidence (current : List (Text × Loaded)) (revision : Nat) (yielded : List Loaded)
    (receipt : List (Text × Loaded)) : Prop where
  yielded : .dict receipt ∈ yielded
  device : sameText (item receipt "device_id") (item current "device_id") = true
  boot : sameText (item receipt "boot_id") (item current "boot_id") = true
  state : stateOf receipt = text "succeeded"
  revision : reportsRevision floatIs (revision + 1) receipt = true

theorem Evidence.later {current : List (Text × Loaded)} {revision : Nat} {rest : List Loaded}
    {receipt : List (Text × Loaded)} (evidence : Evidence floatIs current revision rest receipt) (first : Loaded) :
    Evidence floatIs current revision (first :: rest) receipt :=
  { evidence with yielded := List.mem_cons_of_mem first evidence.yielded }

theorem applyReceipts_ok (current : List (Text × Loaded)) (revision : Nat) (ended : HostError)
    (yielded : List Loaded) (receipt : List (Text × Loaded))
    (returned : applyReceipts floatIs current revision ended yielded = .ok receipt) :
    Evidence floatIs current revision yielded receipt := by
  induction yielded with
  | nil => cases returned
  | cons first rest ih =>
    cases first with
    | dict entries =>
      unfold applyReceipts at returned
      split at returned
      · exact (ih returned).later floatIs _
      next same =>
        simp only [Bool.or_eq_true, Bool.not_eq_true', not_or, Bool.not_eq_false] at same
        split at returned
        · cases returned
        split at returned
        next succeeded =>
          split at returned
          next reports =>
            cases returned
            exact ⟨List.mem_cons_self, same.1, same.2, by simpa using succeeded, reports⟩
          · cases returned
        · exact (ih returned).later floatIs _
    | _ =>
      unfold applyReceipts at returned
      exact (ih returned).later floatIs _

theorem applyConfiguration_ok (write : List UInt8 → Except HostError Nat) (current : List (Text × Loaded))
    (config : Json) (requestId : Text) (heard : ResultReader) (receipt : List (Text × Loaded))
    (returned : applyConfiguration floatIs write current config requestId heard = .ok receipt) :
    validateConfiguration config = .ok () ∧ ∃ revision request, currentRevision current = .ok revision ∧
      configRequest current requestId revision config = .ok request ∧ send write request = .ok () ∧
      Evidence floatIs current revision heard.yielded receipt := by
  unfold applyConfiguration at returned
  split at returned
  · cases returned
  next valid =>
    split at returned
    · cases returned
    next revision known =>
      split at returned
      · cases returned
      next request asked =>
        split at returned
        · cases returned
        next sent =>
          exact ⟨valid, revision, request, known, asked, sent,
            applyReceipts_ok floatIs current revision _ _ receipt returned⟩

end Receipts

theorem currentRevision_ok (current : List (Text × Loaded)) (revision : Nat)
    (known : currentRevision current = .ok revision) : revision < 4294967295 := by
  unfold currentRevision at known
  split at known
  · cases known
  next n read =>
    split at known
    next inside =>
      cases known
      omega
    · cases known
  · cases known

theorem readResult_answered (room : Nat) (requestId : Text) (bytes : List UInt8) :
    ∀ value ∈ (readResult room requestId bytes).yielded, answers requestId value = true := by
  have line (line : List UInt8) (value : Loaded) (yielded : loadLine room requestId line = .yielded value) :
      answers requestId value = true := by
    unfold loadLine at yielded
    split at yielded
    · cases yielded
    split at yielded
    · cases yielded
    · cases yielded
    · split at yielded
      next checked =>
        cases yielded
        exact checked
      · cases yielded
  refine @run_invariant _ _ (readByte room requestId)
    (fun r => ∀ value ∈ r.yielded, answers requestId value = true) ?_ bytes .zero (by simp [ResultReader.zero])
  intro byte r inv
  unfold readByte
  split
  · exact inv
  split
  · split
    · exact inv
    split
    · exact inv
    · exact inv
  dsimp only
  split
  · exact inv
  split
  · exact inv
  cases result : loadLine room requestId r.buffer with
  | skipped => exact inv
  | raised => exact inv
  | yielded value =>
    intro other member
    rcases List.mem_append.mp member with before | here
    · exact inv other before
    · obtain rfl := List.mem_singleton.mp here
      exact line r.buffer other result

theorem hexPoint_byte (c : Point) (hex : lowerHexPoint c = true) :
    lowerHex c.byte = true ∧ c.byte.toNat = c.val ∧ c.val ≠ 0 := by
  have bounds : (0x30 ≤ c.val ∧ c.val ≤ 0x39) ∨ (0x61 ≤ c.val ∧ c.val ≤ 0x66) := by
    simpa [lowerHexPoint, Fin.le_def] using hex
  have small : c.byte.toNat = c.val := by
    simp only [Point.byte, UInt8.toNat_ofNat']
    omega
  refine ⟨?_, small, by omega⟩
  simpa [lowerHex, UInt8.le_iff_toNat_le, small] using bounds

theorem canonicalId_points (value : Text) (canonical : canonicalId value = true) :
    ∃ id : CString, isUuid id = true ∧ value = pointsOf id.bytes := by
  simp only [canonicalId, Bool.and_eq_true, beq_iff_eq, List.all_eq_true, List.mem_range] at canonical
  obtain ⟨⟨⟨length, places⟩, version⟩, variant⟩ := canonical
  have place (i : Nat) (inside : i < 36) : ∃ c, value[i]? = some c ∧
      (if hyphenAt i then c = 0x2d else lowerHexPoint c = true) := by
    have here := places i inside
    unfold uuidPoint at here
    cases found : value[i]? with
    | none => simp [found] at here
    | some c =>
      rw [found, Option.any_some] at here
      refine ⟨c, rfl, ?_⟩
      unfold hyphenAt
      split_ifs at here ⊢ with hyphen
      · simpa using here
      · exact here
  have narrow (c : Point) (member : c ∈ value) : c.byte.toNat = c.val ∧ c.val ≠ 0 := by
    obtain ⟨i, inside, rfl⟩ := List.mem_iff_getElem.mp member
    obtain ⟨c, found, tested⟩ := place i (by omega)
    obtain rfl : value[i] = c := by simpa [inside] using found
    split at tested
    · rw [tested]
      decide
    · exact (hexPoint_byte _ tested).2
  have unbroken : 0 ∉ value.map Point.byte := by
    intro member
    obtain ⟨c, inside, zero⟩ := List.mem_map.mp member
    obtain ⟨same, nonzero⟩ := narrow c inside
    rw [zero] at same
    exact nonzero same.symm
  refine ⟨⟨value.map Point.byte, unbroken⟩, (isUuid_canonical _).mpr ?_, ?_⟩
  · have held (i : Nat) (c : Point) (found : value[i]? = some c) :
        CString.at ⟨value.map Point.byte, unbroken⟩ i = c.byte := by
      simp [CString.at, found]
    constructor
    case length => simpa using length
    case bytes =>
      intro i inside
      obtain ⟨c, found, tested⟩ := place i inside
      unfold uuidByte
      rw [held i c found]
      split at tested
      next hyphen =>
        rw [if_pos hyphen, tested]
        decide
      next plain =>
        rw [if_neg plain]
        exact (hexPoint_byte c tested).1
    case version =>
      rw [held 14 0x34 version]
      decide
    case variant =>
      cases found : value[19]? with
      | none => simp [found] at variant
      | some c =>
        rw [held 19 c found]
        simp only [found, Option.any_some, Bool.or_eq_true, beq_iff_eq] at variant
        rcases variant with ((rfl | rfl) | rfl) | rfl <;> decide
  · rw [pointsOf, List.map_map]
    conv_lhs => rw [← List.map_id value]
    refine List.map_congr_left (fun c member => ?_)
    exact Fin.ext (narrow c member).1.symm

theorem status_ok (write : List UInt8 → Except HostError Nat) (requestId : Text) (room : Nat) (bytes : List UInt8)
    (current : List (Text × Loaded))
    (returned : status write requestId (readResult room requestId bytes) = .ok current) :
    ∃ deviceId bootId : CString, ∃ uptime : Nat, isUuid deviceId = true ∧ isUuid bootId = true ∧
      item current "device_id" = some (.str (pointsOf deviceId.bytes)) ∧
      item current "boot_id" = some (.str (pointsOf bootId.bytes)) ∧
      resultField current "uptime_ms" = .ok (.int uptime) ∧ uptime ≤ 9007199254740991 := by
  have answered := readResult_answered room requestId bytes
  unfold status at returned
  split at returned
  · cases returned
  split at returned
  · cases returned
  next value rest yielded =>
    have checked := answered (.dict value) (by rw [yielded]; exact List.mem_cons_self)
    unfold checkStatus at returned
    split at returned
    next result held =>
      split at returned
      · cases returned
      split at returned
      next uptime counted =>
        split at returned
        next inside =>
          cases returned
          have canonical (entry : Option Loaded) (here : isCanonical entry = true) :
              ∃ id : CString, isUuid id = true ∧ entry = some (.str (pointsOf id.bytes)) := by
            unfold isCanonical at here
            split at here
            next text =>
              obtain ⟨id, uuid, rfl⟩ := canonicalId_points text here
              exact ⟨id, uuid, rfl⟩
            · cases here
          simp only [answers, Bool.and_eq_true] at checked
          obtain ⟨⟨⟨⟨-, device⟩, boot⟩, -⟩, -⟩ := checked
          obtain ⟨deviceId, deviceUuid, deviceText⟩ := canonical _ device
          obtain ⟨bootId, bootUuid, bootText⟩ := canonical _ boot
          refine ⟨deviceId, bootId, uptime.toNat, deviceUuid, bootUuid, deviceText, bootText, ?_, by omega⟩
          rw [resultField, held]
          dsimp only
          rw [counted, Int.toNat_of_nonneg inside.1]
        · cases returned
      · cases returned
    · cases returned
  · cases returned

theorem configRequest_ok (current : List (Text × Loaded)) (requestId : Text) (revision : Nat) (config request : Json)
    (deviceId bootId : Text) (uptime : Int) (device : item current "device_id" = some (.str deviceId))
    (boot : item current "boot_id" = some (.str bootId)) (counted : resultField current "uptime_ms" = .ok (.int uptime))
    (asked : configRequest current requestId revision config = .ok request) :
    request = setRequest requestId deviceId bootId (uptime + 10000) revision config := by
  simp only [configRequest, textField, currentUptime, device, boot, counted, Except.ok.injEq] at asked
  exact asked.symm

end EspBase

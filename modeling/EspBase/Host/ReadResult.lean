import EspBase.Host.Loads
import EspBase.Shared.Run

set_option autoImplicit false

/-!
# `read_result` of `device-control.py`

The bytes that `port.read` returns before the deadline; an empty read changes
nothing. `room` is what the interpreter leaves to `json.loads`.
-/

namespace EspBase

open Transition Unicode

def lowerHexPoint (c : Point) : Bool := (0x30 ≤ c && c ≤ 0x39) || (0x61 ≤ c && c ≤ 0x66)

def uuidPoint (value : Text) (index : Nat) : Bool :=
  (value[index]?).any (fun c =>
    if index == 8 || index == 13 || index == 18 || index == 23 then c == 0x2d else lowerHexPoint c)

def canonicalId (value : Text) : Bool :=
  value.length == 36 && (List.range 36).all (uuidPoint value) && value[14]? == some 0x34 &&
    (value[19]?).any (fun c => c == 0x38 || c == 0x39 || c == 0x61 || c == 0x62)

def resultKeys : List Text :=
  [text "protocol_version", text "device_id", text "boot_id", text "request_id", text "state",
    text "error_code", text "result"]

def item (entries : List (Text × Loaded)) (key : String) : Option Loaded :=
  (entries.find? (fun entry => entry.1 == text key)).map Prod.snd

def isCanonical : Option Loaded → Bool
  | some (.str value) => canonicalId value
  | _ => false

def failedStates : List Text := [text "failed", text "expired", text "unknown"]

def knownStates : List Text := [text "accepted", text "running", text "succeeded"] ++ failedStates

-- `error_code` for the state: a text that is not empty, or null.
def errorFits (failed : Bool) : Option Loaded → Bool
  | some (.str value) => failed && value != []
  | some .null => !failed
  | _ => false

def resultFits : Option Loaded → Bool
  | some .null | some (.dict _) => true
  | _ => false

def answers (requestId : Text) : Loaded → Bool
  | .dict entries =>
    entries.all (fun entry => resultKeys.contains entry.1) &&
      resultKeys.all (fun key => (entries.map Prod.fst).contains key) &&
      (match item entries "protocol_version" with | some (.int 1) => true | _ => false) &&
      (match item entries "request_id" with | some (.str id) => id == requestId | _ => false) &&
      isCanonical (item entries "device_id") && isCanonical (item entries "boot_id") &&
      (match item entries "state" with
        | some (.str state) =>
          knownStates.contains state && errorFits (failedStates.contains state) (item entries "error_code")
        | _ => false) &&
      resultFits (item entries "result")
  | _ => false

/-- What one line comes to. A `RecursionError` is none of the exceptions that are caught. -/
inductive LineResult where
  | skipped
  | yielded (value : Loaded)
  | raised

def loadLine (room : Nat) (requestId : Text) (line : List UInt8) : LineResult :=
  match decode line with
  | none => .skipped
  | some source =>
    match jsonLoads room source with
    | .valueError => .skipped
    | .recursionError => .raised
    | .value value _ => if answers requestId value then .yielded value else .skipped

structure ResultReader where
  buffer : List UInt8
  discard : Bool
  yielded : List Loaded
  raised : Bool

def ResultReader.zero : ResultReader := { buffer := [], discard := false, yielded := [], raised := false }

def bufferLimit : Nat := 8192

def finishLine (result : LineResult) (r : ResultReader) : ResultReader :=
  match result with
  | .skipped => r
  | .yielded value => { r with yielded := r.yielded ++ [value] }
  | .raised => { r with raised := true }

def readByte (room : Nat) (requestId : Text) (byte : UInt8) (r : ResultReader) : ResultReader :=
  if r.raised then r
  else if byte ≠ 0x0a then
    if bufferLimit ≤ r.buffer.length ∨ byte = 0 then { r with buffer := [], discard := true }
    else if r.discard then r
    else { r with buffer := r.buffer ++ [byte] }
  else
    let line := r.buffer
    let r := { r with buffer := [] }
    if r.discard then { r with discard := false }
    else if line.head? ≠ some 0x7b then r
    else finishLine (loadLine room requestId line) r

abbrev readResult (room : Nat) (requestId : Text) (bytes : List UInt8) : ResultReader :=
  run (readByte room requestId) bytes .zero

def fits (line : List UInt8) : Prop := line.length ≤ bufferLimit ∧ 0 ∉ line

instance (line : List UInt8) : Decidable (fits line) := inferInstanceAs (Decidable (_ ∧ _))

def lineResult (room : Nat) (requestId : Text) (line : List UInt8) : LineResult :=
  if fits line ∧ line.head? = some 0x7b then loadLine room requestId line else .skipped

def nextLine (room : Nat) (requestId : Text) (line : List UInt8) (r : ResultReader) : ResultReader :=
  if r.raised then r else finishLine (lineResult room requestId line) r

def holding (line : List UInt8) (yielded : List Loaded) : ResultReader :=
  { buffer := if fits line then line else []
    discard := !decide (fits line)
    yielded
    raised := false }

def between (yielded : List Loaded) : ResultReader :=
  { buffer := [], discard := false, yielded, raised := false }

variable (room : Nat) (requestId : Text)

theorem fits_append (line : List UInt8) (c : UInt8) :
    fits (line ++ [c]) ↔ fits line ∧ ¬(bufferLimit ≤ line.length ∨ c = 0) := by
  simp only [fits, List.length_append, List.length_singleton, List.mem_append, List.mem_singleton, not_or,
    @eq_comm UInt8 0 c]
  constructor
  · rintro ⟨short, unbroken, other⟩
    exact ⟨⟨by omega, unbroken⟩, by omega, other⟩
  · rintro ⟨⟨-, unbroken⟩, within, other⟩
    exact ⟨by omega, unbroken, other⟩

theorem readByte_holding (line : List UInt8) (c : UInt8) (yielded : List Loaded) (inside : c ≠ 0x0a) :
    readByte room requestId c (holding line yielded) = holding (line ++ [c]) yielded := by
  have longer := fits_append line c
  by_cases held : fits line
  · by_cases full : bufferLimit ≤ line.length ∨ c = 0
    · have past : ¬fits (line ++ [c]) := fun fitting => (longer.mp fitting).2 full
      simp [readByte, holding, held, past, full, inside]
    · have still : fits (line ++ [c]) := longer.mpr ⟨held, full⟩
      simp [readByte, holding, held, still, full, inside]
  · have past : ¬fits (line ++ [c]) := fun fitting => held (longer.mp fitting).1
    simp [readByte, holding, held, past, inside]

theorem readByte_newline (line : List UInt8) (yielded : List Loaded) :
    readByte room requestId 0x0a (holding line yielded) = nextLine room requestId line (between yielded) := by
  by_cases held : fits line
  · by_cases object : line.head? = some 0x7b <;>
      simp [readByte, holding, between, nextLine, lineResult, finishLine, held, object]
  · simp [readByte, holding, between, nextLine, lineResult, finishLine, held]

theorem nextLine_between (line : List UInt8) (yielded : List Loaded)
    (going : (nextLine room requestId line (between yielded)).raised = false) :
    ∃ more, nextLine room requestId line (between yielded) = between more := by
  cases result : lineResult room requestId line with
  | skipped => exact ⟨yielded, by simp [nextLine, between, finishLine, result]⟩
  | yielded value => exact ⟨yielded ++ [value], by simp [nextLine, between, finishLine, result]⟩
  | raised => simp [nextLine, between, finishLine, result] at going

theorem run_raised (bytes : List UInt8) (r : ResultReader) (raised : r.raised = true) :
    run (readByte room requestId) bytes r = r := by
  induction bytes with
  | nil => rfl
  | cons c rest ih => simpa [readByte, raised] using ih

theorem lines_raised (lines : List (List UInt8)) (r : ResultReader) (raised : r.raised = true) :
    run (nextLine room requestId) lines r = r := by
  induction lines with
  | nil => rfl
  | cons line rest ih => simpa [nextLine, raised] using ih

theorem modifyHead_nil (lines : List (List UInt8)) : lines.modifyHead ([] ++ ·) = lines := by
  cases lines <;> rfl

theorem run_lines (noise line : List UInt8) (yielded : List Loaded) :
    run (readByte room requestId) (noise ++ [0x0a]) (holding line yielded) =
      run (nextLine room requestId) ((noise.splitOn 0x0a).modifyHead (line ++ ·)) (between yielded) := by
  induction noise generalizing line yielded with
  | nil => simp [readByte_newline, List.splitOn_eq_singleton]
  | cons c rest ih =>
    rw [List.splitOn_cons_eq_if_modifyHead, List.cons_append, run_cons]
    by_cases ends : c = 0x0a
    · subst ends
      simp only [readByte_newline, beq_self_eq_true, if_true, List.modifyHead_cons, List.append_nil, run_cons]
      cases raised : (nextLine room requestId line (between yielded)).raised with
      | true => rw [run_raised room requestId _ _ raised, lines_raised room requestId _ _ raised]
      | false =>
        obtain ⟨more, next⟩ := nextLine_between room requestId line yielded raised
        have later := ih [] more
        rw [modifyHead_nil] at later
        rw [next]
        exact later
    · have other : (c == 0x0a) = false := by simpa using ends
      rw [readByte_holding room requestId line c yielded ends, ih (line ++ [c]) yielded, other,
        if_neg (by decide), List.modifyHead_modifyHead]
      congr 2
      funext tail
      simp

theorem readResult_lines (bytes : List UInt8) :
    readResult room requestId (bytes ++ [0x0a]) =
      run (nextLine room requestId) (bytes.splitOn 0x0a) (between []) := by
  have read := run_lines room requestId bytes [] []
  rw [modifyHead_nil] at read
  exact read

-- A line on which `json.loads` runs out of calls.
def Exhausts (line : List UInt8) : Prop :=
  fits line ∧ line.head? = some 0x7b ∧
    ∃ source, decode line = some source ∧ jsonLoads room source = .recursionError

theorem lineResult_raised (line : List UInt8) :
    lineResult room requestId line = .raised ↔ Exhausts room line := by
  unfold lineResult loadLine Exhausts
  constructor
  · intro raised
    split at raised
    next object =>
      split at raised
      · cases raised
      next source decoded =>
        split at raised
        · cases raised
        next exhausted => exact ⟨object.1, object.2, source, decoded, exhausted⟩
        · split at raised <;> cases raised
    · cases raised
  · rintro ⟨held, object, source, decoded, exhausted⟩
    simp only [held, object, decoded, exhausted, and_self, if_true]

theorem lines_exhaust (lines : List (List UInt8)) (yielded : List Loaded) :
    (run (nextLine room requestId) lines (between yielded)).raised = true ↔
      ∃ line ∈ lines, Exhausts room line := by
  induction lines generalizing yielded with
  | nil => simp [between]
  | cons line rest ih =>
    rw [run_cons]
    cases raised : (nextLine room requestId line (between yielded)).raised with
    | true =>
      have exhausted : Exhausts room line := by
        rw [← lineResult_raised room requestId]
        cases result : lineResult room requestId line with
        | raised => rfl
        | skipped => simp [nextLine, between, finishLine, result] at raised
        | yielded value => simp [nextLine, between, finishLine, result] at raised
      rw [lines_raised room requestId rest _ raised, raised]
      exact ⟨fun _ => ⟨line, List.mem_cons_self, exhausted⟩, fun _ => rfl⟩
    | false =>
      have sound : ¬Exhausts room line := by
        rw [← lineResult_raised room requestId]
        intro result
        simp [nextLine, between, finishLine, result] at raised
      obtain ⟨more, next⟩ := nextLine_between room requestId line yielded raised
      simp [next, ih, sound]

theorem lines_between (lines : List (List UInt8)) (yielded : List Loaded)
    (going : (run (nextLine room requestId) lines (between yielded)).raised = false) :
    ∃ more, run (nextLine room requestId) lines (between yielded) = between more := by
  induction lines generalizing yielded with
  | nil => exact ⟨yielded, rfl⟩
  | cons line rest ih =>
    rw [run_cons] at going ⊢
    cases raised : (nextLine room requestId line (between yielded)).raised with
    | true =>
      rw [lines_raised room requestId rest _ raised, raised] at going
      cases going
    | false =>
      obtain ⟨more, next⟩ := nextLine_between room requestId line yielded raised
      rw [next] at going ⊢
      exact ih more going

theorem readResult_answer (noise answer : List UInt8) (value : Loaded) (line : 0x0a ∉ answer)
    (loads : lineResult room requestId answer = .yielded value) :
    (readResult room requestId (noise ++ [0x0a] ++ answer ++ [0x0a])).yielded =
        (readResult room requestId (noise ++ [0x0a])).yielded ++ [value] ↔
      ∀ earlier ∈ noise.splitOn 0x0a, ¬Exhausts room earlier := by
  have exhausts := lines_exhaust room requestId (noise.splitOn 0x0a) []
  have lines : (noise ++ [0x0a] ++ answer).splitOn 0x0a = noise.splitOn 0x0a ++ [answer] := by
    rw [List.append_assoc, List.singleton_append, List.splitOn_append_cons_self, List.splitOn_eq_singleton line]
  rw [readResult_lines, readResult_lines, lines, run_append]
  cases raised : (run (nextLine room requestId) (noise.splitOn 0x0a) (between [])).raised with
  | true =>
    rw [lines_raised room requestId [answer] _ raised]
    rw [raised] at exhausts
    obtain ⟨earlier, member, exhausted⟩ := exhausts.mp rfl
    constructor
    · intro same
      simpa using congrArg List.length same
    · exact fun none => absurd exhausted (none earlier member)
  | false =>
    obtain ⟨more, between_lines⟩ := lines_between room requestId _ _ raised
    rw [raised] at exhausts
    constructor
    · exact fun _ earlier member exhausted => Bool.false_ne_true (exhausts.mpr ⟨earlier, member, exhausted⟩)
    · intro _
      rw [between_lines]
      simp [nextLine, between, finishLine, loads]

end EspBase

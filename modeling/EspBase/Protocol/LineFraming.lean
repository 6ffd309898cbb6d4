import EspBase.Protocol.CommandDecoder
import EspBase.Shared.Buffer

set_option autoImplicit false

/-!
# Lines of the USB stream

The reference splits the whole stream, with a mark where the idle timer fired.
-/

namespace EspBase

structure LineReader where
  data : Buffer (lineLimit + 1)
  length : Nat
  discard : Bool

def LineReader.zero : LineReader := { data := .wiped, length := 0, discard := false }

-- The arguments of one handler call; `none` is `(NULL, 0)`.
abbrev HandlerCall := Option (List UInt8)

def feedByte (c : UInt8) (r : LineReader) : List HandlerCall × LineReader :=
  if c = 0x0a then
    let data := r.data.write r.length [0]
    (if r.discard ∨ r.length ≠ 0 then
        [if r.discard then none else some (data.bytes.take r.length)]
      else [],
      { data, length := 0, discard := false })
  else if !r.discard then
    if c = 0 ∨ r.length = lineLimit then ([], { r with length := 0, discard := true })
    else ([], { r with data := r.data.write r.length [c], length := r.length + 1 })
  else ([], r)

def ebaseLineFeed : List UInt8 → LineReader → List HandlerCall × LineReader
  | [], r => ([], r)
  | c :: rest, r =>
    let fed := feedByte c r
    let later := ebaseLineFeed rest fed.2
    (fed.1 ++ later.1, later.2)

-- What `control_task` does when its timer fires: only a partial line is dropped.
def idleTimeout (r : LineReader) : LineReader :=
  if r.length ≠ 0 then { r with length := 0, discard := true } else r

inductive InputEvent where
  | feed (bytes : List UInt8)
  | idle

def inputEvent : InputEvent → LineReader → List HandlerCall × LineReader
  | .feed bytes, r => ebaseLineFeed bytes r
  | .idle, r => ([], idleTimeout r)

def inputEvents : List InputEvent → LineReader → List HandlerCall × LineReader
  | [], r => ([], r)
  | event :: rest, r =>
    let first := inputEvent event r
    let later := inputEvents rest first.2
    (first.1 ++ later.1, later.2)

inductive StreamItem where
  | byte (c : UInt8)
  | timeout
deriving DecidableEq

def InputEvent.items : InputEvent → List StreamItem
  | .feed bytes => bytes.map .byte
  | .idle => [.timeout]

def lineFeed (item : StreamItem) : Bool := item == .byte 0x0a

def StreamItem.byte? : StreamItem → Option UInt8
  | .byte c => some c
  | .timeout => none

def lineText (line : List StreamItem) : List UInt8 := line.filterMap StreamItem.byte?

-- A timeout before the first byte of the line finds nothing to drop.
def interrupted (line : List StreamItem) : Bool :=
  (line.dropWhile (· == .timeout)).contains .timeout

def delivered (line : List StreamItem) : List HandlerCall :=
  let text := lineText line
  if text = [] then []
  else if text.length ≤ lineLimit ∧ 0 ∉ text ∧ interrupted line = false then [some text]
  else [none]

def completedLines (stream : List StreamItem) : List (List StreamItem) :=
  (stream.splitOnP lineFeed).dropLast

def referenceCalls (stream : List StreamItem) : List HandlerCall :=
  (completedLines stream).flatMap delivered

def dropped (line : List StreamItem) : Prop :=
  lineLimit < (lineText line).length ∨ 0 ∈ lineText line ∨ interrupted line = true

/-- The reader has read the items of an unfinished line. -/
structure Reading (line : List StreamItem) (r : LineReader) : Prop where
  unfinished : ∀ item ∈ line, lineFeed item = false
  discards : r.discard = true ↔ dropped line
  length : r.length = if r.discard then 0 else (lineText line).length
  text : r.discard = false → r.data.bytes.take r.length = lineText line

theorem Reading.bounded {line : List StreamItem} {r : LineReader} (reading : Reading line r) :
    r.length ≤ lineLimit := by
  have length := reading.length
  cases discard : r.discard with
  | true =>
    rw [discard] at length
    simp [length]
  | false =>
    have kept : ¬dropped line := by
      rw [← reading.discards, discard]
      decide
    rw [discard, if_neg (by decide)] at length
    simp only [dropped, not_or] at kept
    omega

theorem lineText_append (line : List StreamItem) (item : StreamItem) :
    lineText (line ++ [item]) = lineText line ++ item.byte?.toList := by
  cases item <;> simp [lineText, StreamItem.byte?]

theorem dropWhile_timeouts (line : List StreamItem) :
    line.dropWhile (· == .timeout) = [] ↔ lineText line = [] := by
  induction line with
  | nil => simp [lineText]
  | cons item line ih =>
    cases item with
    | byte c => simp [lineText, StreamItem.byte?]
    | timeout => simpa [lineText, StreamItem.byte?] using ih

theorem interrupted_append (line : List StreamItem) (item : StreamItem) :
    interrupted (line ++ [item]) =
      (interrupted line || (item == .timeout && lineText line != [])) := by
  simp only [interrupted, List.dropWhile_append]
  by_cases empty : lineText line = []
  · have none := (dropWhile_timeouts line).mpr empty
    cases item <;> simp [none, empty]
  · have some : line.dropWhile (· == .timeout) ≠ [] := fun none => empty ((dropWhile_timeouts line).mp none)
    have held : (line.dropWhile (· == .timeout)).isEmpty = false := by simpa using some
    rw [held]
    cases item <;> simp [empty]

theorem dropped_append (line : List StreamItem) (item : StreamItem) (already : dropped line) :
    dropped (line ++ [item]) := by
  simp only [dropped, lineText_append, interrupted_append, List.length_append, List.mem_append,
    Bool.or_eq_true] at already ⊢
  rcases already with long | nul | broken
  · left
    omega
  · exact .inr (.inl (.inl nul))
  · exact .inr (.inr (.inl broken))

theorem reading_start (data : Buffer (lineLimit + 1)) :
    Reading [] { data, length := 0, discard := false } := by
  constructor <;> simp [dropped, lineText, interrupted]

theorem Reading.timeout {line : List StreamItem} {r : LineReader} (reading : Reading line r) :
    Reading (line ++ [.timeout]) (idleTimeout r) := by
  have unfinished : ∀ item ∈ line ++ [.timeout], lineFeed item = false := by
    simpa [or_imp, forall_and, lineFeed] using reading.unfinished
  have same : lineText (line ++ [.timeout]) = lineText line := by
    simp [lineText_append, StreamItem.byte?]
  by_cases partly : r.length ≠ 0
  · have kept : r.discard = false := by
      have length := reading.length
      by_contra discard
      simp only [Bool.not_eq_false] at discard
      simp [discard] at length
      exact partly length
    have some : lineText line ≠ [] := by
      intro empty
      have length := reading.length
      simp [kept, empty] at length
      exact partly length
    have broken : dropped (line ++ [.timeout]) := by
      simp [dropped, interrupted_append, some]
    rw [idleTimeout, if_pos partly]
    exact ⟨unfinished, by simp [broken], by simp, by simp⟩
  · rw [idleTimeout, if_neg partly]
    have idle : dropped (line ++ [.timeout]) ↔ dropped line := by
      by_cases discard : r.discard = true
      · have already := reading.discards.mp discard
        exact iff_of_true (dropped_append line .timeout already) already
      · have empty : lineText line = [] := by
          have length := reading.length
          rw [if_neg discard] at length
          exact List.eq_nil_of_length_eq_zero (by omega)
        simp [dropped, same, interrupted_append, empty]
    refine ⟨unfinished, reading.discards.trans idle.symm, ?_, ?_⟩
    · rw [same]
      exact reading.length
    · rw [same]
      exact reading.text

theorem Reading.byte {line : List StreamItem} {r : LineReader} (reading : Reading line r) (c : UInt8)
    (inside : c ≠ 0x0a) :
    (feedByte c r).1 = [] ∧ Reading (line ++ [.byte c]) (feedByte c r).2 := by
  have unfinished : ∀ item ∈ line ++ [.byte c], lineFeed item = false := by
    have later := reading.unfinished
    intro item member
    rcases List.mem_append.mp member with early | last
    · exact later item early
    · simp [List.mem_singleton.mp last, lineFeed, inside]
  have text : lineText (line ++ [.byte c]) = lineText line ++ [c] := by
    simp [lineText_append, StreamItem.byte?]
  have bounded := reading.bounded
  cases discard : r.discard with
  | true =>
    have already := dropped_append line (.byte c) (reading.discards.mp discard)
    have length := reading.length
    simp only [feedByte, inside, if_false, discard, Bool.not_true, Bool.false_eq_true, true_and]
    rw [discard, if_pos rfl] at length
    exact ⟨unfinished, by simp [discard, already], by simp [discard, length], by simp [discard]⟩
  | false =>
    have kept : ¬dropped line := by
      rw [← reading.discards, discard]
      decide
    have length := reading.length
    rw [discard, if_neg (by decide)] at length
    have grows : dropped (line ++ [.byte c]) ↔ c = 0 ∨ r.length = lineLimit := by
      simp only [dropped, not_or] at kept
      have now : dropped (line ++ [.byte c]) ↔ lineLimit < (lineText line).length + 1 ∨ c = 0 := by
        simp [dropped, text, interrupted_append, kept, @eq_comm UInt8 c]
      have full : lineLimit < (lineText line).length + 1 ↔ r.length = lineLimit := by omega
      rw [now, full, or_comm]
    by_cases refused : c = 0 ∨ r.length = lineLimit
    · have broken := grows.mpr refused
      simp only [feedByte, inside, if_false, discard, Bool.not_false, if_true, refused, true_and]
      exact ⟨unfinished, by simp [broken], by simp, by simp⟩
    · have whole : ¬dropped (line ++ [.byte c]) := fun broken => refused (grows.mp broken)
      have room : r.length + [c].length ≤ lineLimit + 1 := by
        simp only [List.length_singleton]
        omega
      have written := @Buffer.write_take _ r.data [c] r.length room
      simp only [feedByte, inside, if_false, discard, Bool.not_false, if_true, refused, true_and]
      refine ⟨unfinished, by simp [whole], by simp [text, length], fun _ => ?_⟩
      rw [text, ← reading.text discard]
      exact written

theorem Reading.finish {line : List StreamItem} {r : LineReader} (reading : Reading line r) :
    (feedByte 0x0a r).1 = delivered line ∧ Reading [] (feedByte 0x0a r).2 := by
  refine ⟨?_, reading_start _⟩
  have length := reading.length
  have before := @Buffer.write_before _ r.data [0] r.length r.length le_rfl
    (Nat.le_succ_of_le reading.bounded)
  cases discard : r.discard with
  | true =>
    have broken := reading.discards.mp discard
    have some : lineText line ≠ [] := by
      rcases broken with long | nul | idle
      · intro empty
        simp [empty] at long
      · exact List.ne_nil_of_mem nul
      · intro empty
        have none := (dropWhile_timeouts line).mpr empty
        simp [interrupted, none] at idle
    have refused : ¬((lineText line).length ≤ lineLimit ∧ 0 ∉ lineText line ∧ interrupted line = false) := by
      intro ⟨short, clean, whole⟩
      rcases broken with long | nul | idle
      · omega
      · exact clean nul
      · rw [whole] at idle
        cases idle
    simp [feedByte, discard, delivered, some, refused]
  | false =>
    have kept : ¬dropped line := by
      rw [← reading.discards, discard]
      decide
    simp only [dropped, not_or, Nat.not_lt, Bool.not_eq_true] at kept
    have held := reading.text discard
    rw [discard, if_neg (by decide)] at length
    by_cases empty : lineText line = []
    · simp [feedByte, discard, delivered, empty, length]
    · have some : r.length ≠ 0 := by
        rw [length]
        exact fun zero => empty (List.eq_nil_of_length_eq_zero zero)
      simp [feedByte, discard, delivered, empty, kept, some, before, held]

theorem referenceCalls_line (line : List StreamItem) (rest : List StreamItem)
    (unfinished : ∀ item ∈ line, lineFeed item = false) :
    referenceCalls (line ++ .byte 0x0a :: rest) = delivered line ++ referenceCalls rest := by
  have first := List.splitOnP_append_cons_of_forall_mem unfinished (.byte 0x0a) rfl rest
  rw [referenceCalls, completedLines, first, List.dropLast_cons_of_ne_nil (List.splitOnP_ne_nil _ _)]
  rfl

theorem referenceCalls_unfinished (line : List StreamItem)
    (unfinished : ∀ item ∈ line, lineFeed item = false) : referenceCalls line = [] := by
  rw [referenceCalls, completedLines, List.splitOnP_eq_singleton unfinished]
  rfl

theorem Reading.feed (bytes : List UInt8) (line : List StreamItem) (r : LineReader)
    (reading : Reading line r) :
    ∃ left, Reading left (ebaseLineFeed bytes r).2 ∧
      ∀ rest, referenceCalls (line ++ bytes.map .byte ++ rest) =
        (ebaseLineFeed bytes r).1 ++ referenceCalls (left ++ rest) := by
  induction bytes generalizing line r with
  | nil => exact ⟨line, reading, by simp [ebaseLineFeed]⟩
  | cons c bytes ih =>
    by_cases ended : c = 0x0a
    · subst ended
      obtain ⟨calls, fresh⟩ := reading.finish
      obtain ⟨left, read, later⟩ := ih [] (feedByte 0x0a r).2 fresh
      refine ⟨left, read, fun rest => ?_⟩
      have cut := referenceCalls_line line (bytes.map .byte ++ rest) reading.unfinished
      have tail := later rest
      simp only [List.nil_append] at tail
      simp only [List.map_cons, List.append_assoc, List.cons_append, ebaseLineFeed]
      rw [cut, tail, calls]
    · obtain ⟨quiet, grown⟩ := reading.byte c ended
      obtain ⟨left, read, later⟩ := ih _ _ grown
      refine ⟨left, read, fun rest => ?_⟩
      have tail := later rest
      simp only [List.map_cons, ebaseLineFeed, quiet, List.nil_append]
      simpa using tail

theorem Reading.events (events : List InputEvent) (line : List StreamItem) (r : LineReader)
    (reading : Reading line r) :
    ∃ left, Reading left (inputEvents events r).2 ∧
      referenceCalls (line ++ events.flatMap InputEvent.items) = (inputEvents events r).1 := by
  induction events generalizing line r with
  | nil =>
    refine ⟨line, reading, ?_⟩
    simpa [inputEvents] using referenceCalls_unfinished line reading.unfinished
  | cons event events ih =>
    cases event with
    | feed bytes =>
      obtain ⟨middle, read, calls⟩ := reading.feed bytes line r
      obtain ⟨left, final, later⟩ := ih middle _ read
      refine ⟨left, final, ?_⟩
      have whole := calls (events.flatMap InputEvent.items)
      simp only [List.flatMap_cons, InputEvent.items, inputEvents, inputEvent]
      rw [← List.append_assoc, whole, later]
    | idle =>
      obtain ⟨left, final, later⟩ := ih _ _ reading.timeout
      refine ⟨left, final, ?_⟩
      simpa [InputEvent.items, inputEvents, inputEvent] using later

/-- However the stream is cut and wherever the timer fires, the handler is called as the reference says. -/
theorem lines_framed (events : List InputEvent) :
    (inputEvents events .zero).1 = referenceCalls (events.flatMap InputEvent.items) ∧
      (inputEvents events .zero).2.length ≤ lineLimit := by
  obtain ⟨left, reading, calls⟩ := Reading.events events [] .zero (reading_start .wiped)
  exact ⟨calls.symm, reading.bounded⟩

structure ControlInput where
  reader : LineReader
  lastInput : UInt64

-- The time read at the start of a pass, what the FIFO held, and the time after it was read.
structure InputPass where
  now : UInt64
  bytes : List UInt8
  uptime : UInt64

def controlInput (pass : InputPass) (s : ControlInput) : List HandlerCall × ControlInput :=
  let reader :=
    if s.reader.length ≠ 0 ∧ 2000 ≤ pass.now - s.lastInput then
      { s.reader with length := 0, discard := true }
    else s.reader
  if pass.bytes.length > 0 then
    let fed := ebaseLineFeed pass.bytes reader
    (fed.1, { reader := fed.2, lastInput := pass.uptime })
  else ([], { s with reader })

def controlInputs : List InputPass → ControlInput → List HandlerCall × ControlInput
  | [], s => ([], s)
  | pass :: rest, s =>
    let first := controlInput pass s
    let later := controlInputs rest first.2
    (first.1 ++ later.1, later.2)

def passEvents (pass : InputPass) (lastInput : UInt64) : List InputEvent :=
  (if 2000 ≤ pass.now - lastInput then [.idle] else []) ++ [.feed pass.bytes]

def controlEvents : List InputPass → UInt64 → List InputEvent
  | [], _ => []
  | pass :: rest, lastInput =>
    passEvents pass lastInput ++
      controlEvents rest (if pass.bytes.length > 0 then pass.uptime else lastInput)

theorem inputEvents_append (earlier later : List InputEvent) (r : LineReader) :
    inputEvents (earlier ++ later) r =
      ((inputEvents earlier r).1 ++ (inputEvents later (inputEvents earlier r).2).1,
        (inputEvents later (inputEvents earlier r).2).2) := by
  induction earlier generalizing r with
  | nil => rfl
  | cons event earlier ih => simp [inputEvents, ih]

theorem controlInput_events (pass : InputPass) (s : ControlInput) :
    inputEvents (passEvents pass s.lastInput) s.reader =
      ((controlInput pass s).1, (controlInput pass s).2.reader) := by
  have feed (r : LineReader) : inputEvents [.feed pass.bytes] r = ebaseLineFeed pass.bytes r := by
    simp [inputEvents, inputEvent]
  have empty (none : ¬pass.bytes.length > 0) : pass.bytes = [] :=
    List.eq_nil_of_length_eq_zero (by omega)
  by_cases late : 2000 ≤ pass.now - s.lastInput
  · have timed : inputEvents (passEvents pass s.lastInput) s.reader =
        ebaseLineFeed pass.bytes (idleTimeout s.reader) := by
      simp [passEvents, late, inputEvents, inputEvent]
    rw [timed]
    by_cases some : pass.bytes.length > 0
    · simp [controlInput, late, some, idleTimeout]
    · simp [controlInput, late, idleTimeout, empty some, ebaseLineFeed]
  · rw [passEvents, if_neg late, List.nil_append, feed]
    by_cases some : pass.bytes.length > 0
    · simp [controlInput, late, some]
    · simp [controlInput, late, empty some, ebaseLineFeed]

theorem controlInputs_events (passes : List InputPass) (s : ControlInput) :
    inputEvents (controlEvents passes s.lastInput) s.reader =
      ((controlInputs passes s).1, (controlInputs passes s).2.reader) := by
  induction passes generalizing s with
  | nil => rfl
  | cons pass rest ih =>
    have first := controlInput_events pass s
    have clock : (controlInput pass s).2.lastInput =
        if pass.bytes.length > 0 then pass.uptime else s.lastInput := by
      simp only [controlInput]
      split <;> rfl
    rw [controlEvents, inputEvents_append, first, ← clock, ih]
    rfl

theorem control_lines_framed (passes : List InputPass) (lastInput : UInt64) :
    let run := controlInputs passes { reader := .zero, lastInput }
    run.1 = referenceCalls ((controlEvents passes lastInput).flatMap InputEvent.items) ∧
      run.2.reader.length ≤ lineLimit := by
  have framed := lines_framed (controlEvents passes lastInput)
  rwa [controlInputs_events passes { reader := .zero, lastInput }] at framed

end EspBase

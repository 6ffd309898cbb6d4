import EspBase.Host.Prescan
import EspBase.Protocol.LineFraming

set_option autoImplicit false

namespace EspBase

open Unicode

def visibleByte (c : UInt8) : Bool := 0x20 ≤ c && c ≤ 0x7e

theorem digit_visible (c : UInt8) (digit : isDigit c = true) : visibleByte c = true := by
  simp only [isDigit, visibleByte, Bool.and_eq_true, decide_eq_true_eq, UInt8.le_iff_toNat_le] at digit ⊢
  obtain ⟨least, most⟩ := digit
  have low : (0x30 : UInt8).toNat = 0x30 := rfl
  have high : (0x39 : UInt8).toNat = 0x39 := rfl
  have first : (0x20 : UInt8).toNat = 0x20 := rfl
  have last : (0x7e : UInt8).toNat = 0x7e := rfl
  omega

theorem decimal_visible (n : Nat) : (decimal n).all visibleByte = true := by
  have digits := decimal_isDigit n
  simp only [List.all_eq_true] at digits ⊢
  exact fun c member => digit_visible c (digits c member)

theorem unitEscape_visible (unit : Nat) : (unitEscape unit).all visibleByte = true := by
  have nibble : ∀ n < 16, visibleByte (nibbleByte n) = true := by decide
  have each (n : Nat) : visibleByte (nibbleByte (n % 16)) = true := nibble _ (Nat.mod_lt n (by decide))
  simp only [unitEscape, List.all_cons, each]
  decide

theorem point_visible (c : Point) : (escapePoint c).all visibleByte = true := by
  unfold escapePoint
  split_ifs
  iterate 7 decide
  next inside =>
    have plain : ∀ n < 0x7f, 0x20 ≤ n → visibleByte (UInt8.ofNat n) = true := by decide
    simpa [Point.byte] using plain c.val (by omega) inside.1
  · exact unitEscape_visible _
  · rw [List.all_append, unitEscape_visible, unitEscape_visible]
    rfl

theorem text_visible (s : Text) : (dumpText s).all visibleByte = true := by
  have points : (s.flatMap escapePoint).all visibleByte = true := by
    rw [List.all_flatMap]
    simp [point_visible]
  rw [dumpText, List.all_cons, List.all_append, points]
  decide

theorem sign_visible (negative : Bool) : (signText negative).all visibleByte = true := by
  cases negative <;> decide

theorem float_visible (x : FloatText) : x.dumps.all visibleByte = true := by
  have rest : x.rest.all visibleByte = true := by
    have marks : (bytesOf ".e+-").all visibleByte = true := by decide
    rw [List.all_eq_true]
    intro c member
    rcases x.plain c member with digit | mark
    · exact digit_visible c digit
    · exact List.all_eq_true.mp marks c mark
  rw [FloatText.dumps, List.all_append, List.all_append, sign_visible, decimal_visible, rest]
  rfl

theorem items_visible (items : List Json) (each : ∀ item ∈ items, item.dumps.all visibleByte = true) :
    (dumpItems items).all visibleByte = true := by
  induction items with
  | nil => rfl
  | cons item items ih =>
    have here := each item List.mem_cons_self
    have later := ih (fun item member => each item (List.mem_cons_of_mem _ member))
    rw [dumpItems, List.all_cons, List.all_append, here, later]
    rfl

theorem entries_visible (entries : Entries) (each : ∀ entry ∈ entries, entry.2.dumps.all visibleByte = true) :
    (dumpEntries entries).all visibleByte = true := by
  induction entries with
  | nil => rfl
  | cons entry entries ih =>
    obtain ⟨name, value⟩ := entry
    have here := each (name, value) List.mem_cons_self
    have later := ih (fun entry member => each entry (List.mem_cons_of_mem _ member))
    simp only [dumpEntries, List.all_cons, List.all_append, text_visible, here, later]
    rfl

theorem dumps_visible (j : Json) : j.dumps.all visibleByte = true := by
  induction j with
  | null => decide
  | bool value => cases value <;> decide
  | int value =>
    rw [Json.dumps, dumpInt, List.all_append, sign_visible, decimal_visible]
    rfl
  | float value =>
    rw [Json.dumps]
    exact float_visible value
  | str value =>
    rw [Json.dumps]
    exact text_visible value
  | list items each =>
    cases items with
    | nil => decide
    | cons item rest =>
      have here := each item List.mem_cons_self
      have later := items_visible rest (fun item member => each item (List.mem_cons_of_mem _ member))
      simp only [Json.dumps, List.all_cons, List.all_append, here, later]
      decide
  | dict entries each =>
    cases entries with
    | nil => decide
    | cons entry rest =>
      obtain ⟨name, value⟩ := entry
      have here := each (name, value) List.mem_cons_self
      have later := entries_visible rest (fun entry member => each entry (List.mem_cons_of_mem _ member))
      simp only [Json.dumps, List.all_cons, List.all_append, text_visible, here, later]
      decide

theorem dumps_nonempty (j : Json) : j.dumps ≠ [] := by
  cases j with
  | null => simp [Json.dumps, bytesOf_ascii]
  | bool value => cases value <;> simp [Json.dumps, bytesOf_ascii]
  | int value => simp [Json.dumps, dumpInt, decimal_nonempty]
  | float value => simp [Json.dumps, FloatText.dumps, decimal_nonempty]
  | str value => simp [Json.dumps, dumpText]
  | list items => cases items <;> simp [Json.dumps, bytesOf_ascii]
  | dict entries => cases entries <;> simp [Json.dumps, bytesOf_ascii]

theorem ebaseLineFeed_append (earlier later : List UInt8) (r : LineReader) :
    ebaseLineFeed (earlier ++ later) r =
      ((ebaseLineFeed earlier r).1 ++ (ebaseLineFeed later (ebaseLineFeed earlier r).2).1,
        (ebaseLineFeed later (ebaseLineFeed earlier r).2).2) := by
  induction earlier generalizing r with
  | nil => rfl
  | cons c earlier ih => simp [ebaseLineFeed, ih]

theorem feeds_flatten (reads : List (List UInt8)) (r : LineReader) :
    inputEvents (reads.map .feed) r = ebaseLineFeed reads.flatten r := by
  induction reads generalizing r with
  | nil => rfl
  | cons read reads ih => simp [inputEvents, inputEvent, ebaseLineFeed_append, ih]

theorem bytes_unfinished (line : List UInt8) (plain : line.all visibleByte = true) :
    ∀ item ∈ line.map StreamItem.byte, lineFeed item = false := by
  have feed : visibleByte 0x0a = false := by decide
  intro item member
  obtain ⟨c, inside, rfl⟩ := List.mem_map.mp member
  have here := List.all_eq_true.mp plain c inside
  by_cases same : c = 0x0a
  · rw [same, feed] at here
    cases here
  · simp [lineFeed, same]

theorem lineText_bytes (line : List UInt8) : lineText (line.map .byte) = line := by
  have same : StreamItem.byte? ∘ StreamItem.byte = some := rfl
  rw [lineText, List.filterMap_map, same, List.filterMap_some]

theorem bytes_uninterrupted (line : List UInt8) : interrupted (line.map .byte) = false := by
  have quiet : StreamItem.timeout ∉ line.map .byte := by simp
  have left : StreamItem.timeout ∉ (line.map StreamItem.byte).dropWhile (· == .timeout) :=
    fun member => quiet ((List.dropWhile_suffix _).subset member)
  simpa [interrupted] using left

theorem delivered_bytes (line : List UInt8) (some_byte : line ≠ []) (short : line.length ≤ lineLimit)
    (plain : line.all visibleByte = true) : delivered (line.map .byte) = [some line] := by
  have nul : visibleByte 0 = false := by decide
  have clean : 0 ∉ line := by
    intro member
    have here := List.all_eq_true.mp plain 0 member
    rw [nul] at here
    cases here
  simp [delivered, lineText_bytes, some_byte, short, clean, bytes_uninterrupted]

theorem Reading.payload {before : List StreamItem} {r : LineReader} (reading : Reading before r)
    (line : List UInt8) (some_byte : line ≠ []) (short : line.length ≤ lineLimit)
    (plain : line.all visibleByte = true) :
    (ebaseLineFeed (sendPayload line) r).1 = delivered before ++ [some line] := by
  obtain ⟨left, rest, calls⟩ := reading.feed (sendPayload line)
  have unfinished := bytes_unfinished line plain
  have whole := calls []
  have ended := referenceCalls_line before (line.map .byte ++ [.byte 0x0a]) reading.unfinished
  have handed := referenceCalls_line (line.map .byte) [] unfinished
  have nothing := referenceCalls_unfinished left rest.unfinished
  have start := referenceCalls_unfinished [] (by simp)
  rw [List.append_nil, List.append_nil, nothing, List.append_nil] at whole
  rw [← whole, sendPayload, List.map_cons, List.map_append, List.map_cons, List.map_nil, ended, handed, start,
    delivered_bytes line some_byte short plain, List.append_nil]

/-- Whatever came over the line before, and however the payload of `send` is cut into reads, the handler gets that
line once, after what a bare line feed would have ended, and the reader waits for a new line. -/
theorem sent_line_delivered (events : List InputEvent) (request : Json) (line : List UInt8)
    (reads : List (List UInt8)) (sent : sendLine request = .ok line) (whole : reads.flatten = sendPayload line) :
    let earlier := inputEvents (events ++ [.feed [0x0a]]) .zero
    let run := inputEvents (events ++ reads.map .feed) .zero
    run.1 = earlier.1 ++ [some line] ∧ run.2.length = 0 ∧ run.2.discard = false := by
  obtain ⟨rfl, short⟩ := sendLine_ok request line sent
  obtain ⟨before, reading, -⟩ := Reading.events events [] .zero (reading_start .wiped)
  have payload := reading.payload request.dumps (dumps_nonempty request) short (dumps_visible request)
  have feed : ebaseLineFeed [0x0a] (inputEvents events .zero).2 = feedByte 0x0a (inputEvents events .zero).2 := by
    simp [ebaseLineFeed]
  have ended := reading.finish.1
  simp only [inputEvents_append, feeds_flatten, whole, payload]
  refine ⟨?_, ?_⟩
  · simp [inputEvents, inputEvent, feed, ended]
  · have last := ebaseLineFeed_append (0x0a :: request.dumps) [0x0a] (inputEvents events .zero).2
    have same : sendPayload request.dumps = 0x0a :: request.dumps ++ [0x0a] := rfl
    rw [same, last]
    simp [ebaseLineFeed, feedByte]

-- Half a line, a silence, and the payload in two reads.
theorem sent_line_delivered_halves :
    (inputEvents ([.feed (bytesOf "half"), .idle] ++ [[0x0a, 0x5b], [0x5d, 0x0a]].map .feed) .zero).1 =
      [none, some (bytesOf "[]")] := by
  have sent : sendLine (.list []) = .ok (bytesOf "[]") := rfl
  have earlier : (inputEvents ([.feed (bytesOf "half"), .idle] ++ [.feed [0x0a]]) .zero).1 = [none] := by
    obtain ⟨_, -, calls⟩ := Reading.events [.feed (bytesOf "half"), .idle, .feed [0x0a]] [] .zero
      (reading_start .wiped)
    exact calls.symm.trans (by decide)
  have run := sent_line_delivered [.feed (bytesOf "half"), .idle] (.list []) (bytesOf "[]")
    [[0x0a, 0x5b], [0x5d, 0x0a]] sent rfl
  rw [run.1, earlier]
  rfl

end EspBase

import EspBase.Config.Utf8

set_option autoImplicit false

namespace EspBase

def TextPoint (ssid : Bool) (c : Nat) : Prop :=
  0x20 ≤ c ∧ c ≠ 0x7f ∧
    (ssid = false →
      ¬(0x80 ≤ c ∧ c ≤ 0x9f) ∧ ¬(0xfdd0 ≤ c ∧ c ≤ 0xfdef) ∧ c % 0x10000 ≠ 0xfffe ∧ c % 0x10000 ≠ 0xffff)

theorem pointAllowed_iff (ssid : Bool) (c : Nat) : pointAllowed ssid c = true ↔ TextPoint ssid c := by
  have low : c &&& 0xffff = c % 0x10000 := Nat.and_two_pow_sub_one_eq_mod c 16
  unfold pointAllowed TextPoint
  cases ssid with
  | true => simp
  | false =>
    simp [low]
    omega

theorem utf8Allowed_range (cp minimum : UInt32) (ssid : Bool) (allowed : utf8Allowed cp minimum ssid = true) :
    minimum.toNat ≤ cp.toNat ∧ cp.toNat.isValidChar := by
  simp only [utf8Allowed, Bool.not_eq_true', Bool.or_eq_false_iff, Bool.and_eq_false_iff,
    decide_eq_false_iff_not, gt_iff_lt, UInt32.lt_iff_toNat_lt, UInt32.le_iff_toNat_le,
    UInt32.reduceToNat] at allowed
  simp only [Nat.isValidChar]
  omega

theorem utf8Lead_minimum (first : UInt8) (bits minimum : UInt32) (count : Nat)
    (lead : utf8Lead first = some (bits, count, minimum)) :
    (count = 2 → minimum = 0x800) ∧ (count = 3 → minimum = 0x10000) := by
  unfold utf8Lead at lead
  split at lead
  · cases lead
    simp
  split at lead
  · cases lead
    simp
  split at lead
  · cases lead
    simp
  split at lead
  · cases lead
  · cases lead
    simp

theorem utf8Lead_ascii (first : UInt8) (small : ¬0x80 ≤ first) :
    utf8Lead first = some (first.toUInt32, 0, 0) ∧
      ∃ c : Char, c.val = first.toUInt32 ∧ String.utf8EncodeChar c = [first] := by
  have bound : first.toNat < 0x80 := by
    rw [UInt8.le_iff_toNat_le] at small
    exact not_le.mp small
  have scalar : first.toNat.isValidChar := by
    simp only [Nat.isValidChar]
    omega
  let c : Char := Char.ofNatAux first.toNat scalar
  have value : c.toNat = first.toNat := rfl
  have byte : UInt8.ofNat c.toNat = first := by rw [value, UInt8.ofNat_toNat]
  have point : c.val = first.toUInt32 := UInt32.toNat.inj value
  have reads := reads_one c (by omega)
  have written := reads.written
  have lead := reads.lead
  rw [byte] at written lead
  rw [point] at lead
  exact ⟨lead, c, point, written⟩

theorem utf8Loop_cons (ssid : Bool) (fuel : Nat) (first : UInt8) (rest : List UInt8)
    (accepted : utf8Loop ssid (fuel + 1) (first :: rest) = true) :
    ∃ c after, first :: rest = String.utf8EncodeChar c ++ after ∧ pointAllowed ssid c.toNat = true ∧
      utf8Loop ssid fuel after = true := by
  rw [utf8Loop] at accepted
  split at accepted
  · cases accepted
  next bits more minimum lead =>
    split at accepted
    · cases accepted
    next room =>
      split at accepted
      · cases accepted
      next cp read =>
        rw [Bool.and_eq_true] at accepted
        obtain ⟨allowed, later⟩ := accepted
        obtain ⟨least, scalar⟩ := utf8Allowed_range cp minimum ssid allowed
        rw [utf8Allowed_point cp minimum ssid least scalar] at allowed
        by_cases high : 0x80 ≤ first
        · have size : (rest.take more).length = more := List.length_take_of_le (not_lt.mp room)
          obtain ⟨wide, widest⟩ := utf8Lead_minimum first bits minimum more lead
          obtain ⟨c, written⟩ := char_of_reads first (rest.take more) bits minimum cp high
            (by rw [size]; exact lead) read
            (fun two => by rw [size] at two; rw [wide two] at least; exact least)
            (fun three => by rw [size] at three; rw [widest three] at least; exact least) scalar
          have point : c.val = cp := by
            obtain ⟨_, _, _, _, again⟩ := reads_char c
            have same := again.written
            rw [written, List.cons.injEq] at same
            obtain ⟨rfl, rfl⟩ := same
            have leads := again.lead
            rw [size, lead] at leads
            cases leads
            exact Option.some.inj (again.read.symm.trans read)
          refine ⟨c, rest.drop more, ?_, ?_, later⟩
          · rw [written, List.cons_append, List.take_append_drop]
          · rw [← point] at allowed
            exact allowed
        · obtain ⟨known, c, point, written⟩ := utf8Lead_ascii first high
          rw [known] at lead
          cases lead
          cases read
          refine ⟨c, rest, by rw [written]; rfl, ?_, later⟩
          rw [← point] at allowed
          exact allowed

theorem utf8Loop_language (ssid : Bool) (fuel : Nat) (s : List UInt8)
    (accepted : utf8Loop ssid fuel s = true) :
    ∃ chars : List Char, s = chars.flatMap String.utf8EncodeChar ∧
      ∀ c ∈ chars, pointAllowed ssid c.toNat = true := by
  induction fuel generalizing s with
  | zero =>
    cases s with
    | nil => exact ⟨[], rfl, by simp⟩
    | cons first rest => cases accepted
  | succ fuel ih =>
    cases s with
    | nil => exact ⟨[], rfl, by simp⟩
    | cons first rest =>
      obtain ⟨c, after, split, allowed, later⟩ := utf8Loop_cons ssid fuel first rest accepted
      obtain ⟨chars, rfl, others⟩ := ih after later
      refine ⟨c :: chars, split, ?_⟩
      simpa [allowed] using others

theorem utf8_iff (s : List UInt8) (ssid : Bool) :
    utf8 s ssid = true ↔
      ∃ chars : List Char, s = chars.flatMap String.utf8EncodeChar ∧ ∀ c ∈ chars, TextPoint ssid c.toNat := by
  simp only [← pointAllowed_iff]
  constructor
  · exact utf8Loop_language ssid s.length s
  · rintro ⟨chars, rfl, allowed⟩
    rw [utf8, utf8Loop_chars ssid chars _ le_rfl, List.all_eq_true]
    exact allowed

-- The continuation bytes from `i` on, and the indices that are read.
def continueReads (s : Nat → UInt8) : Nat → Nat → UInt32 → Option UInt32 × List Nat
  | 0, _, cp => (some cp, [])
  | more + 1, i, cp =>
    if s i &&& 0xc0 ≠ 0x80 then (none, [i])
    else
      let later := continueReads s more (i + 1) ((cp <<< 6) ||| ((s i).toUInt32 &&& 63))
      (later.1, i :: later.2)

/-- `utf8` from index `i` on in a memory that goes on after `length`, and the indices that it reads. -/
def utf8Reads (s : Nat → UInt8) (length : Nat) (ssid : Bool) : Nat → Nat → Bool × List Nat
  | 0, i => (length ≤ i, [])
  | fuel + 1, i =>
    if length ≤ i then (true, [])
    else
      match utf8Lead (s i) with
      | none => (false, [i])
      | some (bits, more, minimum) =>
        if length - (i + 1) < more then (false, [i])
        else
          let tail := continueReads s more (i + 1) bits
          match tail.1 with
          | none => (false, i :: tail.2)
          | some cp =>
            if utf8Allowed cp minimum ssid then
              let later := utf8Reads s length ssid fuel (i + 1 + more)
              (later.1, i :: tail.2 ++ later.2)
            else (false, i :: tail.2)

def memoryBytes (s : Nat → UInt8) (start count : Nat) : List UInt8 := (List.range' start count).map s

theorem continueReads_bytes (s : Nat → UInt8) (more i : Nat) (cp : UInt32) :
    (continueReads s more i cp).1 = utf8Continue cp (memoryBytes s i more) ∧
      ∀ j ∈ (continueReads s more i cp).2, j < i + more := by
  induction more generalizing i cp with
  | zero => simp [continueReads, memoryBytes, utf8Continue]
  | succ more ih =>
    obtain ⟨value, inside⟩ := ih (i + 1) ((cp <<< 6) ||| ((s i).toUInt32 &&& 63))
    rw [continueReads, memoryBytes, List.range'_succ, List.map_cons, utf8Continue]
    split
    · simp
    · refine ⟨value, ?_⟩
      intro j member
      rcases List.mem_cons.mp member with rfl | later
      · omega
      · have := inside j later
        omega

theorem utf8Reads_bytes (s : Nat → UInt8) (length : Nat) (ssid : Bool) (fuel i : Nat)
    (enough : length - i ≤ fuel) :
    (utf8Reads s length ssid fuel i).1 = utf8Loop ssid fuel (memoryBytes s i (length - i)) ∧
      ∀ j ∈ (utf8Reads s length ssid fuel i).2, j < length := by
  induction fuel generalizing i with
  | zero =>
    have done : length - i = 0 := by omega
    simp only [utf8Reads, memoryBytes, done, List.range'_zero, List.map_nil, utf8Loop]
    simp
    omega
  | succ fuel ih =>
    rw [utf8Reads]
    split
    next done =>
      have empty : length - i = 0 := by omega
      simp [memoryBytes, empty, utf8Loop]
    next inside =>
      have count : length - i = (length - (i + 1)) + 1 := by omega
      rw [memoryBytes, count, List.range'_succ, List.map_cons, utf8Loop]
      cases utf8Lead (s i) with
      | none => simp; omega
      | some found =>
        obtain ⟨bits, more, minimum⟩ := found
        simp only [List.length_map, List.length_range']
        split
        next short => simp; omega
        next room =>
          obtain ⟨value, within⟩ := continueReads_bytes s more (i + 1) bits
          have taken : ((List.range' (i + 1) (length - (i + 1))).map s).take more = memoryBytes s (i + 1) more := by
            rw [← List.map_take, List.take_range'_of_length_ge (not_lt.mp room)]
            rfl
          have dropped : ((List.range' (i + 1) (length - (i + 1))).map s).drop more =
              memoryBytes s (i + 1 + more) (length - (i + 1 + more)) := by
            rw [← List.map_drop, List.drop_range', memoryBytes]
            congr 2 <;> omega
          obtain ⟨later, others⟩ := ih (i + 1 + more) (by omega)
          have here : ∀ j ∈ i :: (continueReads s more (i + 1) bits).2, j < length := by
            intro j member
            rcases List.mem_cons.mp member with rfl | tail
            · omega
            · have := within j tail
              omega
          rw [taken, dropped, ← value]
          cases (continueReads s more (i + 1) bits).1 with
          | none => exact ⟨rfl, here⟩
          | some cp =>
            dsimp only
            rw [← later]
            split
            next allowed =>
              refine ⟨by rw [allowed, Bool.true_and], fun j member => ?_⟩
              rcases List.mem_append.mp member with early | late
              · exact here j early
              · exact others j late
            next refused => exact ⟨by simp [refused], here⟩

theorem utf8_language (s : Nat → UInt8) (length : Nat) (ssid : Bool) :
    (utf8Reads s length ssid length 0).1 = utf8 (memoryBytes s 0 length) ssid ∧
      (utf8 (memoryBytes s 0 length) ssid = true ↔
        ∃ chars : List Char, memoryBytes s 0 length = chars.flatMap String.utf8EncodeChar ∧
          ∀ c ∈ chars, TextPoint ssid c.toNat) ∧
      ∀ j ∈ (utf8Reads s length ssid length 0).2, j < length := by
  obtain ⟨value, inside⟩ := utf8Reads_bytes s length ssid length 0 le_rfl
  have size : (memoryBytes s 0 length).length = length := by simp [memoryBytes]
  refine ⟨?_, utf8_iff (memoryBytes s 0 length) ssid, inside⟩
  rw [value, utf8, size, Nat.sub_zero]

end EspBase

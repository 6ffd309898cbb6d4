import EspBase.Host.Dumps
import EspBase.Protocol.CommandScan

set_option autoImplicit false

namespace EspBase

open Unicode

def scans (quoted : Bool) (depth members : Nat) (s : List UInt8) : Bool :=
  scanLoop s.length quoted depth members s

theorem skipWide_shorter (c : UInt8) (rest after : List UInt8) (skipped : skipWide c rest = some after) :
    after.length ≤ rest.length := by
  unfold skipWide at skipped
  split at skipped
  · cases skipped
  · split at skipped
    · cases skipped
    · split at skipped
      · cases skipped
      · split at skipped
        · cases skipped
          simp
        · cases skipped

theorem skipDigits_shorter (c : UInt8) (rest after : List UInt8) (skipped : skipDigits c rest = some after) :
    after.length ≤ rest.length := by
  unfold skipDigits at skipped
  dsimp only at skipped
  split at skipped
  · cases skipped
  split at skipped
  · cases skipped
  split at skipped
  · cases skipped
  · cases skipped
    exact List.length_dropWhile_le isDigit rest

theorem skipNumber_shorter (c : UInt8) (rest after : List UInt8) (skipped : skipNumber c rest = some after) :
    after.length ≤ rest.length := by
  unfold skipNumber at skipped
  split at skipped
  · cases rest with
    | nil => cases skipped
    | cons digit rest =>
      have shorter := skipDigits_shorter digit rest after skipped
      simp
      omega
  · exact skipDigits_shorter c rest after skipped

theorem scanRound_congr (f g : Bool → Nat → Nat → List UInt8 → Bool) (quoted : Bool) (depth members : Nat)
    (c : UInt8) (rest : List UInt8)
    (same : ∀ q d m s, s.length ≤ rest.length → f q d m s = g q d m s) :
    scanRound f quoted depth members c rest = scanRound g quoted depth members c rest := by
  have here (q : Bool) (d m : Nat) : f q d m rest = g q d m rest := same q d m rest (Nat.le_refl _)
  unfold scanRound
  cases wide : skipWide c rest with
  | none =>
    cases number : skipNumber c rest with
    | none =>
      cases rest with
      | nil => simp only [here]
      | cons escape tail => simp only [here, same true depth members tail (by simp)]
    | some after =>
      have later := same false depth members after (skipNumber_shorter c rest after number)
      cases rest with
      | nil => simp only [here, later]
      | cons escape tail => simp only [here, later, same true depth members tail (by simp)]
  | some beyond =>
    have farther := same quoted depth members beyond (skipWide_shorter c rest beyond wide)
    cases number : skipNumber c rest with
    | none =>
      cases rest with
      | nil => simp only [here, farther]
      | cons escape tail => simp only [here, farther, same true depth members tail (by simp)]
    | some after =>
      have later := same false depth members after (skipNumber_shorter c rest after number)
      cases rest with
      | nil => simp only [here, farther, later]
      | cons escape tail => simp only [here, farther, later, same true depth members tail (by simp)]

theorem scanLoop_enough (fuel : Nat) (quoted : Bool) (depth members : Nat) (s : List UInt8)
    (enough : s.length ≤ fuel) : scanLoop fuel quoted depth members s = scans quoted depth members s := by
  induction fuel using Nat.strong_induction_on generalizing quoted depth members s with
  | _ fuel ih =>
    cases s with
    | nil =>
      unfold scans
      cases fuel <;> rfl
    | cons c rest =>
      cases fuel with
      | zero => simp at enough
      | succ fuel =>
        simp only [List.length_cons, Nat.add_le_add_iff_right] at enough
        simp only [scans, List.length_cons, scanLoop]
        refine scanRound_congr _ _ quoted depth members c rest (fun q d m s shorter => ?_)
        rw [ih fuel (Nat.lt_succ_self _) q d m s (by omega)]
        by_cases tight : rest.length < fuel + 1
        · exact (ih rest.length tight q d m s shorter).symm
        · omega

theorem scans_nil (members : Nat) : scans false 0 members [] = true := rfl

theorem scans_cons (quoted : Bool) (depth members : Nat) (c : UInt8) (rest : List UInt8) :
    scans quoted depth members (c :: rest) = scanRound scans quoted depth members c rest := by
  simp only [scans, List.length_cons, scanLoop]
  exact scanRound_congr _ _ quoted depth members c rest
    (fun q d m s shorter => scanLoop_enough rest.length q d m s shorter)

-- A byte that stands for itself within a string.
def ordinary (c : UInt8) : Bool := 0x20 ≤ c && c < 0x80 && c != 0x22 && c != 0x5c

theorem scans_ordinary (depth members : Nat) (c : UInt8) (rest : List UInt8) (plain : ordinary c = true) :
    scans true depth members (c :: rest) = scans true depth members rest := by
  simp only [ordinary, Bool.and_eq_true, decide_eq_true_eq, bne_iff_ne, ne_eq, UInt8.le_iff_toNat_le,
    UInt8.lt_iff_toNat_lt] at plain
  obtain ⟨⟨⟨visible, ascii⟩, quote⟩, backslash⟩ := plain
  have nonzero : c ≠ 0 := by
    rintro rfl
    simp at visible
  have low : ¬0x80 ≤ c := by
    rw [UInt8.le_iff_toNat_le]
    omega
  have shown : ¬c < 0x20 := by
    rw [UInt8.lt_iff_toNat_lt]
    omega
  rw [scans_cons]
  simp [scanRound, nonzero, low, shown, quote, backslash]

theorem nibbleByte_ordinary : ∀ nibble < 16,
    ordinary (nibbleByte nibble) = true ∧ (nibbleByte nibble = 0x30 ↔ nibble = 0) := by decide

theorem scans_unit (depth members unit : Nat) (rest : List UInt8) (small : unit < 0x10000) :
    scans true depth members (unitEscape unit ++ rest) = (unit != 0 && scans true depth members rest) := by
  have first := nibbleByte_ordinary (unit / 4096 % 16) (Nat.mod_lt _ (by decide))
  have second := nibbleByte_ordinary (unit / 256 % 16) (Nat.mod_lt _ (by decide))
  have third := nibbleByte_ordinary (unit / 16 % 16) (Nat.mod_lt _ (by decide))
  have fourth := nibbleByte_ordinary (unit % 16) (Nat.mod_lt _ (by decide))
  have zeros : (nibbleByte (unit / 4096 % 16) = 0x30 ∧ nibbleByte (unit / 256 % 16) = 0x30 ∧
      nibbleByte (unit / 16 % 16) = 0x30 ∧ nibbleByte (unit % 16) = 0x30) ↔ unit = 0 := by
    rw [first.2, second.2, third.2, fourth.2]
    omega
  simp only [unitEscape, List.cons_append, List.nil_append]
  rw [scans_cons]
  by_cases zero : unit = 0
  · have spelled := zeros.mpr zero
    simp [scanRound, zero, nibbleByte]
  · have spelled : ¬(nibbleByte (unit / 4096 % 16) = 0x30 ∧ nibbleByte (unit / 256 % 16) = 0x30 ∧
        nibbleByte (unit / 16 % 16) = 0x30 ∧ nibbleByte (unit % 16) = 0x30) := fun all => zero (zeros.mp all)
    simp [scanRound, zero, spelled, scans_ordinary, first.1, second.1, third.1, fourth.1]

theorem scans_escape (depth members : Nat) (c : Point) (rest : List UInt8) :
    scans true depth members (escapePoint c ++ rest) = (c.val != 0 && scans true depth members rest) := by
  have pair (escape : UInt8) (known : escape ≠ 0x75) :
      scans true depth members (0x5c :: escape :: rest) = scans true depth members rest := by
    rw [scans_cons]
    simp [scanRound, known]
  have bound := c.isLt
  unfold escapePoint
  split
  next quote => simp [pair, quote]
  split
  next backslash => simp [pair, backslash]
  split
  next feed => simp [pair, feed]
  split
  next return_ => simp [pair, return_]
  split
  next tab => simp [pair, tab]
  split
  next form => simp [pair, form]
  split
  next back => simp [pair, back]
  split
  next quote backslash feed return_ tab form back plain =>
    have value : c.byte.toNat = c.val := by
      simp only [Point.byte, UInt8.toNat_ofNat']
      omega
    have itself : ordinary c.byte = true := by
      simp only [ordinary, Bool.and_eq_true, decide_eq_true_eq, bne_iff_ne, ne_eq, UInt8.le_iff_toNat_le,
        UInt8.lt_iff_toNat_lt, ← UInt8.toNat_inj, value, UInt8.reduceToNat]
      omega
    have nonzero : c.val ≠ 0 := by omega
    simp [scans_ordinary depth members c.byte rest itself, nonzero]
  split
  next narrow => exact scans_unit depth members c.val rest narrow
  next wide =>
    have nonzero (n : Nat) (positive : 0 < n) : (n != 0) = true := by
      rw [bne_iff_ne]
      omega
    rw [List.append_assoc, scans_unit _ _ _ _ (by omega), scans_unit _ _ _ _ (by omega),
      nonzero (0xd800 + _) (by omega), nonzero (0xdc00 + _) (by omega), nonzero c.val (by omega)]
    simp only [Bool.true_and]

-- No U+0000.
def nulFree (s : Text) : Bool := s.all (fun c => c.val != 0)

theorem scans_points (depth members : Nat) (s : Text) (rest : List UInt8) :
    scans true depth members (s.flatMap escapePoint ++ 0x22 :: rest) =
      (nulFree s && scans false depth members rest) := by
  induction s with
  | nil =>
    rw [List.flatMap_nil, List.nil_append, scans_cons]
    simp [scanRound, nulFree]
  | cons c s ih =>
    rw [List.flatMap_cons, List.append_assoc, scans_escape, ih]
    simp [nulFree, Bool.and_assoc]

theorem scans_text (depth members : Nat) (s : Text) (rest : List UInt8) :
    scans false depth members (dumpText s ++ rest) = (nulFree s && scans false depth members rest) := by
  have opened (bytes : List UInt8) :
      scans false depth members (0x22 :: bytes) = scans true depth members bytes := by
    rw [scans_cons]
    simp [scanRound]
  rw [dumpText, List.cons_append, opened, List.append_assoc]
  exact scans_points depth members s rest

theorem decimal_isDigit (n : Nat) : (decimal n).all isDigit = true := by
  induction n using Nat.strong_induction_on with
  | _ n ih =>
    have digit : ∀ d < 10, isDigit (UInt8.ofNat (0x30 + d)) = true := by decide
    have last := digit (n % 10) (Nat.mod_lt n (by decide))
    rw [decimal_last]
    split
    · simpa using last
    next large => rw [List.all_append, ih (n / 10) (by omega)]; simpa using last

-- What must not follow the digits of an integer.
def fractionMark (c : UInt8) : Bool := c == 0x2e || c == 0x65 || c == 0x45

theorem skipDigits_decimal (n : Nat) (c : UInt8) (rest tail : List UInt8)
    (split_here : decimal n ++ tail = c :: rest) (stopped : headIs isDigit tail = false) :
    skipDigits c rest = if headIs fractionMark tail then none else some tail := by
  have digits := decimal_isDigit n
  cases written : decimal n with
  | nil => exact absurd written (decimal_nonempty n)
  | cons first more =>
    rw [written, List.cons_append, List.cons.injEq] at split_here
    obtain ⟨rfl, rfl⟩ := split_here
    rw [written, List.all_cons, Bool.and_eq_true] at digits
    obtain ⟨digit, later⟩ := digits
    have leading : (first == 0x30 && headIs isDigit (more ++ tail)) = false := by
      cases zero : first == 0x30 with
      | false => rfl
      | true =>
        obtain rfl : first = 0x30 := by simpa using zero
        have value := decimal_leading n (by simp [written])
        subst value
        have alone : decimal 0 = [0x30] := by decide
        rw [alone, List.cons.injEq] at written
        obtain ⟨-, rfl⟩ := written
        simpa using stopped
    have after : (more ++ tail).dropWhile isDigit = tail := by
      rw [List.dropWhile_append_of_pos (List.all_eq_true.mp later)]
      cases tail with
      | nil => rfl
      | cons d tail =>
        have other : isDigit d = false := by simpa [headIs] using stopped
        simp [other]
    simp only [skipDigits, digit, leading, after]
    rfl

theorem scans_number (depth members : Nat) (negative : Bool) (n : Nat) (tail : List UInt8)
    (stopped : headIs isDigit tail = false) :
    scans false depth members (signText negative ++ decimal n ++ tail) =
      (!headIs fractionMark tail && scans false depth members tail) := by
  have digits := decimal_isDigit n
  cases written : decimal n with
  | nil => exact absurd written (decimal_nonempty n)
  | cons c rest =>
    rw [written, List.all_cons, Bool.and_eq_true] at digits
    have skipped := skipDigits_decimal n c (rest ++ tail) tail (by simp [written]) stopped
    have digit := digits.1
    have bounds := digit
    simp only [isDigit, Bool.and_eq_true, decide_eq_true_eq, UInt8.le_iff_toNat_le, UInt8.reduceToNat] at bounds
    have other (value : UInt8) (outside : value.toNat < 0x30 ∨ 0x39 < value.toNat) : c ≠ value := by
      intro same
      rw [← UInt8.toNat_inj] at same
      omega
    have low : ¬0x80 ≤ c := by
      simp only [UInt8.le_iff_toNat_le, UInt8.reduceToNat]
      omega
    cases negative with
    | true =>
      have sign : skipNumber 0x2d (c :: (rest ++ tail)) = skipDigits c (rest ++ tail) := rfl
      simp only [signText, if_true, List.cons_append, List.nil_append]
      rw [scans_cons]
      cases marks : headIs fractionMark tail <;> simp [scanRound, sign, skipped, marks]
    | false =>
      have bare : skipNumber c (rest ++ tail) = skipDigits c (rest ++ tail) := by
        unfold skipNumber
        rw [if_neg (other 0x2d (by decide))]
      simp only [signText, Bool.false_eq_true, if_false, List.cons_append, List.nil_append]
      rw [scans_cons]
      cases marks : headIs fractionMark tail <;>
        simp [scanRound, bare, marks, skipped, digit, low, other 0 (by decide), other 0x3a (by decide),
          other 0x2c (by decide), other 0x22 (by decide), other 0x7b (by decide), other 0x5b (by decide),
          other 0x7d (by decide), other 0x5d (by decide)]

-- The separators counted once a value is scanned, or nothing where the scan refuses it.
mutual
def Json.scanned (depth : Nat) : Json → Nat → Option Nat
  | .null, members => some members
  | .bool _, members => some members
  | .int _, members => some members
  | .float _, _ => none
  | .str value, members => if nulFree value then some members else none
  | .list [], members => if depth + 1 > 8 then none else some members
  | .list (item :: rest), members =>
    if depth + 1 > 8 then none
    else (item.scanned (depth + 1) members).bind (itemsScanned (depth + 1) rest)
  | .dict [], members => if depth + 1 > 8 then none else some members
  | .dict ((name, value) :: rest), members =>
    if depth + 1 > 8 ∨ nulFree name = false ∨ members + 1 > 128 then none
    else (value.scanned (depth + 1) (members + 1)).bind (entriesScanned (depth + 1) rest)
def itemsScanned (depth : Nat) : List Json → Nat → Option Nat
  | [], members => some members
  | item :: rest, members =>
    if members + 1 > 128 then none
    else (item.scanned depth (members + 1)).bind (itemsScanned depth rest)
def entriesScanned (depth : Nat) : Entries → Nat → Option Nat
  | [], members => some members
  | (name, value) :: rest, members =>
    if nulFree name = false ∨ members + 2 > 128 then none
    else (value.scanned depth (members + 2)).bind (entriesScanned depth rest)
end

@[induction_eliminator]
theorem Json.recursion {motive : Json → Prop} (null : motive .null) (bool : ∀ value, motive (.bool value))
    (int : ∀ value, motive (.int value)) (float : ∀ value, motive (.float value))
    (str : ∀ value, motive (.str value))
    (list : ∀ items, (∀ item ∈ items, motive item) → motive (.list items))
    (dict : ∀ entries, (∀ entry ∈ entries, motive entry.2) → motive (.dict entries)) (j : Json) : motive j := by
  refine @Json.rec motive (fun items => ∀ item ∈ items, motive item)
    (fun entries => ∀ entry ∈ entries, motive entry.2) (fun entry => motive entry.2)
    null bool int float str list dict (by simp) ?_ (by simp) ?_ ?_ j
  · intro item rest here later
    simpa [here] using later
  · intro entry rest here later
    simpa [here] using later
  · intro name value here
    exact here

def resumes (depth : Nat) (rest : List UInt8) : Option Nat → Bool
  | some members => scans false depth members rest
  | none => false

theorem scans_separator (depth members : Nat) (c : UInt8) (rest : List UInt8) (mark : separator c = true) :
    scans false depth members (c :: rest) =
      if members + 1 > 128 then false else scans false depth (members + 1) rest := by
  obtain rfl | rfl : c = 0x3a ∨ c = 0x2c := by simpa [separator] using mark
  · rw [scans_cons]
    simp [scanRound]
  · rw [scans_cons]
    simp [scanRound]

theorem scans_opening (depth members : Nat) (c : UInt8) (rest : List UInt8) (mark : opening c = true) :
    scans false depth members (c :: rest) =
      if depth + 1 > 8 then false else scans false (depth + 1) members rest := by
  obtain rfl | rfl : c = 0x7b ∨ c = 0x5b := by simpa [opening] using mark
  · rw [scans_cons]
    simp [scanRound]
  · rw [scans_cons]
    simp [scanRound]

theorem scans_closing (depth members : Nat) (c : UInt8) (rest : List UInt8) (mark : closing c = true) :
    scans false (depth + 1) members (c :: rest) = scans false depth members rest := by
  obtain rfl | rfl : c = 0x7d ∨ c = 0x5d := by simpa [closing] using mark
  · rw [scans_cons]
    simp [scanRound]
  · rw [scans_cons]
    simp [scanRound]

theorem numberEnd_stops (rest : List UInt8) (stopped : numberEnd rest = true) :
    headIs isDigit rest = false ∧ headIs fractionMark rest = false := by
  cases rest with
  | nil => simp [headIs]
  | cons c rest => simpa [numberEnd, headIs, fractionMark, and_assoc] using stopped

theorem numberEnd_mark (c : UInt8) (rest : List UInt8) (mark : separator c || closing c) :
    numberEnd (c :: rest) = true := by
  simp only [separator, closing, Bool.or_eq_true, beq_iff_eq] at mark
  rcases mark with (rfl | rfl) | rfl | rfl <;> rfl

def Json.Scans (j : Json) : Prop :=
  ∀ depth members rest, numberEnd rest = true →
    scans false depth members (j.dumps ++ rest) = resumes depth rest (j.scanned depth members)

theorem numberEnd_items (items : List Json) (rest : List UInt8) (stopped : numberEnd rest = true) :
    numberEnd (dumpItems items ++ rest) = true := by
  cases items with
  | nil => exact stopped
  | cons item items => exact numberEnd_mark 0x2c _ (by decide)

theorem numberEnd_entries (entries : Entries) (rest : List UInt8) (stopped : numberEnd rest = true) :
    numberEnd (dumpEntries entries ++ rest) = true := by
  cases entries with
  | nil => exact stopped
  | cons entry entries => exact numberEnd_mark 0x2c _ (by decide)

theorem items_scans (items : List Json) (each : ∀ item ∈ items, item.Scans) (depth members : Nat)
    (rest : List UInt8) (stopped : numberEnd rest = true) :
    scans false depth members (dumpItems items ++ rest) =
      resumes depth rest (itemsScanned depth items members) := by
  induction items generalizing members with
  | nil => rfl
  | cons item items ih =>
    have later := numberEnd_items items rest stopped
    have here := each item (by simp)
    have others := ih (fun item member => each item (by simp [member]))
    rw [dumpItems, List.cons_append, scans_separator _ _ _ _ (by decide), List.append_assoc, here _ _ _ later,
      itemsScanned]
    split
    · rfl
    · cases item.scanned depth (members + 1) with
      | none => rfl
      | some counted => exact others counted

theorem entries_scans (entries : Entries) (each : ∀ entry ∈ entries, entry.2.Scans) (depth members : Nat)
    (rest : List UInt8) (stopped : numberEnd rest = true) :
    scans false depth members (dumpEntries entries ++ rest) =
      resumes depth rest (entriesScanned depth entries members) := by
  induction entries generalizing members with
  | nil => rfl
  | cons entry entries ih =>
    have later := numberEnd_entries entries rest stopped
    have here := each entry (by simp)
    have others := ih (fun entry member => each entry (by simp [member]))
    simp only [dumpEntries, entriesScanned, List.cons_append, List.append_assoc]
    rw [scans_separator _ _ _ _ (by decide), scans_text, scans_separator _ _ _ _ (by decide), here _ _ _ later]
    by_cases named : nulFree entry.1 = true
    · by_cases room : members + 2 > 128
      · simp [named, room, resumes]
      · have first : ¬members + 1 > 128 := by omega
        simp only [named, room, first, if_false, Bool.true_and, Bool.true_eq_false, or_self]
        cases entry.2.scanned depth (members + 2) with
        | none => rfl
        | some counted => exact others counted
    · simp [named, resumes]

theorem dumps_scans (j : Json) : j.Scans := by
  induction j with
  | null =>
    intro depth members rest stopped
    simp [Json.dumps, Json.scanned, resumes, bytesOf_ascii, scans_cons, scanRound, isDigit]
  | bool value =>
    intro depth members rest stopped
    cases value <;> simp [Json.dumps, Json.scanned, resumes, bytesOf_ascii, scans_cons, scanRound, isDigit]
  | int value =>
    intro depth members rest stopped
    obtain ⟨digit, mark⟩ := numberEnd_stops rest stopped
    rw [Json.dumps, dumpInt, scans_number _ _ _ _ _ digit, mark]
    rfl
  | float value =>
    intro depth members rest stopped
    rw [Json.dumps, FloatText.dumps, List.append_assoc, scans_number]
    all_goals
      cases written : value.rest with
      | nil => simpa [written] using value.marked
      | cons c tail =>
        have marked : c = 0x2e ∨ c = 0x65 := by simpa [written] using value.marked
        rcases marked with rfl | rfl <;> simp [headIs, fractionMark, isDigit, Json.scanned, resumes]
  | str value =>
    intro depth members rest stopped
    rw [Json.dumps, scans_text, Json.scanned]
    cases nulFree value <;> rfl
  | list items each =>
    intro depth members rest stopped
    have closes (counted : Nat) := scans_closing depth counted 0x5d rest (by decide)
    cases items with
    | nil =>
      have spelled : bytesOf "[]" = [0x5b, 0x5d] := by decide
      rw [Json.dumps, Json.scanned, spelled, List.cons_append, scans_opening _ _ _ _ (by decide)]
      split
      · rfl
      · exact closes members
    | cons item items =>
      have ending : numberEnd (0x5d :: rest) = true := numberEnd_mark _ _ (by decide)
      have others := items_scans items (fun item member => each item (by simp [member])) (depth + 1)
      have here := each item (by simp) (depth + 1) members _ (numberEnd_items items _ ending)
      rw [Json.dumps, Json.scanned, List.cons_append, scans_opening _ _ _ _ (by decide), List.append_assoc,
        List.append_assoc, List.singleton_append, here]
      split
      · rfl
      · cases item.scanned (depth + 1) members with
        | none => rfl
        | some counted =>
          simp only [resumes, Option.bind_some, others counted _ ending]
          cases itemsScanned (depth + 1) items counted with
          | none => rfl
          | some total => exact closes total
  | dict entries each =>
    intro depth members rest stopped
    have closes (counted : Nat) := scans_closing depth counted 0x7d rest (by decide)
    cases entries with
    | nil =>
      have spelled : bytesOf "\x7b\x7d" = [0x7b, 0x7d] := by decide
      rw [Json.dumps, Json.scanned, spelled, List.cons_append, scans_opening _ _ _ _ (by decide)]
      split
      · rfl
      · exact closes members
    | cons entry entries =>
      have ending : numberEnd (0x7d :: rest) = true := numberEnd_mark _ _ (by decide)
      have others := entries_scans entries (fun entry member => each entry (by simp [member])) (depth + 1)
      have here := each entry (by simp) (depth + 1) (members + 1) _ (numberEnd_entries entries _ ending)
      simp only [Json.dumps, Json.scanned, List.cons_append, List.append_assoc, List.nil_append]
      rw [scans_opening _ _ _ _ (by decide), scans_text, scans_separator _ _ _ _ (by decide), here]
      by_cases refused : depth + 1 > 8 ∨ nulFree entry.1 = false ∨ members + 1 > 128
      · rw [if_pos refused]
        rcases refused with deep | unnamed | full
        · simp [deep, resumes]
        · simp [unnamed, resumes]
        · simp [full, resumes]
      · rw [if_neg refused]
        have shallow : ¬depth + 1 > 8 := fun deep => refused (.inl deep)
        have named : nulFree entry.1 = true := by simpa using fun unnamed => refused (.inr (.inl unnamed))
        have room : ¬members + 1 > 128 := fun full => refused (.inr (.inr full))
        simp only [shallow, named, room, if_false, Bool.true_and]
        cases entry.2.scanned (depth + 1) (members + 1) with
        | none => rfl
        | some counted =>
          simp only [resumes, Option.bind_some, others counted _ ending]
          cases entriesScanned (depth + 1) entries counted with
          | none => rfl
          | some total => exact closes total

theorem validBytes_dumps (j : Json) : validBytes j.dumps = (j.scanned 0 0).isSome := by
  have whole := dumps_scans j 0 0 [] rfl
  have scanned : validBytes j.dumps = scans false 0 0 j.dumps := rfl
  rw [List.append_nil] at whole
  rw [scanned, whole]
  cases j.scanned 0 0 <;> rfl

end EspBase

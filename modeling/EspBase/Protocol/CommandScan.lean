import EspBase.Config.Utf8
import EspBase.Protocol.CommandDecoder

set_option autoImplicit false

/-!
# What `valid_bytes` accepts

The places are those of a JSON text: outside its strings, inside one, or just
after a backslash in one.
-/

namespace EspBase

open Unicode

inductive TextPlace where
  | outside
  | inside
  | escaped
deriving DecidableEq

def TextPlace.after : TextPlace → UInt8 → TextPlace
  | .outside, c => if c = 0x22 then .inside else .outside
  | .inside, c => if c = 0x22 then .outside else if c = 0x5c then .escaped else .inside
  | .escaped, _ => .inside

def marked : TextPlace → List UInt8 → List (TextPlace × UInt8)
  | _, [] => []
  | place, c :: rest => (place, c) :: marked (place.after c) rest

-- An opening quote is outside the string that it opens, so it still separates what stands around.
def outsideBytes (place : TextPlace) (s : List UInt8) : List UInt8 :=
  (marked place s).filterMap (fun (place, c) => if place = .outside then some c else none)

def opening (c : UInt8) : Bool := c == 0x7b || c == 0x5b
def closing (c : UInt8) : Bool := c == 0x7d || c == 0x5d
def separator (c : UInt8) : Bool := c == 0x3a || c == 0x2c

def WellFormedUtf8 (s : List UInt8) : Prop := ∃ chars : List Char, s = chars.flatMap String.utf8EncodeChar

def numberStart (c : UInt8) : Bool := isDigit c || c == 0x2b || c == 0x2d || c == 0x2e

def takeSign : List UInt8 → List UInt8
  | c :: _ => if c = 0x2b ∨ c = 0x2d then [c] else []
  | [] => []

def takeFraction : List UInt8 → List UInt8
  | c :: rest => if c = 0x2e then c :: rest.takeWhile isDigit else []
  | [] => []

def takeExponent : List UInt8 → List UInt8
  | c :: rest =>
    if c = 0x65 ∨ c = 0x45 then
      let sign := takeSign rest
      c :: (sign ++ (rest.drop sign.length).takeWhile isDigit)
    else []
  | [] => []

def numberText (s : List UInt8) : List UInt8 :=
  let sign := takeSign s
  let digits := (s.drop sign.length).takeWhile isDigit
  let fraction := takeFraction (s.drop (sign.length + digits.length))
  let exponent := takeExponent (s.drop (sign.length + digits.length + fraction.length))
  sign ++ digits ++ fraction ++ exponent

-- A token has at least one byte, so `fuel` is the length.
def tokensLoop : Nat → List UInt8 → List (List UInt8)
  | 0, _ => []
  | _, [] => []
  | fuel + 1, c :: rest =>
    if numberStart c then
      let token := numberText (c :: rest)
      token :: tokensLoop fuel ((c :: rest).drop token.length)
    else tokensLoop fuel rest

def numberTokens (s : List UInt8) : List (List UInt8) := tokensLoop s.length s

def unsignedText : List UInt8 → Bool
  | [] => false
  | c :: rest => isDigit c && rest.all isDigit && (c != 0x30 || rest.isEmpty)

def integerText : List UInt8 → Bool
  | c :: rest => if c = 0x2d then unsignedText rest else unsignedText (c :: rest)
  | [] => false

structure Prescanned (s : List UInt8) : Prop where
  nonzero : 0 ∉ s
  utf8 : WellFormedUtf8 s
  outside : ∀ c, (.outside, c) ∈ marked .outside s →
    c < 0x80 ∧ (0x20 ≤ c ∨ c = 0x09 ∨ c = 0x0d ∨ c = 0x0a)
  inside : ∀ place c, (place, c) ∈ marked .outside s → place ≠ .outside → 0x20 ≤ c
  depth : ∀ n, ((outsideBytes .outside s).take n).countP opening ≤
    ((outsideBytes .outside s).take n).countP closing + 8
  members : (outsideBytes .outside s).countP separator ≤ 128
  numbers : ∀ token ∈ numberTokens (outsideBytes .outside s), integerText token = true

def EscapesPlain (place : TextPlace) (s : List UInt8) : Prop :=
  ∀ c, (.escaped, c) ∈ marked place s → 0x20 ≤ c ∧ c < 0x80

def scanPlace (quoted : Bool) : TextPlace := if quoted then .inside else .outside

-- What a round outside a string leaves alone: white space, literals and stray ASCII.
def unscanned (c : UInt8) : Bool :=
  c < 0x80 && (0x20 ≤ c || c == 0x09 || c == 0x0d || c == 0x0a) && c != 0x22 && !separator c &&
    !opening c && !closing c && !numberStart c

def numberEnd (rest : List UInt8) : Bool :=
  !headIs (fun c => isDigit c || c == 0x2e || c == 0x65 || c == 0x45) rest

inductive Scanned : Bool → Nat → Nat → List UInt8 → Prop
  | ended (members : Nat) : Scanned false 0 members []
  | wide (depth members : Nat) (c : Char) (rest : List UInt8) (large : 0x80 ≤ c.toNat)
      (later : Scanned true depth members rest) :
      Scanned true depth members (String.utf8EncodeChar c ++ rest)
  | closed (depth members : Nat) (rest : List UInt8) (later : Scanned false depth members rest) :
      Scanned true depth members (0x22 :: rest)
  | escape (depth members : Nat) (c : UInt8) (rest : List UInt8)
      (visible : ¬(c = 0x75 ∧ rest.take 4 = [0x30, 0x30, 0x30, 0x30]))
      (later : Scanned true depth members rest) : Scanned true depth members (0x5c :: c :: rest)
  | character (depth members : Nat) (c : UInt8) (rest : List UInt8) (least : 0x20 ≤ c)
      (ascii : c < 0x80) (quote : c ≠ 0x22) (backslash : c ≠ 0x5c)
      (later : Scanned true depth members rest) : Scanned true depth members (c :: rest)
  | separated (depth members : Nat) (c : UInt8) (rest : List UInt8) (mark : separator c = true)
      (room : members + 1 ≤ 128) (later : Scanned false depth (members + 1) rest) :
      Scanned false depth members (c :: rest)
  | opened (depth members : Nat) (rest : List UInt8) (later : Scanned true depth members rest) :
      Scanned false depth members (0x22 :: rest)
  | entered (depth members : Nat) (c : UInt8) (rest : List UInt8) (mark : opening c = true)
      (room : depth + 1 ≤ 8) (later : Scanned false (depth + 1) members rest) :
      Scanned false depth members (c :: rest)
  | left (depth members : Nat) (c : UInt8) (rest : List UInt8) (mark : closing c = true)
      (later : Scanned false depth members rest) : Scanned false (depth + 1) members (c :: rest)
  | number (depth members : Nat) (text rest : List UInt8) (spelled : integerText text = true)
      (stopped : numberEnd rest = true) (later : Scanned false depth members rest) :
      Scanned false depth members (text ++ rest)
  | other (depth members : Nat) (c : UInt8) (rest : List UInt8) (plain : unscanned c = true)
      (later : Scanned false depth members rest) : Scanned false depth members (c :: rest)

theorem skipWide_inv (c : UInt8) (rest after : List UInt8) (high : 0x80 ≤ c)
    (skipped : skipWide c rest = some after) :
    ∃ char : Char, 0x80 ≤ char.toNat ∧ c :: rest = String.utf8EncodeChar char ++ after := by
  unfold skipWide at skipped
  split at skipped
  · cases skipped
  next bits count minimum lead =>
    split at skipped
    · cases skipped
    next room =>
      split at skipped
      · cases skipped
      next cp read =>
        split at skipped
        next allowed =>
          cases skipped
          have count_length : (rest.take count).length = count := by simp; omega
          simp only [wideAllowed, Bool.not_eq_true', Bool.or_eq_false_iff, Bool.and_eq_false_iff,
            beq_eq_false_iff_ne, decide_eq_false_iff_not, UInt32.le_iff_toNat_le, gt_iff_lt,
            UInt32.lt_iff_toNat_lt, UInt32.reduceToNat] at allowed
          have scalar : cp.toNat.isValidChar := by
            simp only [Nat.isValidChar]
            omega
          obtain ⟨char, written⟩ := char_of_reads c (rest.take count) bits minimum cp high
            (by rw [count_length]; exact lead) read (by omega) (by omega) scalar
          refine ⟨char, ?_, by rw [written, List.cons_append, List.take_append_drop]⟩
          by_contra small
          have single := utf8EncodeChar_ascii char (by omega)
          rw [single, List.cons.injEq] at written
          have byte : (UInt8.ofNat char.toNat).toNat = char.toNat := by
            simp only [UInt8.toNat_ofNat']
            omega
          rw [UInt8.le_iff_toNat_le, ← written.1, byte] at high
          simp only [UInt8.reduceToNat] at high
          omega
        · cases skipped

theorem dropWhile_head (accepts : UInt8 → Bool) (s : List UInt8) :
    headIs accepts (s.dropWhile accepts) = false := by
  induction s with
  | nil => rfl
  | cons c rest ih =>
    by_cases taken : accepts c = true
    · simpa [List.dropWhile_cons, taken] using ih
    · simp [taken, headIs]

theorem skipDigits_inv (c : UInt8) (rest after : List UInt8)
    (skipped : skipDigits c rest = some after) :
    ∃ text, c :: rest = text ++ after ∧ unsignedText text = true ∧ numberEnd after = true := by
  unfold skipDigits at skipped
  split at skipped
  · cases skipped
  next digit =>
    split at skipped
    · cases skipped
    next zero =>
      dsimp only at skipped
      split at skipped
      · cases skipped
      next integer =>
        cases skipped
        have ended := dropWhile_head isDigit rest
        have whole : numberEnd (rest.dropWhile isDigit) = true := by
          cases remaining : rest.dropWhile isDigit with
          | nil => rfl
          | cons d more =>
            rw [remaining] at ended integer
            simp only [headIs, List.head?_cons, Option.map_some, Option.getD_some] at ended integer
            simp only [numberEnd, headIs, List.head?_cons, Option.map_some, Option.getD_some,
              Bool.not_eq_true', ended, Bool.false_or]
            simpa [Bool.or_assoc] using integer
        refine ⟨c :: rest.takeWhile isDigit, by simp, ?_, whole⟩
        simp only [Bool.not_eq_true', Bool.not_eq_false] at digit
        simp only [unsignedText, digit, Bool.true_and, List.all_takeWhile]
        by_cases first : c = 0x30
        · have single : headIs isDigit rest = false := by simpa [first] using zero
          cases rest with
          | nil => simp
          | cons d more =>
            have other : isDigit d = false := by simpa [headIs] using single
            simp [other]
        · simp [first]

theorem skipNumber_inv (c : UInt8) (rest after : List UInt8)
    (skipped : skipNumber c rest = some after) :
    ∃ text, c :: rest = text ++ after ∧ integerText text = true ∧ numberEnd after = true := by
  unfold skipNumber at skipped
  split at skipped
  next minus =>
    cases rest with
    | nil => cases skipped
    | cons digit rest =>
      obtain ⟨text, split, spelled, ended⟩ := skipDigits_inv digit rest after skipped
      exact ⟨c :: text, by rw [split, List.cons_append], by simp [integerText, minus, spelled], ended⟩
  next plain =>
    obtain ⟨text, split, spelled, ended⟩ := skipDigits_inv c rest after skipped
    cases text with
    | nil => cases spelled
    | cons first more =>
      have same : c = first := (List.cons.inj split).1
      exact ⟨first :: more, split, by simp [integerText, ← same, plain]; simpa [← same] using spelled, ended⟩

section Round

variable {next : Bool → Nat → Nat → List UInt8 → Bool}
  (ih : ∀ quoted depth members s, next quoted depth members s = true → Scanned quoted depth members s)
include ih

theorem scanRound_wide (quoted : Bool) (depth members : Nat) (c : UInt8) (rest : List UInt8) (high : 0x80 ≤ c)
    (accepted : scanRound next quoted depth members c rest = true) : Scanned quoted depth members (c :: rest) := by
  simp only [scanRound] at accepted
  split at accepted
  · cases accepted
  split at accepted
  · cases accepted
  next after skipped =>
    simp only [Bool.and_eq_true] at accepted
    obtain ⟨char, large, written⟩ := skipWide_inv c rest after high skipped
    rw [accepted.1, written]
    exact .wide depth members char after large (by simpa [accepted.1] using ih _ _ _ _ accepted.2)

theorem scanRound_quoted (depth members : Nat) (c : UInt8) (rest : List UInt8) (ascii : c < 0x80)
    (accepted : scanRound next true depth members c rest = true) : Scanned true depth members (c :: rest) := by
  have low : ¬0x80 ≤ c := by simpa using ascii
  simp only [scanRound, if_neg low, if_true] at accepted
  split at accepted
  · cases accepted
  split at accepted
  · cases accepted
  next least =>
    have least : 0x20 ≤ c := by simpa using least
    split at accepted
    next quote =>
      subst quote
      exact .closed depth members rest (ih _ _ _ _ accepted)
    next quote =>
      split at accepted
      next backslash =>
        subst backslash
        cases rest with
        | nil => cases accepted
        | cons escape rest =>
          simp only [] at accepted
          split at accepted
          · cases accepted
          next visible =>
            refine .escape depth members escape rest ?_ (ih _ _ _ _ accepted)
            rintro ⟨unicode, zeros⟩
            have room : 4 ≤ rest.length := by
              have taken := congrArg List.length zeros
              simp at taken
              omega
            simp [unicode, zeros, room] at visible
      next backslash =>
        exact .character depth members c rest least ascii quote backslash (ih _ _ _ _ accepted)

theorem scanRound_structure (depth members : Nat) (c : UInt8) (rest : List UInt8) (ascii : c < 0x80)
    (accepted : scanRound next false depth members c rest = true) : Scanned false depth members (c :: rest) := by
  have low : ¬0x80 ≤ c := by simpa using ascii
  simp only [scanRound, if_neg low, Bool.false_eq_true, if_false] at accepted
  split at accepted
  · cases accepted
  split at accepted
  next mark =>
    split at accepted
    · cases accepted
    next room =>
      exact .separated depth members c rest (by simpa [separator] using mark) (by omega) (ih _ _ _ _ accepted)
  split at accepted
  next quote =>
    subst quote
    exact .opened depth members rest (ih _ _ _ _ accepted)
  split at accepted
  next mark =>
    split at accepted
    · cases accepted
    next room =>
      exact .entered depth members c rest (by simpa [opening] using mark) (by omega) (ih _ _ _ _ accepted)
  split at accepted
  next mark =>
    split at accepted
    · cases accepted
    next deep =>
      obtain ⟨outer, rfl⟩ := Nat.exists_eq_succ_of_ne_zero deep
      exact .left outer members c rest (by simpa [closing] using mark) (ih _ _ _ _ accepted)
  split at accepted
  · split at accepted
    · cases accepted
    next after skipped =>
      obtain ⟨text, split, spelled, ended⟩ := skipNumber_inv c rest after skipped
      rw [split]
      exact .number depth members text after spelled ended (ih _ _ _ _ accepted)
  split at accepted
  · cases accepted
  next plain =>
    refine .other depth members c rest ?_ (ih _ _ _ _ accepted)
    simp only [unscanned, separator, opening, closing, numberStart]
    grind

end Round

theorem scanLoop_scanned (fuel : Nat) (quoted : Bool) (depth members : Nat) (s : List UInt8)
    (accepted : scanLoop fuel quoted depth members s = true) : Scanned quoted depth members s := by
  induction fuel generalizing quoted depth members s with
  | zero =>
    cases s with
    | nil =>
      simp only [scanLoop, Bool.and_eq_true, Bool.not_eq_true', beq_iff_eq] at accepted
      rw [accepted.1, accepted.2]
      exact .ended members
    | cons c rest => cases accepted
  | succ fuel ih =>
    cases s with
    | nil =>
      simp only [scanLoop, Bool.and_eq_true, Bool.not_eq_true', beq_iff_eq] at accepted
      rw [accepted.1, accepted.2]
      exact .ended members
    | cons c rest =>
      by_cases high : 0x80 ≤ c
      · exact scanRound_wide ih quoted depth members c rest high accepted
      have ascii : c < 0x80 := by simpa using high
      cases quoted with
      | true => exact scanRound_quoted ih depth members c rest ascii accepted
      | false => exact scanRound_structure ih depth members c rest ascii accepted

theorem marked_quiet (place : TextPlace) (bytes rest : List UInt8)
    (quiet : ∀ c ∈ bytes, place.after c = place) :
    marked place (bytes ++ rest) = bytes.map (fun c => (place, c)) ++ marked place rest := by
  induction bytes with
  | nil => rfl
  | cons c bytes ih =>
    have here := quiet c List.mem_cons_self
    have later := ih (fun d member => quiet d (List.mem_cons_of_mem c member))
    simp [marked, here, later]

theorem wide_quiet (c : Char) (large : 0x80 ≤ c.toNat) :
    ∀ byte ∈ String.utf8EncodeChar c, TextPlace.after .inside byte = .inside := by
  intro byte member
  have high := utf8EncodeChar_high c large byte member
  have quote : byte ≠ 0x22 := by
    rintro rfl
    exact absurd high (by decide)
  have backslash : byte ≠ 0x5c := by
    rintro rfl
    exact absurd high (by decide)
  simp [TextPlace.after, quote, backslash]

theorem unsignedText_digits (text : List UInt8) (spelled : unsignedText text = true) :
    text ≠ [] ∧ ∀ c ∈ text, isDigit c = true := by
  cases text with
  | nil => cases spelled
  | cons c rest =>
    simp only [unsignedText, Bool.and_eq_true, List.all_eq_true] at spelled
    simp only [ne_eq, reduceCtorEq, not_false_eq_true, List.mem_cons, true_and]
    intro d member
    rcases member with rfl | later
    · exact spelled.1.1
    · exact spelled.1.2 d later

theorem integerText_bytes (text : List UInt8) (spelled : integerText text = true) :
    ∀ c ∈ text, isDigit c = true ∨ c = 0x2d := by
  cases text with
  | nil => cases spelled
  | cons first rest =>
    rw [integerText] at spelled
    split at spelled
    next minus =>
      have digits := (unsignedText_digits rest spelled).2
      intro c member
      rcases List.mem_cons.mp member with rfl | later
      · exact .inr minus
      · exact .inl (digits c later)
    next => exact fun c member => .inl ((unsignedText_digits _ spelled).2 c member)

theorem integer_quiet (text : List UInt8) (spelled : integerText text = true) :
    ∀ c ∈ text, TextPlace.after .outside c = .outside := by
  intro c member
  have quote : c ≠ 0x22 := by
    rintro rfl
    rcases integerText_bytes text spelled _ member with digit | minus
    · exact absurd digit (by decide)
    · exact absurd minus (by decide)
  simp [TextPlace.after, quote]

@[simp] theorem outsideBytes_nil (place : TextPlace) : outsideBytes place [] = [] := rfl

theorem outsideBytes_cons (place : TextPlace) (c : UInt8) (rest : List UInt8) :
    outsideBytes place (c :: rest) =
      if place = .outside then c :: outsideBytes (place.after c) rest
      else outsideBytes (place.after c) rest := by
  cases place <;> rfl

theorem outsideBytes_wide (c : Char) (rest : List UInt8) (large : 0x80 ≤ c.toNat) :
    outsideBytes .inside (String.utf8EncodeChar c ++ rest) = outsideBytes .inside rest := by
  rw [outsideBytes, marked_quiet .inside _ rest (wide_quiet c large)]
  simp [outsideBytes]

theorem outsideBytes_integer (text rest : List UInt8) (spelled : integerText text = true) :
    outsideBytes .outside (text ++ rest) = text ++ outsideBytes .outside rest := by
  rw [outsideBytes, marked_quiet .outside _ rest (integer_quiet text spelled)]
  simp [outsideBytes, List.filterMap_map]

theorem outsideBytes_head (accepts : UInt8 → Bool) (rest : List UInt8) :
    headIs accepts (outsideBytes .outside rest) = headIs accepts rest := by
  cases rest with
  | nil => rfl
  | cons c rest => simp [outsideBytes_cons, headIs]

-- The state of a scan before the bytes that are left, seen as a place.
theorem outsideBytes_step (c : UInt8) (rest : List UInt8) (quote : c ≠ 0x22) :
    outsideBytes .outside (c :: rest) = c :: outsideBytes .outside rest := by
  simp [outsideBytes_cons, TextPlace.after, quote]

theorem outsideBytes_escape (c : UInt8) (rest : List UInt8) :
    outsideBytes .inside (0x5c :: c :: rest) = outsideBytes .inside rest := by
  simp [outsideBytes_cons, TextPlace.after]

theorem outsideBytes_character (c : UInt8) (rest : List UInt8) (quote : c ≠ 0x22)
    (backslash : c ≠ 0x5c) : outsideBytes .inside (c :: rest) = outsideBytes .inside rest := by
  simp [outsideBytes_cons, TextPlace.after, quote, backslash]

def Nested (depth : Nat) (outer : List UInt8) : Prop :=
  ∀ n, depth + (outer.take n).countP opening ≤ (outer.take n).countP closing + 8

theorem Nested.cons (depth : Nat) (c : UInt8) (outer : List UInt8) (shallow : depth ≤ 8)
    (step : Nat) (moved : depth + (if opening c then 1 else 0) ≤ step + (if closing c then 1 else 0))
    (later : Nested step outer) : Nested depth (c :: outer) := by
  intro n
  cases n with
  | zero => simpa using shallow
  | succ n =>
    have rest := later n
    simp only [List.take_succ_cons, List.countP_cons]
    omega

theorem Nested.append (depth : Nat) (text outer : List UInt8) (shallow : depth ≤ 8)
    (flat : ∀ c ∈ text, opening c = false) (later : Nested depth outer) :
    Nested depth (text ++ outer) := by
  induction text with
  | nil => exact later
  | cons c text ih =>
    have here := flat c List.mem_cons_self
    have rest := ih (fun d member => flat d (List.mem_cons_of_mem c member))
    exact Nested.cons depth c _ shallow depth (by simp [here]) rest

theorem integer_flat (text : List UInt8) (spelled : integerText text = true) :
    ∀ c ∈ text, opening c = false ∧ separator c = false := by
  intro c member
  rcases integerText_bytes text spelled c member with digit | minus
  · simp only [isDigit, Bool.and_eq_true, decide_eq_true_eq] at digit
    simp only [opening, separator]
    grind
  · subst minus
    decide

/-- A scan as it is seen outside the strings. -/
inductive Outer : Nat → Nat → List UInt8 → Prop
  | ended (members : Nat) : Outer 0 members []
  | flat (depth members : Nat) (c : UInt8) (rest : List UInt8)
      (plain : opening c = false ∧ closing c = false ∧ separator c = false ∧ numberStart c = false)
      (later : Outer depth members rest) : Outer depth members (c :: rest)
  | separated (depth members : Nat) (c : UInt8) (rest : List UInt8) (mark : separator c = true)
      (room : members + 1 ≤ 128) (later : Outer depth (members + 1) rest) :
      Outer depth members (c :: rest)
  | entered (depth members : Nat) (c : UInt8) (rest : List UInt8) (mark : opening c = true)
      (room : depth + 1 ≤ 8) (later : Outer (depth + 1) members rest) : Outer depth members (c :: rest)
  | left (depth members : Nat) (c : UInt8) (rest : List UInt8) (mark : closing c = true)
      (later : Outer depth members rest) : Outer (depth + 1) members (c :: rest)
  | number (depth members : Nat) (text rest : List UInt8) (spelled : integerText text = true)
      (stopped : numberEnd rest = true) (later : Outer depth members rest) :
      Outer depth members (text ++ rest)

theorem Scanned.outer {quoted : Bool} {depth members : Nat} {s : List UInt8}
    (scanned : Scanned quoted depth members s) :
    Outer depth members (outsideBytes (scanPlace quoted) s) := by
  induction scanned with
  | ended members => exact .ended members
  | wide depth members c rest large later ih =>
    rw [scanPlace, if_pos rfl, outsideBytes_wide c rest large]
    exact ih
  | closed depth members rest later ih => exact ih
  | escape depth members c rest visible later ih =>
    rw [scanPlace, if_pos rfl, outsideBytes_escape]
    exact ih
  | character depth members c rest least ascii quote backslash later ih =>
    rw [scanPlace, if_pos rfl, outsideBytes_character c rest quote backslash]
    exact ih
  | separated depth members c rest mark room later ih =>
    have quote : c ≠ 0x22 := by
      simp only [separator] at mark
      grind
    rw [scanPlace, if_neg (by decide), outsideBytes_step c rest quote]
    exact .separated depth members c _ mark room ih
  | opened depth members rest later ih => exact .flat depth members 0x22 _ (by decide) ih
  | entered depth members c rest mark room later ih =>
    have quote : c ≠ 0x22 := by
      simp only [opening] at mark
      grind
    rw [scanPlace, if_neg (by decide), outsideBytes_step c rest quote]
    exact .entered depth members c _ mark room ih
  | left depth members c rest mark later ih =>
    have quote : c ≠ 0x22 := by
      simp only [closing] at mark
      grind
    rw [scanPlace, if_neg (by decide), outsideBytes_step c rest quote]
    exact .left depth members c _ mark ih
  | number depth members text rest spelled stopped later ih =>
    have ended : numberEnd (outsideBytes .outside rest) = true := by
      rw [numberEnd, outsideBytes_head]
      exact stopped
    rw [scanPlace, if_neg (by decide), outsideBytes_integer text rest spelled]
    exact .number depth members text _ spelled ended ih
  | other depth members c rest plain later ih =>
    simp only [unscanned, Bool.and_eq_true, Bool.not_eq_true', bne_iff_ne] at plain
    rw [scanPlace, if_neg (by decide), outsideBytes_step c rest plain.1.1.1.1.2]
    exact .flat depth members c _ ⟨plain.1.1.2, plain.1.2, plain.1.1.1.2, plain.2⟩ ih

theorem Outer.nested {depth members : Nat} {o : List UInt8} (outer : Outer depth members o)
    (shallow : depth ≤ 8) : Nested depth o := by
  induction outer with
  | ended members => simp [Nested]
  | flat depth members c rest plain later ih =>
    exact Nested.cons depth c _ shallow depth (by simp [plain.1]) (ih shallow)
  | separated depth members c rest mark room later ih =>
    have flat : opening c = false := by
      simp only [separator, opening] at *
      grind
    exact Nested.cons depth c _ shallow depth (by simp [flat]) (ih shallow)
  | entered depth members c rest mark room later ih =>
    exact Nested.cons depth c _ shallow (depth + 1) (by simp [mark]) (ih room)
  | left depth members c rest mark later ih =>
    have flat : opening c = false := by
      simp only [closing, opening] at *
      grind
    exact Nested.cons (depth + 1) c _ shallow depth (by simp [mark, flat]) (ih (by omega))
  | number depth members text rest spelled stopped later ih =>
    exact Nested.append depth text _ shallow (fun c member => (integer_flat text spelled c member).1)
      (ih shallow)

theorem Outer.separators {depth members : Nat} {o : List UInt8} (outer : Outer depth members o)
    (few : members ≤ 128) : members + o.countP separator ≤ 128 := by
  induction outer with
  | ended members => simpa using few
  | flat depth members c rest plain later ih =>
    rw [List.countP_cons_of_neg (by simp [plain.2.2.1])]
    exact ih few
  | separated depth members c rest mark room later ih =>
    have counted := ih room
    rw [List.countP_cons_of_pos mark]
    omega
  | entered depth members c rest mark room later ih =>
    have flat : separator c = false := by
      simp only [opening, separator] at *
      grind
    rw [List.countP_cons_of_neg (by simp [flat])]
    exact ih few
  | left depth members c rest mark later ih =>
    have flat : separator c = false := by
      simp only [closing, separator] at *
      grind
    rw [List.countP_cons_of_neg (by simp [flat])]
    exact ih few
  | number depth members text rest spelled stopped later ih =>
    have none : text.countP separator = 0 := by
      rw [List.countP_eq_zero]
      intro c member
      simp [(integer_flat text spelled c member).2]
    rw [List.countP_append, none, Nat.zero_add]
    exact ih few

theorem numberEnd_tail (c : UInt8) (rest : List UInt8) (stopped : numberEnd (c :: rest) = true) :
    isDigit c = false ∧ c ≠ 0x2e ∧ c ≠ 0x65 ∧ c ≠ 0x45 := by
  simpa [numberEnd, headIs, and_assoc] using stopped

theorem numberText_stopped (rest : List UInt8) (stopped : numberEnd rest = true) :
    rest.takeWhile isDigit = [] ∧ takeFraction rest = [] ∧ takeExponent rest = [] := by
  cases rest with
  | nil => simp [takeFraction, takeExponent]
  | cons c rest =>
    have tail := numberEnd_tail c rest stopped
    simp [takeFraction, takeExponent, tail]

theorem numberText_integer (text rest : List UInt8) (spelled : integerText text = true)
    (stopped : numberEnd rest = true) : numberText (text ++ rest) = text := by
  obtain ⟨digits, fraction, exponent⟩ := numberText_stopped rest stopped
  cases text with
  | nil => cases spelled
  | cons c more =>
    rw [integerText] at spelled
    split at spelled
    next minus =>
      have run := (unsignedText_digits more spelled).2
      have taken : (more ++ rest).takeWhile isDigit = more := by
        rw [List.takeWhile_append_of_pos run, digits, List.append_nil]
      have sign : takeSign (c :: more ++ rest) = [c] := by simp [takeSign, minus]
      have past : (c :: (more ++ rest)).drop (1 + more.length) = rest := by
        rw [Nat.add_comm]
        simp
      simp only [numberText, sign]
      simp [taken, past, fraction, exponent]
    next plain =>
      have run := (unsignedText_digits _ spelled).2
      have unsigned : ¬(c = 0x2b ∨ c = 0x2d) := by
        have first := run c List.mem_cons_self
        rintro (rfl | rfl)
        · exact absurd first (by decide)
        · exact absurd first (by decide)
      have taken : (c :: more ++ rest).takeWhile isDigit = c :: more := by
        rw [List.takeWhile_append_of_pos run, digits, List.append_nil]
      have sign : takeSign (c :: more ++ rest) = [] := by simp [takeSign, unsigned]
      simp only [numberText, sign, List.length_nil, List.drop_zero, taken]
      simp [fraction, exponent]

theorem Outer.numbers {depth members : Nat} {o : List UInt8} (outer : Outer depth members o)
    (fuel : Nat) : ∀ token ∈ tokensLoop fuel o, integerText token = true := by
  induction outer generalizing fuel with
  | ended members => cases fuel <;> simp [tokensLoop]
  | flat depth members c rest plain later ih =>
    cases fuel with
    | zero => simp [tokensLoop]
    | succ fuel => simpa [tokensLoop, plain.2.2.2] using ih fuel
  | separated depth members c rest mark room later ih =>
    have plain : numberStart c = false := by
      simp only [separator, numberStart, isDigit] at *
      grind
    cases fuel with
    | zero => simp [tokensLoop]
    | succ fuel => simpa [tokensLoop, plain] using ih fuel
  | entered depth members c rest mark room later ih =>
    have plain : numberStart c = false := by
      simp only [opening, numberStart, isDigit] at *
      grind
    cases fuel with
    | zero => simp [tokensLoop]
    | succ fuel => simpa [tokensLoop, plain] using ih fuel
  | left depth members c rest mark later ih =>
    have plain : numberStart c = false := by
      simp only [closing, numberStart, isDigit] at *
      grind
    cases fuel with
    | zero => simp [tokensLoop]
    | succ fuel => simpa [tokensLoop, plain] using ih fuel
  | number depth members text rest spelled stopped later ih =>
    cases fuel with
    | zero => simp [tokensLoop]
    | succ fuel =>
      have token := numberText_integer text rest spelled stopped
      cases text with
      | nil => cases spelled
      | cons c more =>
        have starts : numberStart c = true := by
          rcases integerText_bytes _ spelled c List.mem_cons_self with digit | minus
          · simp [numberStart, digit]
          · simp [numberStart, minus]
        rw [List.cons_append] at token ⊢
        simp only [tokensLoop, starts, if_true, token]
        intro found member
        rcases List.mem_cons.mp member with rfl | later
        · exact spelled
        · exact ih fuel found (by simpa using later)

theorem isDigit_ascii (c : UInt8) (digit : isDigit c = true) : 0x20 ≤ c ∧ c < 0x80 := by
  simp only [isDigit, Bool.and_eq_true, decide_eq_true_eq] at digit
  grind

theorem Scanned.outside {quoted : Bool} {depth members : Nat} {s : List UInt8}
    (scanned : Scanned quoted depth members s) :
    ∀ c ∈ outsideBytes (scanPlace quoted) s,
      c < 0x80 ∧ (0x20 ≤ c ∨ c = 0x09 ∨ c = 0x0d ∨ c = 0x0a) := by
  induction scanned with
  | ended members => simp [scanPlace]
  | wide depth members c rest large later ih =>
    rw [scanPlace, if_pos rfl, outsideBytes_wide c rest large]
    exact ih
  | closed depth members rest later ih => exact ih
  | escape depth members c rest visible later ih =>
    rw [scanPlace, if_pos rfl, outsideBytes_escape]
    exact ih
  | character depth members c rest least ascii quote backslash later ih =>
    rw [scanPlace, if_pos rfl, outsideBytes_character c rest quote backslash]
    exact ih
  | separated depth members c rest mark room later ih =>
    have here : c ≠ 0x22 ∧ c < 0x80 ∧ 0x20 ≤ c := by
      simp only [separator] at mark
      grind
    rw [scanPlace, if_neg (by decide), outsideBytes_step c rest here.1]
    exact List.forall_mem_cons.mpr ⟨⟨here.2.1, .inl here.2.2⟩, ih⟩
  | opened depth members rest later ih =>
    exact List.forall_mem_cons.mpr ⟨by decide, ih⟩
  | entered depth members c rest mark room later ih =>
    have here : c ≠ 0x22 ∧ c < 0x80 ∧ 0x20 ≤ c := by
      simp only [opening] at mark
      grind
    rw [scanPlace, if_neg (by decide), outsideBytes_step c rest here.1]
    exact List.forall_mem_cons.mpr ⟨⟨here.2.1, .inl here.2.2⟩, ih⟩
  | left depth members c rest mark later ih =>
    have here : c ≠ 0x22 ∧ c < 0x80 ∧ 0x20 ≤ c := by
      simp only [closing] at mark
      grind
    rw [scanPlace, if_neg (by decide), outsideBytes_step c rest here.1]
    exact List.forall_mem_cons.mpr ⟨⟨here.2.1, .inl here.2.2⟩, ih⟩
  | number depth members text rest spelled stopped later ih =>
    rw [scanPlace, if_neg (by decide), outsideBytes_integer text rest spelled]
    intro c member
    rcases List.mem_append.mp member with inText | later
    · rcases integerText_bytes text spelled c inText with digit | minus
      · exact ⟨(isDigit_ascii c digit).2, .inl (isDigit_ascii c digit).1⟩
      · subst minus
        decide
    · exact ih c later
  | other depth members c rest plain later ih =>
    have here : c ≠ 0x22 ∧ c < 0x80 ∧ (0x20 ≤ c ∨ c = 0x09 ∨ c = 0x0d ∨ c = 0x0a) := by
      simp only [unscanned] at plain
      grind
    rw [scanPlace, if_neg (by decide), outsideBytes_step c rest here.1]
    exact List.forall_mem_cons.mpr ⟨here.2, ih⟩

theorem mem_outsideBytes (place : TextPlace) (s : List UInt8) (c : UInt8) :
    c ∈ outsideBytes place s ↔ (.outside, c) ∈ marked place s := by
  simp [outsideBytes, List.mem_filterMap]

theorem wellFormed_nil : WellFormedUtf8 [] := ⟨[], rfl⟩

theorem wellFormed_char (c : Char) (rest : List UInt8) :
    WellFormedUtf8 (String.utf8EncodeChar c ++ rest) ↔ WellFormedUtf8 rest := by
  constructor
  · rintro ⟨chars, split⟩
    cases chars with
    | nil =>
      have empty := (List.append_eq_nil_iff.mp split).1
      exact absurd empty String.utf8EncodeChar_ne_nil
    | cons d chars =>
      rw [List.flatMap_cons] at split
      exact ⟨chars, (utf8EncodeChar_starts c d rest _ split).2⟩
  · rintro ⟨chars, rfl⟩
    exact ⟨c :: chars, rfl⟩

theorem ascii_char (c : UInt8) (ascii : c < 0x80) :
    ∃ char : Char, String.utf8EncodeChar char = [c] := by
  have small : c.toNat < 0x80 := by simpa [UInt8.lt_iff_toNat_lt] using ascii
  have scalar : c.toNat.isValidChar := .inl (by omega)
  refine ⟨Char.ofNatAux c.toNat scalar, ?_⟩
  rw [utf8EncodeChar_ascii (Char.ofNatAux c.toNat scalar) small, Unicode.ofNatAux_toNat, UInt8.ofNat_toNat]

theorem wellFormed_ascii (c : UInt8) (rest : List UInt8) (ascii : c < 0x80) :
    WellFormedUtf8 (c :: rest) ↔ WellFormedUtf8 rest := by
  obtain ⟨char, written⟩ := ascii_char c ascii
  have same := wellFormed_char char rest
  rwa [written] at same

theorem wellFormed_text (text rest : List UInt8) (ascii : ∀ c ∈ text, c < 0x80) :
    WellFormedUtf8 (text ++ rest) ↔ WellFormedUtf8 rest := by
  induction text with
  | nil => rfl
  | cons c text ih =>
    have later := ih (fun d member => ascii d (List.mem_cons_of_mem c member))
    rw [List.cons_append, wellFormed_ascii c _ (ascii c List.mem_cons_self), later]

def Visible (place : TextPlace) (s : List UInt8) : Prop :=
  ∀ site c, (site, c) ∈ marked place s → site ≠ .outside → 0x20 ≤ c

theorem visible_cons (place : TextPlace) (c : UInt8) (rest : List UInt8) :
    Visible place (c :: rest) ↔ (place ≠ .outside → 0x20 ≤ c) ∧ Visible (place.after c) rest := by
  simp [Visible, marked, or_imp, forall_and]

theorem escapesPlain_cons (place : TextPlace) (c : UInt8) (rest : List UInt8) :
    EscapesPlain place (c :: rest) ↔
      (place = .escaped → 0x20 ≤ c ∧ c < 0x80) ∧ EscapesPlain (place.after c) rest := by
  constructor
  · intro plain
    refine ⟨fun escaped => plain c (by simp [marked, escaped]), fun d later => plain d ?_⟩
    exact List.mem_cons_of_mem _ later
  · intro ⟨here, later⟩ d member
    rcases List.mem_cons.mp member with first | found
    · cases first
      exact here rfl
    · exact later d found

theorem visible_text (place : TextPlace) (text rest : List UInt8)
    (quiet : ∀ c ∈ text, place.after c = place) (least : place ≠ .outside → ∀ c ∈ text, 0x20 ≤ c) :
    Visible place (text ++ rest) ↔ Visible place rest := by
  induction text with
  | nil => rfl
  | cons c text ih =>
    have later := ih (fun d member => quiet d (List.mem_cons_of_mem c member))
      (fun strings d member => least strings d (List.mem_cons_of_mem c member))
    have here := fun strings => least strings c List.mem_cons_self
    rw [List.cons_append, visible_cons, quiet c List.mem_cons_self, later]
    exact and_iff_right here

theorem escapesPlain_text (place : TextPlace) (text rest : List UInt8)
    (quiet : ∀ c ∈ text, place.after c = place) (unescaped : place ≠ .escaped) :
    EscapesPlain place (text ++ rest) ↔ EscapesPlain place rest := by
  induction text with
  | nil => rfl
  | cons c text ih =>
    have later := ih (fun d member => quiet d (List.mem_cons_of_mem c member))
    rw [List.cons_append, escapesPlain_cons, quiet c List.mem_cons_self, later]
    simp [unescaped]

theorem wellFormed_continues (c : UInt8) (rest : List UInt8) (high : 0x80 ≤ c)
    (formed : WellFormedUtf8 (c :: rest)) :
    ∃ b more, rest = b :: more ∧ 0x80 ≤ b.toNat ∧ b.toNat < 0xc0 := by
  obtain ⟨chars, split⟩ := formed
  cases chars with
  | nil => cases split
  | cons char chars =>
    obtain ⟨first, tail, bits, minimum, reads⟩ := reads_char char
    rw [List.flatMap_cons, reads.written, List.cons_append, List.cons.injEq] at split
    obtain ⟨rfl, rfl⟩ := split
    cases tail with
    | nil =>
      rcases utf8Lead_inv c bits minimum 0 high reads.lead with impossible | impossible | impossible
      all_goals omega
    | cons b tail =>
      have small : bits.toNat < 2 ^ 26 := by
        rcases utf8Lead_inv c bits minimum _ high reads.lead with two | three | four
        all_goals omega
      obtain ⟨low, top, -⟩ := utf8Continue_inv bits char.val b tail small reads.read
      exact ⟨b, tail ++ chars.flatMap String.utf8EncodeChar, rfl, low, top⟩

theorem Scanned.head {depth members : Nat} {b : UInt8} {rest : List UInt8}
    (scanned : Scanned true depth members (b :: rest)) : b.toNat < 0x80 ∨ 0xc0 ≤ b.toNat := by
  have ascii (c : UInt8) (small : c < 0x80) : c.toNat < 0x80 := by
    simpa [UInt8.lt_iff_toNat_lt] using small
  generalize whole : b :: rest = s at scanned
  cases scanned with
  | wide depth members c after large later =>
    obtain ⟨first, tail, bits, minimum, reads⟩ := reads_char c
    rw [reads.written, List.cons_append, List.cons.injEq] at whole
    obtain ⟨rfl, -⟩ := whole
    have high := utf8EncodeChar_high c large b (by rw [reads.written]; exact List.mem_cons_self)
    rcases utf8Lead_inv b bits minimum _ high reads.lead with two | three | four
    all_goals omega
  | closed =>
    cases whole
    exact .inl (by decide)
  | escape =>
    cases whole
    exact .inl (by decide)
  | character _ _ c _ least small =>
    cases whole
    exact .inl (ascii b small)

theorem Scanned.strings {quoted : Bool} {depth members : Nat} {s : List UInt8}
    (scanned : Scanned quoted depth members s) :
    WellFormedUtf8 s ∧ Visible (scanPlace quoted) s ↔ EscapesPlain (scanPlace quoted) s := by
  induction scanned with
  | ended members => simp [wellFormed_nil, Visible, EscapesPlain, marked]
  | wide depth members c rest large later ih =>
    have least : ∀ byte ∈ String.utf8EncodeChar c, 0x20 ≤ byte := by
      intro byte member
      have high := utf8EncodeChar_high c large byte member
      grind
    rw [scanPlace, if_pos rfl] at ih ⊢
    rw [wellFormed_char, visible_text .inside _ rest (wide_quiet c large) (fun _ => least),
      escapesPlain_text .inside _ rest (wide_quiet c large) (by decide)]
    exact ih
  | closed depth members rest later ih =>
    rw [scanPlace, if_pos rfl]
    rw [scanPlace, if_neg (by decide)] at ih
    simpa [wellFormed_ascii, visible_cons, escapesPlain_cons, TextPlace.after] using ih
  | escape depth members c rest visible later ih =>
    rw [scanPlace, if_pos rfl] at ih ⊢
    simp only [wellFormed_ascii 0x5c _ (by decide), visible_cons, escapesPlain_cons, TextPlace.after]
    by_cases ascii : c < 0x80
    · have formed := wellFormed_ascii c rest ascii
      simp [formed, ascii]
      tauto
    · have high : 0x80 ≤ c := by simpa using ascii
      have unformed : ¬WellFormedUtf8 (c :: rest) := by
        intro formed
        obtain ⟨b, more, rfl, low, top⟩ := wellFormed_continues c rest high formed
        have head := later.head
        omega
      simp [unformed, ascii]
  | character depth members c rest least ascii quote backslash later ih =>
    rw [scanPlace, if_pos rfl] at ih ⊢
    simpa [wellFormed_ascii c rest ascii, visible_cons, escapesPlain_cons, TextPlace.after, quote, backslash,
      least] using ih
  | separated depth members c rest mark room later ih =>
    have here : c ≠ 0x22 ∧ c < 0x80 := by
      simp only [separator] at mark
      grind
    rw [scanPlace, if_neg (by decide)] at ih ⊢
    simpa [wellFormed_ascii c rest here.2, visible_cons, escapesPlain_cons, TextPlace.after, here.1] using ih
  | opened depth members rest later ih =>
    rw [scanPlace, if_neg (by decide)]
    rw [scanPlace, if_pos rfl] at ih
    simpa [wellFormed_ascii, visible_cons, escapesPlain_cons, TextPlace.after] using ih
  | entered depth members c rest mark room later ih =>
    have here : c ≠ 0x22 ∧ c < 0x80 := by
      simp only [opening] at mark
      grind
    rw [scanPlace, if_neg (by decide)] at ih ⊢
    simpa [wellFormed_ascii c rest here.2, visible_cons, escapesPlain_cons, TextPlace.after, here.1] using ih
  | left depth members c rest mark later ih =>
    have here : c ≠ 0x22 ∧ c < 0x80 := by
      simp only [closing] at mark
      grind
    rw [scanPlace, if_neg (by decide)] at ih ⊢
    simpa [wellFormed_ascii c rest here.2, visible_cons, escapesPlain_cons, TextPlace.after, here.1] using ih
  | number depth members text rest spelled stopped later ih =>
    have ascii : ∀ c ∈ text, c < 0x80 := by
      intro c member
      rcases integerText_bytes text spelled c member with digit | minus
      · exact (isDigit_ascii c digit).2
      · subst minus
        decide
    rw [scanPlace, if_neg (by decide)] at ih ⊢
    rw [wellFormed_text text rest ascii,
      visible_text .outside text rest (integer_quiet text spelled) (fun strings => absurd rfl strings),
      escapesPlain_text .outside text rest (integer_quiet text spelled) (by decide)]
    exact ih
  | other depth members c rest plain later ih =>
    have here : c ≠ 0x22 ∧ c < 0x80 := by
      simp only [unscanned] at plain
      grind
    rw [scanPlace, if_neg (by decide)] at ih ⊢
    simpa [wellFormed_ascii c rest here.2, visible_cons, escapesPlain_cons, TextPlace.after, here.1] using ih

theorem mem_marked (place : TextPlace) (s : List UInt8) (c : UInt8) (member : c ∈ s) :
    ∃ site, (site, c) ∈ marked place s := by
  induction s generalizing place with
  | nil => cases member
  | cons d rest ih =>
    rcases List.mem_cons.mp member with rfl | later
    · exact ⟨place, List.mem_cons_self⟩
    · obtain ⟨site, found⟩ := ih (place.after d) later
      exact ⟨site, List.mem_cons_of_mem _ found⟩

/-- An accepted text is as promised exactly when its escapes are printable. -/
theorem validBytes_prescanned (s : List UInt8) (accepted : validBytes s = true) :
    Prescanned s ↔ EscapesPlain .outside s := by
  have scanned : Scanned false 0 0 s := scanLoop_scanned _ _ _ _ _ accepted
  have outer : Outer 0 0 (outsideBytes .outside s) := scanned.outer
  have strings : WellFormedUtf8 s ∧ Visible .outside s ↔ EscapesPlain .outside s := scanned.strings
  have outside : ∀ c, (.outside, c) ∈ marked .outside s →
      c < 0x80 ∧ (0x20 ≤ c ∨ c = 0x09 ∨ c = 0x0d ∨ c = 0x0a) := by
    intro c member
    exact scanned.outside c ((mem_outsideBytes .outside s c).mpr member)
  rw [← strings]
  constructor
  · intro prescanned
    exact ⟨prescanned.utf8, prescanned.inside⟩
  · intro ⟨utf8, inside⟩
    have nonzero : 0 ∉ s := by
      intro zero
      obtain ⟨site, found⟩ := mem_marked .outside s 0 zero
      by_cases place : site = .outside
      · rw [place] at found
        exact absurd (outside 0 found).2 (by decide)
      · exact absurd (inside site 0 found place) (by decide)
    have depth := outer.nested (by decide)
    have members := outer.separators (by decide)
    exact
      { nonzero, utf8, outside, inside
        depth := fun n => by simpa using depth n
        members := by simpa using members
        numbers := outer.numbers _ }

theorem validBytes_escapes :
    ¬∀ s, validBytes s = true → Prescanned s := by
  intro sound
  have accepted : validBytes [0x22, 0x5c, 0x01, 0x22] = true := by decide
  have inside := (sound _ accepted).inside .escaped 0x01 (by decide) (by decide)
  exact absurd inside (by decide)

theorem validBytes_prescanned_newline :
    validBytes [0x22, 0x5c, 0x6e, 0x22] = true ∧
      (Prescanned [0x22, 0x5c, 0x6e, 0x22] ↔ EscapesPlain .outside [0x22, 0x5c, 0x6e, 0x22]) := by
  have accepted : validBytes [0x22, 0x5c, 0x6e, 0x22] = true := by decide
  exact ⟨accepted, validBytes_prescanned _ accepted⟩

end EspBase

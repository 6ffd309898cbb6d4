import EspBase.Network.FrpStatus
import EspBase.Protocol.CommandScan

set_option autoImplicit false

/-!
# What the strings of an accepted text decode to

The literals are those of the text; their decoding is cJSON's.
-/

namespace EspBase

def frpStatusKeys : List String :=
  ["protocol_version", "device_id", "target_boot_id", "request_id", "command", "expires_at_uptime_ms"]

def ebaseParseFrpStatus (build : DecoderBuild) (json : List UInt8) : ParsedStatus :=
  let invalid : ParsedStatus := { error := some "invalid_request", request := .zero }
  if json.length = 0 ∨ json.length > 512 ∨ !validBytes json then invalid
  else match build.cjson json with
    | none => invalid
    | some (tree, finish) =>
      let root := some tree
      if (json.drop finish).dropWhile isSpace ≠ [] ∨ !exactKeys root frpStatusKeys ∨
          !isNumber (objectItem root "protocol_version") 1
      then invalid
      else match stringOf (objectItem root "command"), copyId root "device_id",
          copyId root "target_boot_id", copyId root "request_id",
          wholeNumber 0 9007199254740991 (objectItem root "expires_at_uptime_ms") with
        | some command, some deviceId, some bootId, some requestId, some expiresAtMs =>
          if command.bytes ≠ bytesOf "status" then invalid
          else
            { error := none
              request := { Request.zero with requestId, deviceId, bootId, expiresAtMs } }
        | _, _, _, _, _ => invalid

-- A byte of the literal that is open; without one there is no literal to put it in.
def prepend (c : UInt8) : List (List UInt8) → List (List UInt8)
  | [] => []
  | text :: others => (c :: text) :: others

def literals : TextPlace → List UInt8 → List (List UInt8)
  | _, [] => []
  | .outside, c :: rest => literals (TextPlace.after .outside c) rest
  | .inside, c :: rest =>
    if c = 0x22 then [] :: literals .outside rest else prepend c (literals (TextPlace.after .inside c) rest)
  | .escaped, c :: rest => prepend c (literals .inside rest)

def hexValue (c : UInt8) : Option Nat :=
  if isDigit c then some (c.toNat - 0x30)
  else if 0x61 ≤ c ∧ c ≤ 0x66 then some (c.toNat - 0x61 + 10)
  else if 0x41 ≤ c ∧ c ≤ 0x46 then some (c.toNat - 0x41 + 10)
  else none

-- `parse_hex4` reads anything but four digits as zero.
def parseHex4 : List UInt8 → Nat
  | [a, b, c, d] =>
    match hexValue a, hexValue b, hexValue c, hexValue d with
    | some a, some b, some c, some d => ((a * 16 + b) * 16 + c) * 16 + d
    | _, _, _, _ => 0
  | _ => 0

def simpleEscape (c : UInt8) : Option UInt8 :=
  if c = 0x62 then some 0x08
  else if c = 0x66 then some 0x0c
  else if c = 0x6e then some 0x0a
  else if c = 0x72 then some 0x0d
  else if c = 0x74 then some 0x09
  else if c = 0x22 ∨ c = 0x5c ∨ c = 0x2f then some c
  else none

-- The code point after `\u` and what follows; the digits must end before the closing quote.
def unicodeEscape (rest : List UInt8) : Option (Nat × List UInt8) :=
  if rest.length < 4 then none
  else
    let first := parseHex4 (rest.take 4)
    if 0xdc00 ≤ first ∧ first ≤ 0xdfff then none
    else if 0xd800 ≤ first ∧ first ≤ 0xdbff then
      if rest.length < 10 ∨ (rest.drop 4).take 2 ≠ [0x5c, 0x75] then none
      else
        let second := parseHex4 ((rest.drop 6).take 4)
        if second < 0xdc00 ∨ second > 0xdfff then none
        else some (0x10000 + (first - 0xd800) * 0x400 + (second - 0xdc00), rest.drop 10)
    else some (first, rest.drop 4)

def decodeLoop : Nat → List UInt8 → Option (List UInt8)
  | _, [] => some []
  | 0, _ :: _ => none
  | fuel + 1, c :: rest =>
    if c ≠ 0x5c then (decodeLoop fuel rest).map (c :: ·)
    else match rest with
      | [] => none
      | escape :: rest =>
        if escape = 0x75 then
          match unicodeEscape rest with
          | none => none
          | some (point, rest) =>
            (decodeLoop fuel rest).map (String.utf8EncodeChar (Char.ofNat point) ++ ·)
        else match simpleEscape escape with
          | none => none
          | some byte => (decodeLoop fuel rest).map (byte :: ·)

def decodeLiteral (text : List UInt8) : Option (List UInt8) := decodeLoop text.length text

mutual
def CJson.strings : CJson → List CString
  | .string value => [value]
  | .array items => itemStrings items
  | .object items => memberStrings items
  | _ => []
def itemStrings : List CJson → List CString
  | [] => []
  | item :: rest => item.strings ++ itemStrings rest
def memberStrings : List (CString × CJson) → List CString
  | [] => []
  | (key, value) :: rest => key :: (value.strings ++ memberStrings rest)
end

/-- The keys and strings of a tree are the literals of its text, decoded and cut at their first NUL. -/
def CJsonReads (cjson : List UInt8 → Option (CJson × Nat)) (json : List UInt8) : Prop :=
  ∀ tree finish, cjson json = some (tree, finish) →
    ∃ texts, (literals .outside (json.take finish)).mapM decodeLiteral = some texts ∧
      tree.strings = texts.map CString.ofBytes

def Accepts (build : DecoderBuild) (json : List UInt8) : Prop :=
  (ebaseParseCommand build json).error = none ∨ (ebaseParseFrpStatus build json).error = none

def NulFree (json : List UInt8) : Prop :=
  ∀ literal ∈ literals .outside json, ∀ text, decodeLiteral literal = some text → 0 ∉ text

-- Whether every `\u` of a literal is followed as told.
def unicodeEscapes (accepts : List UInt8 → Bool) : Bool → List UInt8 → Bool
  | _, [] => true
  | true, c :: rest => (c != 0x75 || accepts rest) && unicodeEscapes accepts false rest
  | false, c :: rest => unicodeEscapes accepts (c == 0x5c) rest

def hexFollows (rest : List UInt8) : Bool :=
  (rest.take 4).length == 4 && (rest.take 4).all (fun c => (hexValue c).isSome)

/-- Every `\u` in a string literal is followed by four hexadecimal digits. -/
def HexEscapes (json : List UInt8) : Prop :=
  ∀ literal ∈ literals .outside json, unicodeEscapes hexFollows false literal = true

theorem utf8EncodeChar_nul (point : Nat) (valid : point.isValidChar) :
    0 ∈ String.utf8EncodeChar (Char.ofNat point) ↔ point = 0 := by
  have value : (Char.ofNat point).toNat = point := by
    rw [Char.ofNat, dif_pos valid]
    rfl
  by_cases small : point < 0x80
  · rw [Unicode.utf8EncodeChar_ascii _ (by omega), value, List.mem_singleton]
    constructor
    · intro zero
      have bits := congrArg UInt8.toNat zero
      simp only [UInt8.toNat_ofNat', UInt8.reduceToNat] at bits
      omega
    · rintro rfl
      rfl
  · constructor
    · intro member
      have high := Unicode.utf8EncodeChar_high _ (by omega) 0 member
      exact absurd high (by decide)
    · omega

theorem simpleEscape_nonzero (c byte : UInt8) (known : simpleEscape c = some byte) :
    byte ≠ 0 ∧ c ≠ 0x75 := by
  unfold simpleEscape at known
  grind

theorem hexValue_bound (c : UInt8) (value : Nat) (digit : hexValue c = some value) :
    value < 16 ∧ (value = 0 → c = 0x30) := by
  have same (zero : c.toNat = 0x30) : c = 0x30 := UInt8.toNat.inj zero
  simp only [hexValue, isDigit, Bool.and_eq_true, decide_eq_true_eq, UInt8.le_iff_toNat_le,
    UInt8.reduceToNat] at digit
  split at digit
  · cases digit
    exact ⟨by omega, fun zero => same (by omega)⟩
  split at digit
  · cases digit
    exact ⟨by omega, by omega⟩
  split at digit
  · cases digit
    exact ⟨by omega, by omega⟩
  · cases digit

theorem parseHex4_cases (digits : List UInt8) :
    (digits.length = 4 ∧ digits.all (fun c => (hexValue c).isSome) = true ∧ parseHex4 digits < 0x10000 ∧
      (parseHex4 digits = 0 → digits = [0x30, 0x30, 0x30, 0x30])) ∨
      (¬(digits.length = 4 ∧ digits.all (fun c => (hexValue c).isSome) = true) ∧ parseHex4 digits = 0) := by
  by_cases four : digits.length = 4
  · match digits, four with
    | [a, b, c, d], _ =>
      by_cases all : [a, b, c, d].all (fun c => (hexValue c).isSome) = true
      · have values := all
        simp only [List.all_cons, List.all_nil, Bool.and_true, Bool.and_eq_true,
          Option.isSome_iff_exists] at values
        obtain ⟨⟨first, one⟩, ⟨second, two⟩, ⟨third, three⟩, ⟨fourth, last⟩⟩ := values
        have boundA := hexValue_bound a first one
        have boundB := hexValue_bound b second two
        have boundC := hexValue_bound c third three
        have boundD := hexValue_bound d fourth last
        have value : parseHex4 [a, b, c, d] = ((first * 16 + second) * 16 + third) * 16 + fourth := by
          simp [parseHex4, one, two, three, last]
        refine .inl ⟨rfl, all, by omega, ?_⟩
        intro zero
        rw [boundA.2 (by omega), boundB.2 (by omega), boundC.2 (by omega), boundD.2 (by omega)]
      · refine .inr ⟨fun both => all both.2, ?_⟩
        simp only [parseHex4]
        split
        next one two three last => simp [one, two, three, last] at all
        next => rfl
  · refine .inr ⟨fun both => four both.1, ?_⟩
    unfold parseHex4
    split
    · exact absurd rfl four
    · rfl

theorem hexFollows_iff (rest : List UInt8) :
    hexFollows rest = true ↔
      (rest.take 4).length = 4 ∧ (rest.take 4).all (fun c => (hexValue c).isSome) = true := by
  simp only [hexFollows, Bool.and_eq_true, beq_iff_eq]

def notZero (rest : List UInt8) : Bool := rest.take 4 != [0x30, 0x30, 0x30, 0x30]

theorem unicodeEscape_cases (rest after : List UInt8) (point : Nat)
    (read : unicodeEscape rest = some (point, after)) (visible : notZero rest = true) :
    point.isValidChar ∧
      ((hexFollows rest = false ∧ point = 0 ∧ after = rest.drop 4) ∨
        (hexFollows rest = true ∧ point ≠ 0 ∧ after = rest.drop 4) ∨
        (hexFollows rest = true ∧ point ≠ 0 ∧ after = rest.drop 10 ∧
          (rest.drop 4).take 2 = [0x5c, 0x75] ∧ hexFollows (rest.drop 6) = true)) := by
  unfold unicodeEscape at read
  split at read
  · cases read
  next room =>
    have first := parseHex4_cases (rest.take 4)
    have follows := hexFollows_iff rest
    simp only [Option.ite_none_left_eq_some] at read
    obtain ⟨unpaired, read⟩ := read
    split at read
    next high =>
      simp only [Option.ite_none_left_eq_some, Option.some.injEq, Prod.mk.injEq] at read
      obtain ⟨pair, low, value, rfl⟩ := read
      have second := parseHex4_cases ((rest.drop 6).take 4)
      have digits := hexFollows_iff (rest.drop 6)
      have valid : point.isValidChar := by
        simp only [Nat.isValidChar]
        omega
      have joined : (rest.drop 4).take 2 = [0x5c, 0x75] := not_not.mp (fun other => pair (.inr other))
      refine ⟨valid, .inr (.inr ⟨?_, by omega, rfl, joined, ?_⟩)⟩
      · rcases first with known | unknown
        · exact follows.mpr ⟨known.1, known.2.1⟩
        · omega
      · rcases second with known | unknown
        · exact digits.mpr ⟨known.1, known.2.1⟩
        · omega
    next single =>
      simp only [Option.some.injEq, Prod.mk.injEq] at read
      obtain ⟨rfl, rfl⟩ := read
      have small : parseHex4 (rest.take 4) < 0x10000 := by omega
      have valid : (parseHex4 (rest.take 4)).isValidChar := by
        simp only [Nat.isValidChar]
        omega
      rcases first with known | unknown
      · have visible : rest.take 4 ≠ [0x30, 0x30, 0x30, 0x30] := by simpa [notZero] using visible
        exact ⟨valid, .inr (.inl ⟨follows.mpr ⟨known.1, known.2.1⟩,
          fun zero => visible (known.2.2.2 zero), rfl⟩)⟩
      · refine ⟨valid, .inl ⟨?_, unknown.2, rfl⟩⟩
        rw [← Bool.not_eq_true, follows]
        exact unknown.1

-- No byte of the literal is zero, those after a backslash apart.
def bareNonzero : Bool → List UInt8 → Bool
  | _, [] => true
  | true, _ :: rest => bareNonzero false rest
  | false, c :: rest => c != 0 && bareNonzero (c == 0x5c) rest

theorem hexFollows_drop (rest : List UInt8) (follows : hexFollows rest = true) :
    bareNonzero false rest = bareNonzero false (rest.drop 4) ∧
      ∀ accepts, unicodeEscapes accepts false rest = unicodeEscapes accepts false (rest.drop 4) := by
  have plain (c : UInt8) (digit : (hexValue c).isSome = true) :
      (c == 0x5c) = false ∧ (c != 0) = true := by
    rw [beq_eq_false_iff_ne, bne_iff_ne]
    constructor
    · rintro rfl
      exact absurd digit (by decide)
    · rintro rfl
      exact absurd digit (by decide)
  match rest, (hexFollows_iff rest).mp follows with
  | a :: b :: c :: d :: after, ⟨_, all⟩ =>
    simp only [List.take_succ_cons, List.take_zero, List.all_cons, List.all_nil, Bool.and_true,
      Bool.and_eq_true] at all
    have first := plain a all.1
    have second := plain b all.2.1
    have third := plain c all.2.2.1
    have fourth := plain d all.2.2.2
    simp [bareNonzero, unicodeEscapes, first, second, third, fourth]

theorem decodeLoop_nul (fuel : Nat) (literal text : List UInt8)
    (decoded : decodeLoop fuel literal = some text) (bare : bareNonzero false literal = true)
    (visible : unicodeEscapes notZero false literal = true) :
    0 ∉ text ↔ unicodeEscapes hexFollows false literal = true := by
  induction fuel generalizing literal text with
  | zero =>
    cases literal with
    | nil =>
      cases decoded
      simp [unicodeEscapes]
    | cons c rest => cases decoded
  | succ fuel ih =>
    cases literal with
    | nil =>
      cases decoded
      simp [unicodeEscapes]
    | cons c rest =>
      simp only [decodeLoop] at decoded
      split at decoded
      next plain =>
        obtain ⟨tail, read, rfl⟩ := Option.map_eq_some_iff.mp decoded
        have other : (c == 0x5c) = false := by simpa using plain
        simp only [bareNonzero, unicodeEscapes, other, Bool.and_eq_true, bne_iff_ne] at bare visible ⊢
        have later := ih rest tail read bare.2 visible
        rw [List.mem_cons, not_or, later]
        exact and_iff_right (Ne.symm bare.1)
      next backslash =>
      have backslash : c = 0x5c := not_not.mp backslash
      subst backslash
      cases rest with
      | nil => cases decoded
      | cons escape rest =>
        simp only [bareNonzero, unicodeEscapes, Bool.and_eq_true, bne_iff_ne, beq_self_eq_true,
          Bool.or_eq_true] at bare visible ⊢
        dsimp only at decoded
        split at decoded
        next unicode =>
          subst unicode
          have here : notZero rest = true := by simpa using visible.1
          split at decoded
          · cases decoded
          next point after read =>
            obtain ⟨tail, later, rfl⟩ := Option.map_eq_some_iff.mp decoded
            obtain ⟨valid, cases⟩ := unicodeEscape_cases rest after point read here
            have nul := utf8EncodeChar_nul point valid
            rw [List.mem_append, not_or, nul]
            rcases cases with zero | single | pair
            · simp [zero]
            · obtain ⟨follows, nonzero, rfl⟩ := single
              obtain ⟨bares, escapes⟩ := hexFollows_drop rest follows
              rw [bares] at bare
              rw [escapes] at visible ⊢
              have tails := ih _ tail later bare.2 visible.2
              simp [follows, nonzero, tails]
            · obtain ⟨follows, nonzero, rfl, joined, again⟩ := pair
              obtain ⟨bares, escapes⟩ := hexFollows_drop rest follows
              have split : rest.drop 4 = 0x5c :: 0x75 :: rest.drop 6 := by
                have whole := List.take_append_drop 2 (rest.drop 4)
                rw [joined, List.drop_drop] at whole
                exact whole.symm
              obtain ⟨bares', escapes'⟩ := hexFollows_drop (rest.drop 6) again
              rw [List.drop_drop] at bares' escapes'
              rw [bares, split] at bare
              rw [escapes, split] at visible ⊢
              simp only [bareNonzero, unicodeEscapes, Bool.and_eq_true, bne_iff_ne, beq_self_eq_true,
                Bool.or_eq_true] at bare visible ⊢
              rw [bares'] at bare
              rw [escapes'] at visible ⊢
              have tails := ih _ tail later bare.2.2 visible.2.2
              simp [follows, nonzero, again, tails]
        next simple =>
          split at decoded
          · cases decoded
          next byte known =>
            obtain ⟨tail, read, rfl⟩ := Option.map_eq_some_iff.mp decoded
            have nonzero := simpleEscape_nonzero escape byte known
            have later := ih rest tail read bare.2 visible.2
            simp [simple, later, Ne.symm nonzero.1]

def Scannable (literal : List UInt8) : Prop :=
  bareNonzero false literal = true ∧ unicodeEscapes notZero false literal = true

theorem mem_prepend (c : UInt8) (all : List (List UInt8)) (literal : List UInt8)
    (member : literal ∈ prepend c all) :
    ∃ first others, all = first :: others ∧ (literal = c :: first ∨ literal ∈ others) := by
  cases all with
  | nil => cases member
  | cons first others => exact ⟨first, others, rfl, List.mem_cons.mp member⟩

theorem literals_prefix (place : TextPlace) (s first : List UInt8) (others : List (List UInt8))
    (strings : place ≠ .outside) (read : literals place s = first :: others) : first <+: s := by
  induction s generalizing place first others with
  | nil => cases place <;> cases read
  | cons c rest ih =>
    have step (next : TextPlace) (inside : next ≠ .outside)
        (read : prepend c (literals next rest) = first :: others) : first <+: c :: rest := by
      cases later : literals next rest with
      | nil => simp [later, prepend] at read
      | cons head tail =>
        rw [later, prepend, List.cons.injEq] at read
        rw [← read.1]
        exact List.cons_prefix_cons.mpr ⟨rfl, ih next head tail inside later⟩
    cases place with
    | outside => exact absurd rfl strings
    | inside =>
      rw [literals] at read
      split at read
      · rw [List.cons.injEq] at read
        rw [← read.1]
        exact List.nil_prefix
      next quote =>
        refine step _ ?_ read
        simp only [TextPlace.after, quote, if_false]
        split <;> decide
    | escaped => exact step .inside (by decide) read

theorem literals_plain (c : UInt8) (rest : List UInt8) (quote : c ≠ 0x22) (backslash : c ≠ 0x5c)
    (nonzero : c ≠ 0) (later : ∀ literal ∈ literals .inside rest, Scannable literal) :
    ∀ literal ∈ literals .inside (c :: rest), Scannable literal := by
  intro literal member
  simp only [literals, quote, if_false, TextPlace.after, backslash] at member
  obtain ⟨first, others, split, here | there⟩ := mem_prepend c _ literal member
  · have good := later first (by simp [split])
    subst here
    simp only [Scannable, bareNonzero, unicodeEscapes, beq_eq_false_iff_ne.mpr backslash,
      bne_iff_ne.mpr nonzero, Bool.true_and]
    exact good
  · exact later literal (by simp [split, there])

theorem literals_wide (bytes rest : List UInt8) (high : ∀ byte ∈ bytes, 0x80 ≤ byte)
    (later : ∀ literal ∈ literals .inside rest, Scannable literal) :
    ∀ literal ∈ literals .inside (bytes ++ rest), Scannable literal := by
  induction bytes with
  | nil => exact later
  | cons byte bytes ih =>
    have large := high byte List.mem_cons_self
    have plain : byte ≠ 0x22 ∧ byte ≠ 0x5c ∧ byte ≠ 0 := by grind
    have tail := ih (fun c member => high c (List.mem_cons_of_mem byte member))
    exact literals_plain byte _ plain.1 plain.2.1 plain.2.2 tail

theorem literals_quiet (text rest : List UInt8)
    (quiet : ∀ c ∈ text, TextPlace.after .outside c = .outside) :
    literals .outside (text ++ rest) = literals .outside rest := by
  induction text with
  | nil => rfl
  | cons c text ih =>
    rw [List.cons_append, literals, quiet c List.mem_cons_self]
    exact ih (fun d member => quiet d (List.mem_cons_of_mem c member))

theorem Scanned.scannable {quoted : Bool} {depth members : Nat} {s : List UInt8}
    (scanned : Scanned quoted depth members s) :
    ∀ literal ∈ literals (scanPlace quoted) s, Scannable literal := by
  have single (c : UInt8) (rest : List UInt8) (quote : c ≠ 0x22) :
      literals .outside (c :: rest) = literals .outside rest :=
    literals_quiet [c] rest (by simp [TextPlace.after, quote])
  induction scanned with
  | ended members => simp [literals]
  | wide depth members c rest large later ih =>
    exact literals_wide _ rest (Unicode.utf8EncodeChar_high c large) ih
  | closed depth members rest later ih =>
    exact List.forall_mem_cons.mpr ⟨⟨rfl, rfl⟩, ih⟩
  | escape depth members c rest visible later ih =>
    intro literal member
    have escaped : literals .inside (0x5c :: c :: rest) =
        prepend 0x5c (prepend c (literals .inside rest)) := rfl
    rw [scanPlace, if_pos rfl] at member ih
    rw [escaped] at member
    obtain ⟨second, others, split, here⟩ := mem_prepend 0x5c _ literal member
    cases rest_literals : literals .inside rest with
    | nil => simp [rest_literals, prepend] at split
    | cons first more =>
      rw [rest_literals] at split ih
      rw [prepend, List.cons.injEq] at split
      obtain ⟨rfl, rfl⟩ := split
      rcases here with rfl | there
      · have good := ih first List.mem_cons_self
        have start := literals_prefix .inside rest first more (by decide) rest_literals
        have unicode : c ≠ 0x75 ∨ notZero first = true := by
          by_cases unicode : c = 0x75
          · right
            simp only [notZero, bne_iff_ne]
            intro zeros
            obtain ⟨after, rfl⟩ := start
            have four : 4 ≤ first.length := by
              have lengths := congrArg List.length zeros
              simp at lengths
              omega
            exact visible ⟨unicode, by rw [List.take_append_of_le_length four, zeros]⟩
          · exact .inl unicode
        refine ⟨good.1, ?_⟩
        simp only [unicodeEscapes, beq_self_eq_true, Bool.and_eq_true, Bool.or_eq_true, bne_iff_ne]
        exact ⟨unicode, good.2⟩
      · exact ih literal (List.mem_cons_of_mem first there)
  | character depth members c rest least ascii quote backslash later ih =>
    have nonzero : c ≠ 0 := by grind
    exact literals_plain c rest quote backslash nonzero ih
  | separated depth members c rest mark room later ih =>
    have quote : c ≠ 0x22 := by
      simp only [separator] at mark
      grind
    rw [scanPlace, if_neg (by decide), single c rest quote]
    exact ih
  | opened depth members rest later ih => exact ih
  | entered depth members c rest mark room later ih =>
    have quote : c ≠ 0x22 := by
      simp only [opening] at mark
      grind
    rw [scanPlace, if_neg (by decide), single c rest quote]
    exact ih
  | left depth members c rest mark later ih =>
    have quote : c ≠ 0x22 := by
      simp only [closing] at mark
      grind
    rw [scanPlace, if_neg (by decide), single c rest quote]
    exact ih
  | number depth members text rest spelled stopped later ih =>
    rw [scanPlace, if_neg (by decide), literals_quiet text rest (integer_quiet text spelled)]
    exact ih
  | other depth members c rest plain later ih =>
    have quote : c ≠ 0x22 := by
      simp only [unscanned] at plain
      grind
    rw [scanPlace, if_neg (by decide), single c rest quote]
    exact ih

theorem literals_spaces (place : TextPlace) (s blanks : List UInt8)
    (spaces : ∀ c ∈ blanks, isSpace c = true) : literals place (s ++ blanks) = literals place s := by
  have quoteless (c : UInt8) (space : isSpace c = true) : c ≠ 0x22 ∧ c ≠ 0x5c := by
    simp only [isSpace] at space
    grind
  induction s generalizing place with
  | cons c rest ih => cases place <;> simp [literals, ih]
  | nil =>
    rw [List.nil_append]
    induction blanks generalizing place with
    | nil => rfl
    | cons c blanks ih =>
      have plain := quoteless c (spaces c List.mem_cons_self)
      have later (next : TextPlace) := ih (fun d member => spaces d (List.mem_cons_of_mem c member)) next
      cases place with
      | outside => simpa [literals, TextPlace.after, plain.1] using later .outside
      | inside =>
        have unclosed : literals .inside blanks = [] := later .inside
        simp [literals, TextPlace.after, plain, unclosed, prepend]
      | escaped =>
        have unclosed : literals .inside blanks = [] := later .inside
        simp [literals, unclosed, prepend]

theorem dropWhile_spaces (s : List UInt8) (none : s.dropWhile isSpace = []) :
    ∀ c ∈ s, isSpace c = true := by
  induction s with
  | nil => simp
  | cons c rest ih =>
    by_cases space : isSpace c = true
    · simp only [List.dropWhile_cons, space, if_true] at none
      exact List.forall_mem_cons.mpr ⟨space, ih none⟩
    · simp [space] at none

theorem accepts_tree (build : DecoderBuild) (json : List UInt8) (accepted : Accepts build json) :
    validBytes json = true ∧ ∃ tree finish, build.cjson json = some (tree, finish) ∧
      literals .outside (json.take finish) = literals .outside json := by
  have whole (finish : Nat) (ended : (json.drop finish).dropWhile isSpace = []) :
      literals .outside (json.take finish) = literals .outside json := by
    have blanks := dropWhile_spaces _ ended
    have spaces := literals_spaces .outside (json.take finish) (json.drop finish) blanks
    rw [List.take_append_drop] at spaces
    exact spaces.symm
  rcases accepted with command | status
  · unfold ebaseParseCommand at command
    split at command
    · cases command
    next fits =>
      simp only [Bool.not_eq_true', not_or, Bool.not_eq_false] at fits
      refine ⟨fits.2.2, ?_⟩
      split at command
      · cases command
      next tree finish parsed =>
        dsimp only at command
        split at command
        · cases command
        split at command
        · cases command
        next ended =>
          exact ⟨tree, finish, parsed, whole finish (by simpa using (not_or.mp ended).1)⟩
  · unfold ebaseParseFrpStatus at status
    dsimp only at status
    split at status
    · cases status
    next fits =>
      simp only [Bool.not_eq_true', not_or, Bool.not_eq_false] at fits
      refine ⟨fits.2.2, ?_⟩
      split at status
      · cases status
      next tree finish parsed =>
        split at status
        · cases status
        next ended =>
          exact ⟨tree, finish, parsed, whole finish (by simpa using (not_or.mp ended).1)⟩

theorem mapM_decoded (all : List (List UInt8)) (texts : List (List UInt8))
    (decoded : all.mapM decodeLiteral = some texts) :
    ∀ literal ∈ all, ∃ text ∈ texts, decodeLiteral literal = some text := by
  induction all generalizing texts with
  | nil => simp
  | cons first others ih =>
    simp only [List.mapM_cons, Option.pure_def, Option.bind_eq_bind, Option.bind_eq_some_iff,
      Option.some.injEq] at decoded
    obtain ⟨text, here, rest, later, rfl⟩ := decoded
    intro literal member
    rcases List.mem_cons.mp member with rfl | there
    · exact ⟨text, List.mem_cons_self, here⟩
    · obtain ⟨found, inside, read⟩ := ih rest later literal there
      exact ⟨found, List.mem_cons_of_mem text inside, read⟩

/-- An accepted text decodes without a NUL exactly when each `\u` in its strings has its four digits. -/
theorem accepted_nulFree (build : DecoderBuild) (json : List UInt8)
    (reads : CJsonReads build.cjson json) (accepted : Accepts build json) :
    NulFree json ↔ HexEscapes json := by
  obtain ⟨valid, tree, finish, parsed, whole⟩ := accepts_tree build json accepted
  obtain ⟨texts, decoded, -⟩ := reads tree finish parsed
  rw [whole] at decoded
  have scanned : Scanned false 0 0 json := scanLoop_scanned _ _ _ _ _ valid
  have each : ∀ literal ∈ literals .outside json, ∃ text, decodeLiteral literal = some text ∧
      (0 ∉ text ↔ unicodeEscapes hexFollows false literal = true) := by
    intro literal member
    obtain ⟨text, -, read⟩ := mapM_decoded _ texts decoded literal member
    obtain ⟨bare, visible⟩ := scanned.scannable literal member
    exact ⟨text, read, decodeLoop_nul _ literal text read bare visible⟩
  constructor
  · intro free literal member
    obtain ⟨text, read, same⟩ := each literal member
    exact same.mp (free literal member text read)
  · intro escapes literal member text read
    obtain ⟨other, again, same⟩ := each literal member
    rw [read] at again
    cases again
    exact same.mpr (escapes literal member)

theorem strings_whole (build : DecoderBuild) (json : List UInt8) (tree : CJson) (finish : Nat)
    (reads : CJsonReads build.cjson json) (parsed : build.cjson json = some (tree, finish))
    (whole : literals .outside (json.take finish) = literals .outside json) (free : NulFree json) :
    (literals .outside json).mapM decodeLiteral = some (tree.strings.map CString.bytes) := by
  obtain ⟨texts, decoded, strings⟩ := reads tree finish parsed
  rw [whole] at decoded
  have nulless : ∀ text ∈ texts, 0 ∉ text := by
    clear strings
    have each := free
    unfold NulFree at each
    generalize literals .outside json = all at decoded each
    induction all generalizing texts with
    | nil =>
      cases decoded
      simp
    | cons first others ih =>
      simp only [List.mapM_cons, Option.pure_def, Option.bind_eq_bind, Option.bind_eq_some_iff,
        Option.some.injEq] at decoded
      obtain ⟨text, here, rest, later, rfl⟩ := decoded
      have head := each first List.mem_cons_self text here
      have tail := ih rest later (fun literal member => each literal (List.mem_cons_of_mem first member))
      exact List.forall_mem_cons.mpr ⟨head, tail⟩
  have same : texts.map (CString.bytes ∘ CString.ofBytes) = texts := by
    rw [List.map_congr_left (g := id)]
    · simp
    · intro text member
      have unbroken := nulless text member
      refine CString.bytes_ofBytes text ?_
      simp only [CString.ofBytes]
      congr 1
      rw [List.takeWhile_eq_self_iff]
      intro c inside
      have nonzero : c ≠ 0 := fun zero => unbroken (zero ▸ inside)
      simpa using nonzero
  rw [decoded, strings, List.map_map, same]

def hiddenTail : List UInt8 :=
  bytesOf
    "\x7b\"protocol_version\":1,\"request_id\":\"3f2504e0-4f89-41d3-9a0c-0305e82c3301\",\"command\":\"status\\uzzzzhidden\"\x7d"

def hiddenTree : CJson :=
  .object
    [(.ofBytes (bytesOf "protocol_version"), .number (.finite 1)),
      (.ofBytes (bytesOf "request_id"), .string (.ofBytes (bytesOf "3f2504e0-4f89-41d3-9a0c-0305e82c3301"))),
      (.ofBytes (bytesOf "command"), .string (.ofBytes (bytesOf "status")))]

def hiddenBuild : DecoderBuild :=
  { cjson := fun json => if json = hiddenTail then some (hiddenTree, hiddenTail.length) else none
    otaUrlBytes := 512 }

theorem hiddenTail_reads : CJsonReads hiddenBuild.cjson hiddenTail := by
  intro tree finish parsed
  have known : hiddenBuild.cjson hiddenTail = some (hiddenTree, hiddenTail.length) := by
    simp [hiddenBuild]
  rw [known] at parsed
  cases parsed
  refine ⟨["protocol_version", "request_id", "3f2504e0-4f89-41d3-9a0c-0305e82c3301", "command"].map bytesOf ++
    [bytesOf "status" ++ 0 :: bytesOf "hidden"], by decide +kernel, by decide +kernel⟩

theorem hiddenTail_accepted : Accepts hiddenBuild hiddenTail := .inl (by decide +kernel)

theorem accepted_nulFree_hidden :
    CJsonReads hiddenBuild.cjson hiddenTail ∧ Accepts hiddenBuild hiddenTail ∧
      (NulFree hiddenTail ↔ HexEscapes hiddenTail) :=
  ⟨hiddenTail_reads, hiddenTail_accepted,
    accepted_nulFree hiddenBuild hiddenTail hiddenTail_reads hiddenTail_accepted⟩

theorem accepted_hidden_nul :
    ¬∀ build json, CJsonReads build.cjson json → Accepts build json → NulFree json := by
  intro free
  have literal : bytesOf "status\\uzzzzhidden" ∈ literals .outside hiddenTail := by decide +kernel
  have read : decodeLiteral (bytesOf "status\\uzzzzhidden") =
      some (bytesOf "status" ++ 0 :: bytesOf "hidden") := by decide +kernel
  have absent := free hiddenBuild hiddenTail hiddenTail_reads hiddenTail_accepted _ literal _ read
  exact absurd absent (by decide +kernel)

end EspBase

import EspBase.Shared.CodePoints

set_option autoImplicit false

/-!
# `json.loads`

The decoder of the standard library with `unique_object` as its hook. `room` is
the number of nested calls that the interpreter still allows; a container takes
one, and the call of the hook another one.
-/

namespace EspBase

open Unicode

/-- What is loaded; a `float` is kept as the literal that it is read from. -/
inductive Loaded where
  | null
  | bool (value : Bool)
  | int (value : Int)
  | float (literal : Text)
  | str (value : Text)
  | list (items : List Loaded)
  | dict (entries : List (Text × Loaded))

inductive Scan (α : Type) where
  | value (result : α) (rest : Text)
  | valueError
  | recursionError

def isBlank (c : Point) : Bool := c == 0x20 || c == 0x09 || c == 0x0a || c == 0x0d

def skipBlanks (source : Text) : Text := source.dropWhile isBlank

def hexDigitValue (c : Point) : Option Nat :=
  if 0x30 ≤ c ∧ c ≤ 0x39 then some (c.val - 0x30)
  else if 0x61 ≤ c ∧ c ≤ 0x66 then some (c.val - 0x61 + 10)
  else if 0x41 ≤ c ∧ c ≤ 0x46 then some (c.val - 0x41 + 10)
  else none

def codeUnit (digits : Text) : Option Point :=
  (digits.mapM hexDigitValue).map (fun values => Fin.ofNat 0x110000 (values.foldl (fun n d => 16 * n + d) 0))

def plainEscape (c : Point) : Option Point :=
  if c = 0x22 ∨ c = 0x5c ∨ c = 0x2f then some c
  else if c = 0x62 then some 0x08
  else if c = 0x66 then some 0x0c
  else if c = 0x6e then some 0x0a
  else if c = 0x72 then some 0x0d
  else if c = 0x74 then some 0x09
  else none

def before (c : Point) (scanned : Text × Text) : Text × Text := (c :: scanned.1, scanned.2)

-- What follows an opening quote, and what follows the closing one.
def scanChars : Text → Option (Text × Text)
  | [] => none
  | c :: rest =>
    if c = 0x22 then some ([], rest)
    else if c = 0x5c then
      match rest with
      | [] => none
      | escape :: rest =>
        if escape = 0x75 then
          match rest with
          | a :: b :: c :: d :: rest =>
            match codeUnit [a, b, c, d] with
            | some unit => (scanChars rest).map (before unit)
            | none => none
          | _ => none
        else
          match plainEscape escape with
          | some c => (scanChars rest).map (before c)
          | none => none
    else if c < 0x20 then none
    else (scanChars rest).map (before c)

-- A pair of surrogates is one character.
def joinSurrogates : Text → Text
  | high :: low :: rest =>
    if 0xd800 ≤ high ∧ high ≤ 0xdbff ∧ 0xdc00 ≤ low ∧ low ≤ 0xdfff then
      Fin.ofNat 0x110000 (0x10000 + (high.val - 0xd800) * 0x400 + (low.val - 0xdc00)) ::
        joinSurrogates rest
    else high :: joinSurrogates (low :: rest)
  | short => short

def scanString (source : Text) : Option (Text × Text) :=
  (scanChars source).map (fun scanned => (joinSurrogates scanned.1, scanned.2))

def digitPoint (c : Point) : Bool := 0x30 ≤ c && c ≤ 0x39

def numeral (digits : Text) : Nat := digits.foldl (fun n c => 10 * n + (c.val - 0x30)) 0

-- `int` refuses more digits.
def intMaxStrDigits : Nat := 4300

def wholeDigits (source : Text) : Text :=
  if source.head? = some 0x30 then [0x30] else source.takeWhile digitPoint

def fractionOf : Text → Text
  | point :: rest =>
    let digits := rest.takeWhile digitPoint
    if point = 0x2e ∧ digits ≠ [] then point :: digits else []
  | [] => []

def exponentOf : Text → Text
  | mark :: rest =>
    let sign := rest.take (if rest.head? = some 0x2b ∨ rest.head? = some 0x2d then 1 else 0)
    let digits := (rest.drop sign.length).takeWhile digitPoint
    if (mark = 0x65 ∨ mark = 0x45) ∧ digits ≠ [] then mark :: sign ++ digits else []
  | [] => []

def scanNumber (source : Text) : Option (Loaded × Text) :=
  let sign := source.take (if source.head? = some 0x2d then 1 else 0)
  let unsigned := source.drop sign.length
  let whole := wholeDigits unsigned
  let afterWhole := unsigned.drop whole.length
  let fraction := fractionOf afterWhole
  let afterFraction := afterWhole.drop fraction.length
  let exponent := exponentOf afterFraction
  let rest := afterFraction.drop exponent.length
  if whole = [] then none
  else if fraction = [] ∧ exponent = [] then
    if whole.length > intMaxStrDigits then none
    else some (.int (if sign = [] then numeral whole else -numeral whole), rest)
  else some (.float (sign ++ whole ++ fraction ++ exponent), rest)

def constants : List (Text × Loaded) :=
  [(text "null", .null), (text "true", .bool true), (text "false", .bool false),
    (text "NaN", .float (text "NaN")), (text "Infinity", .float (text "Infinity")),
    (text "-Infinity", .float (text "-Infinity"))]

def scanPlain (source : Text) : Option (Loaded × Text) :=
  match constants.find? (fun constant => constant.1.isPrefixOf source) with
  | some (literal, value) => some (value, source.drop literal.length)
  | none => scanNumber source

def uniqueObject (room : Nat) (entries : List (Text × Loaded)) (rest : Text) : Scan Loaded :=
  if room = 0 then .recursionError
  else if (entries.map Prod.fst).Nodup then .value (.dict entries) rest
  else .valueError

mutual

/-- Every call takes at least one character, so `fuel` is a length. -/
def scanValue : Nat → Nat → Text → Scan Loaded
  | 0, _, _ => .valueError
  | _ + 1, _, [] => .valueError
  | fuel + 1, room, c :: rest =>
    if c = 0x22 then
      match scanString rest with
      | some (value, rest) => .value (.str value) rest
      | none => .valueError
    else if c = 0x7b then
      match room with
      | 0 => .recursionError
      | room + 1 =>
        let inside := skipBlanks rest
        if inside.head? = some 0x7d then uniqueObject room [] (inside.drop 1)
        else
          match scanMembers fuel room inside with
          | .value entries rest => uniqueObject room entries rest
          | .valueError => .valueError
          | .recursionError => .recursionError
    else if c = 0x5b then
      match room with
      | 0 => .recursionError
      | room + 1 =>
        let inside := skipBlanks rest
        if inside.head? = some 0x5d then .value (.list []) (inside.drop 1)
        else
          match scanItems fuel room inside with
          | .value items rest => .value (.list items) rest
          | .valueError => .valueError
          | .recursionError => .recursionError
    else
      match scanPlain (c :: rest) with
      | some (value, rest) => .value value rest
      | none => .valueError

def scanMembers : Nat → Nat → Text → Scan (List (Text × Loaded))
  | 0, _, _ => .valueError
  | _ + 1, _, [] => .valueError
  | fuel + 1, room, quote :: source =>
    match if quote = 0x22 then scanString source else none with
    | none => .valueError
    | some (key, afterKey) =>
      let colon := skipBlanks afterKey
      if colon.head? ≠ some 0x3a then .valueError
      else
        match scanValue fuel room (skipBlanks (colon.drop 1)) with
        | .valueError => .valueError
        | .recursionError => .recursionError
        | .value value afterValue =>
          match skipBlanks afterValue with
          | [] => .valueError
          | mark :: more =>
            if mark = 0x7d then .value [(key, value)] more
            else if mark = 0x2c then
              match scanMembers fuel room (skipBlanks more) with
              | .value entries rest => .value ((key, value) :: entries) rest
              | .valueError => .valueError
              | .recursionError => .recursionError
            else .valueError

def scanItems : Nat → Nat → Text → Scan (List Loaded)
  | 0, _, _ => .valueError
  | fuel + 1, room, source =>
    match scanValue fuel room source with
    | .valueError => .valueError
    | .recursionError => .recursionError
    | .value item afterItem =>
      match skipBlanks afterItem with
      | [] => .valueError
      | mark :: more =>
        if mark = 0x5d then .value [item] more
        else if mark = 0x2c then
          match scanItems fuel room (skipBlanks more) with
          | .value items rest => .value (item :: items) rest
          | .valueError => .valueError
          | .recursionError => .recursionError
        else .valueError

end

def jsonLoads (room : Nat) (source : Text) : Scan Loaded :=
  match scanValue (2 * source.length + 2) room (skipBlanks source) with
  | .value value rest => if skipBlanks rest = [] then .value value [] else .valueError
  | .valueError => .valueError
  | .recursionError => .recursionError

-- What may follow a value in a container.
def Closes (rest : Text) : Prop := rest.head? = some 0x2c ∨ rest.head? = some 0x7d

/-- In front of a closing character the source is read as the value. -/
structure Reads (source : Text) (need : Nat) (value : Loaded) : Prop where
  starts : ∃ c rest, source = c :: rest ∧ isBlank c = false
  reads : ∀ fuel room rest, source.length ≤ fuel → need ≤ room → Closes rest →
    scanValue fuel room (source ++ rest) = .value value rest

theorem Reads.raise {source : Text} {need more : Nat} {value : Loaded} (reads : Reads source need value)
    (larger : need ≤ more) : Reads source more value :=
  ⟨reads.starts, fun fuel room rest enough within =>
    reads.reads fuel room rest enough (Nat.le_trans larger within)⟩

def plainPoint (c : Point) : Bool := 0x20 ≤ c && c < 0x7f && c != 0x22 && c != 0x5c

def quoted (value : Text) : Text := 0x22 :: value ++ [0x22]

theorem scanChars_closed (rest : Text) : scanChars (0x22 :: rest) = some ([], rest) := by
  rw [scanChars.eq_def]
  rfl

theorem scanChars_next (c : Point) (rest : Text) (plain : plainPoint c = true) :
    scanChars (c :: rest) = (scanChars rest).map (before c) := by
  simp only [plainPoint, Bool.and_eq_true, bne_iff_ne, decide_eq_true_eq] at plain
  obtain ⟨⟨⟨visible, -⟩, quote⟩, escape⟩ := plain
  rw [scanChars.eq_def]
  simp only [if_neg quote, if_neg escape, if_neg (Fin.not_lt.mpr visible)]

theorem scanChars_plain (value rest : Text) (plain : value.all plainPoint = true) :
    scanChars (value ++ 0x22 :: rest) = some (value, rest) := by
  induction value with
  | nil => exact scanChars_closed rest
  | cons c value ih =>
    simp only [List.all_cons, Bool.and_eq_true] at plain
    rw [List.cons_append, scanChars_next c _ plain.1, ih plain.2]
    rfl

theorem joinSurrogates_plain (value : Text) (plain : value.all plainPoint = true) :
    joinSurrogates value = value := by
  induction value with
  | nil => rfl
  | cons c value ih =>
    simp only [List.all_cons, Bool.and_eq_true] at plain
    cases value with
    | nil => rfl
    | cons next value =>
      have low : ¬0xd800 ≤ c := by
        have small : c < 0x7f := by
          have here := plain.1
          simp only [plainPoint, Bool.and_eq_true, decide_eq_true_eq] at here
          exact here.1.1.2
        exact Fin.not_le.mpr (Fin.lt_trans small (by decide))
      rw [joinSurrogates, if_neg (fun pair => low pair.1), ih plain.2]

theorem scanString_plain (value rest : Text) (plain : value.all plainPoint = true) :
    scanString (value ++ 0x22 :: rest) = some (value, rest) := by
  rw [scanString, scanChars_plain value rest plain, Option.map_some, joinSurrogates_plain value plain]

theorem reads_string (value : Text) (plain : value.all plainPoint = true) :
    Reads (quoted value) 0 (.str value) := by
  refine ⟨⟨0x22, value ++ [0x22], rfl, rfl⟩, ?_⟩
  intro fuel room rest enough _ _
  cases fuel with
  | zero => simp [quoted] at enough
  | succ fuel =>
    have scanned := scanString_plain value rest plain
    simp [quoted, scanValue, scanned]

theorem reads_null : Reads (text "null") 0 .null := by
  refine ⟨⟨0x6e, text "ull", rfl, rfl⟩, ?_⟩
  intro fuel room rest enough _ _
  cases fuel with
  | zero => exact absurd enough (by decide)
  | succ fuel => rfl

theorem takeWhile_closes (digits rest : Text) (all : digits.all digitPoint = true)
    (closes : Closes rest) : (digits ++ rest).takeWhile digitPoint = digits := by
  have stops : rest.takeWhile digitPoint = [] := by
    cases rest with
    | nil => rfl
    | cons c rest => rcases closes with here | here <;> (obtain rfl := Option.some.inj here; rfl)
  rw [List.takeWhile_append_of_pos (by simpa using all), stops, List.append_nil]

theorem closes_plain (rest : Text) (closes : Closes rest) : fractionOf rest = [] ∧ exponentOf rest = [] := by
  cases rest with
  | nil => exact ⟨rfl, rfl⟩
  | cons c rest => rcases closes with here | here <;> (obtain rfl := Option.some.inj here; exact ⟨rfl, rfl⟩)

theorem constants_undigited : ∀ constant ∈ constants,
    ∃ head tail, constant.1 = head :: tail ∧ digitPoint head = false := by
  intro constant listed
  simp only [constants, List.mem_cons, List.not_mem_nil, or_false] at listed
  rcases listed with rfl | rfl | rfl | rfl | rfl | rfl <;> exact ⟨_, _, rfl, by decide⟩

theorem reads_number (digits : Text) (all : digits.all digitPoint = true) (some_digit : digits ≠ [])
    (short : digits.length ≤ intMaxStrDigits) (leading : digits.head? = some 0x30 → digits = [0x30]) :
    Reads digits 0 (.int (numeral digits)) := by
  obtain ⟨c, more, rfl⟩ := List.exists_cons_of_ne_nil some_digit
  have digit : digitPoint c = true := by
    simp only [List.all_cons, Bool.and_eq_true] at all
    exact all.1
  have other (mark : Point) (outside : digitPoint mark = false) : c ≠ mark := by
    rintro rfl
    rw [digit] at outside
    cases outside
  refine ⟨⟨c, more, rfl, ?_⟩, ?_⟩
  · simp [isBlank, other 0x20 (by decide), other 0x09 (by decide), other 0x0a (by decide),
      other 0x0d (by decide)]
  intro fuel room rest enough _ closes
  cases fuel with
  | zero => simp at enough
  | succ fuel =>
    have unlisted : constants.find? (fun constant => constant.1.isPrefixOf (c :: (more ++ rest))) = none := by
      rw [List.find?_eq_none]
      intro constant listed fits
      obtain ⟨head, tail, literal, undigited⟩ := constants_undigited constant listed
      simp only [literal, List.isPrefixOf, Bool.and_eq_true, beq_iff_eq] at fits
      exact other head undigited fits.1.symm
    have whole : wholeDigits (c :: (more ++ rest)) = c :: more := by
      unfold wholeDigits
      split
      next zero => exact (leading zero).symm
      next => exact takeWhile_closes _ _ all closes
    obtain ⟨unfractioned, unexponented⟩ := closes_plain rest closes
    have unsigned : (c :: (more ++ rest)).head? ≠ some 0x2d := by simpa using other 0x2d (by decide)
    have after : (c :: (more ++ rest)).drop (c :: more).length = rest := List.drop_left
    have number : scanNumber (c :: (more ++ rest)) = some (.int (numeral (c :: more)), rest) := by
      simp only [scanNumber, if_neg unsigned, List.take_zero, List.length_nil, List.drop_zero, whole, after,
        unfractioned, unexponented, if_neg some_digit, if_neg (Nat.not_lt.mpr short), and_self, if_true]
    have plain : scanPlain (c :: (more ++ rest)) = some (.int (numeral (c :: more)), rest) := by
      rw [scanPlain, unlisted]
      exact number
    simp only [List.cons_append, scanValue, if_neg (other 0x22 (by decide)),
      if_neg (other 0x7b (by decide)), if_neg (other 0x5b (by decide)), plain]

structure Member where
  key : Text
  source : Text
  value : Loaded

def Member.text (m : Member) : Text := quoted m.key ++ 0x3a :: m.source

def membersText : List Member → Text
  | [] => []
  | [m] => m.text
  | m :: next :: more => m.text ++ 0x2c :: membersText (next :: more)

def objectText (members : List Member) : Text := 0x7b :: membersText members ++ [0x7d]

structure Member.Reads (need : Nat) (m : Member) : Prop where
  key : m.key.all plainPoint = true
  source : EspBase.Reads m.source need m.value

theorem skipBlanks_starts (source rest : Text) (starts : ∃ c more, source = c :: more ∧ isBlank c = false) :
    skipBlanks (source ++ rest) = source ++ rest := by
  obtain ⟨c, more, rfl, visible⟩ := starts
  simp [skipBlanks, visible]

-- One member, up to the character that closes it.
theorem scanMembers_member (need : Nat) (m : Member) (here : m.Reads need) (fuel room : Nat) (mark : Point)
    (more : Text) (enough : m.source.length ≤ fuel) (within : need ≤ room)
    (closes : mark = 0x2c ∨ mark = 0x7d) :
    scanMembers (fuel + 1) room (m.text ++ mark :: more) =
      if mark = 0x7d then .value [(m.key, m.value)] more
      else
        match scanMembers fuel room (skipBlanks more) with
        | .value entries rest => .value ((m.key, m.value) :: entries) rest
        | .valueError => .valueError
        | .recursionError => .recursionError := by
  have closing : Closes (mark :: more) := by simpa [Closes] using closes
  have keyed := scanString_plain m.key (0x3a :: (m.source ++ mark :: more)) here.key
  have visible := skipBlanks_starts m.source (mark :: more) here.source.starts
  have read := here.source.reads fuel room (mark :: more) enough within closing
  have text : m.text ++ mark :: more =
      0x22 :: (m.key ++ 0x22 :: 0x3a :: (m.source ++ mark :: more)) := by
    simp [Member.text, quoted]
  have colon : skipBlanks (0x3a :: (m.source ++ mark :: more)) = 0x3a :: (m.source ++ mark :: more) := rfl
  have bare : skipBlanks (mark :: more) = mark :: more := by rcases closes with rfl | rfl <;> rfl
  simp only [text, scanMembers, if_true, keyed, colon, List.head?_cons, ne_eq, not_true_eq_false, if_false,
    List.drop_succ_cons, List.drop_zero, visible, read, bare]
  rcases closes with rfl | rfl <;> rfl

theorem scanMembers_reads (need : Nat) (members : List Member) (some_member : members ≠ [])
    (each : ∀ m ∈ members, m.Reads need) (fuel room : Nat) (rest : Text)
    (enough : (membersText members).length ≤ fuel) (within : need ≤ room) :
    scanMembers fuel room (membersText members ++ 0x7d :: rest) =
      .value (members.map (fun m => (m.key, m.value))) rest := by
  induction members generalizing fuel with
  | nil => exact absurd rfl some_member
  | cons m members ih =>
    have here := each m List.mem_cons_self
    have size : m.text.length = m.key.length + m.source.length + 3 := by
      simp only [Member.text, quoted, List.length_append, List.length_cons, List.length_nil]
      omega
    cases fuel with
    | zero => cases members <;> simp [membersText, Member.text, quoted] at enough
    | succ fuel =>
      cases members with
      | nil =>
        rw [membersText] at enough ⊢
        rw [scanMembers_member need m here fuel room 0x7d rest (by omega) within (.inr rfl), if_pos rfl]
        rfl
      | cons next more =>
        rw [membersText, List.length_append, List.length_cons] at enough
        have others := ih (List.cons_ne_nil next more)
          (fun other member => each other (List.mem_cons_of_mem m member)) fuel (by omega)
        have visible : skipBlanks (membersText (next :: more) ++ 0x7d :: rest) =
            membersText (next :: more) ++ 0x7d :: rest := by
          cases more <;> rfl
        rw [membersText, List.append_assoc, List.cons_append,
          scanMembers_member need m here fuel room 0x2c _ (by omega) within (.inl rfl), if_neg (by decide),
          visible, others]
        rfl

theorem scanValue_object (need : Nat) (members : List Member) (some_member : members ≠ [])
    (each : ∀ m ∈ members, m.Reads need) (distinct : (members.map Member.key).Nodup) (nested : 1 ≤ need)
    (fuel room : Nat) (rest : Text) (enough : (objectText members).length ≤ fuel) (within : need + 1 ≤ room) :
    scanValue fuel room (objectText members ++ rest) =
      .value (.dict (members.map (fun m => (m.key, m.value)))) rest := by
  obtain ⟨m, more, rfl⟩ := List.exists_cons_of_ne_nil some_member
  have size : (objectText (m :: more)).length = (membersText (m :: more)).length + 2 := by
    simp [objectText]
  cases fuel with
  | zero => omega
  | succ fuel =>
    cases room with
    | zero => omega
    | succ room =>
      have inside := scanMembers_reads need (m :: more) some_member each fuel room rest (by omega) (by omega)
      have visible : skipBlanks (membersText (m :: more) ++ 0x7d :: rest) =
          membersText (m :: more) ++ 0x7d :: rest := by
        cases more <;> rfl
      have open_ : (membersText (m :: more) ++ 0x7d :: rest).head? ≠ some 0x7d := by
        cases more <;> simp [membersText, Member.text, quoted]
      have keys : (((m :: more).map (fun m => (m.key, m.value))).map Prod.fst).Nodup := by
        rw [List.map_map]
        exact distinct
      have spare : room ≠ 0 := by omega
      simp only [objectText, List.cons_append, List.append_assoc, List.nil_append, scanValue, visible, inside,
        if_neg open_, uniqueObject, if_neg spare, if_pos keys]
      rfl

theorem reads_object (need : Nat) (members : List Member) (some_member : members ≠ [])
    (each : ∀ m ∈ members, m.Reads need) (distinct : (members.map Member.key).Nodup) (nested : 1 ≤ need) :
    Reads (objectText members) (need + 1) (.dict (members.map (fun m => (m.key, m.value)))) := by
  refine ⟨⟨0x7b, membersText members ++ [0x7d], rfl, rfl⟩, ?_⟩
  intro fuel room rest enough within _
  exact scanValue_object need members some_member each distinct nested fuel room rest enough within

theorem jsonLoads_object (need : Nat) (members : List Member) (some_member : members ≠ [])
    (each : ∀ m ∈ members, m.Reads need) (distinct : (members.map Member.key).Nodup) (nested : 1 ≤ need)
    (room : Nat) (within : need + 1 ≤ room) :
    jsonLoads room (objectText members) = .value (.dict (members.map (fun m => (m.key, m.value)))) [] := by
  have scanned := scanValue_object need members some_member each distinct nested
    (2 * (objectText members).length + 2) room [] (by omega) within
  rw [List.append_nil] at scanned
  have visible : skipBlanks (objectText members) = objectText members := rfl
  rw [jsonLoads, visible, scanned]
  rfl

theorem scanValue_nested (fuel room depth : Nat) (deeper : room < depth) (enough : 2 * depth ≤ fuel) :
    scanValue fuel room (List.replicate depth 0x5b) = .recursionError := by
  induction depth generalizing fuel room with
  | zero => omega
  | succ depth ih =>
    obtain ⟨fuel, rfl⟩ : ∃ less, fuel = less + 2 := ⟨fuel - 2, by omega⟩
    cases room with
    | zero => rfl
    | succ room =>
      have inner := ih fuel room (by omega) (by omega)
      have visible : skipBlanks (List.replicate depth 0x5b) = List.replicate depth 0x5b := by
        cases depth <;> rfl
      have open_ : (List.replicate depth (0x5b : Point)).head? ≠ some 0x5d := by
        cases depth <;> simp [List.replicate_succ]
      simp only [List.replicate_succ, scanValue, visible, if_neg open_, scanItems, inner]
      rfl

end EspBase

import EspBase.Network.FrpRequest
import EspBase.Network.Hex
import Mathlib.Logic.Unique
import Mathlib.Tactic.MkIffOfInductiveProp
import Mathlib.Tactic.Tauto

set_option autoImplicit false

/-!
# Header blocks as a grammar

What a header block is, without an order of reading, and that `parseHeaders`
accepts exactly these.
-/

namespace EspBase

structure HeaderField where
  name : List UInt8
  value : List UInt8
deriving DecidableEq

def HeaderField.line (f : HeaderField) : List UInt8 := f.name ++ [0x3a, 0x20] ++ f.value

structure HeaderField.Plain (f : HeaderField) : Prop where
  named : f.name ≠ []
  name : ∀ c ∈ f.name, headerNameByte c = true
  value : ∀ c ∈ f.value, 0x20 ≤ c ∧ c ≤ 0x7e

instance (f : HeaderField) : Decidable f.Plain :=
  decidable_of_iff (f.name ≠ [] ∧ f.name.all headerNameByte = true ∧
      f.value.all (fun c => 0x20 ≤ c && c ≤ 0x7e) = true)
    ⟨fun plain => ⟨plain.1, by simpa using plain.2.1, by simpa using plain.2.2⟩,
      fun plain => ⟨plain.named, by simpa using plain.name, by simpa using plain.value⟩⟩

def headerText (fields : List HeaderField) : List UInt8 := fields.flatMap (fun f => f.line ++ crlf)

-- Names are compared without regard to case.
def valuesOf (name : String) (fields : List HeaderField) : List (List UInt8) :=
  (fields.filter fun f => equalHeader f.name name).map HeaderField.value

structure Decimal (digits : List UInt8) (n : Nat) : Prop where
  nonempty : digits ≠ []
  all : ∀ c ∈ digits, isDigit c = true
  value : decimalValue digits = n

structure HeaderBlock (block digits : List UInt8) (n : Nat) (tag : List UInt8)
    (fields : List HeaderField) : Prop where
  text : block = requestLine ++ headerText fields ++ crlf
  plain : ∀ f ∈ fields, f.Plain
  host : ∃ value, valuesOf "Host" fields = [value] ∧ value ≠ []
  type : valuesOf "Content-Type" fields = [bytesOf "application/json"]
  sized : valuesOf "Content-Length" fields = [digits]
  decimal : Decimal digits n
  range : 1 ≤ n ∧ n ≤ frpHttpBodyBytes
  tagged : valuesOf "X-ESP-Management-Tag" fields = [hexText tag]
  tagBytes : tag.length = managementTagBytes
  encoding : valuesOf "Transfer-Encoding" fields = []
  expect : valuesOf "Expect" fields = []

theorem lineEnd_here (line rest : List UInt8) (unbroken : 0x0d ∉ line) :
    lineEnd (line ++ crlf ++ rest) = some line.length := by
  induction line with
  | nil => simp [lineEnd, crlf]
  | cons c line ih =>
    simp only [List.mem_cons, not_or] at unbroken
    simp only [List.cons_append, lineEnd]
    rw [if_neg, ih unbroken.2]
    · simp
    · intro same
      cases line <;> simp [crlf] at same; exact absurd same.1.symm unbroken.1

theorem lineEnd_split (block : List UInt8) (last : Nat) (found : lineEnd block = some last) :
    block = block.take last ++ crlf ++ block.drop (last + 2) := by
  induction block generalizing last with
  | nil => cases found
  | cons c rest ih =>
    unfold lineEnd at found
    split at found
    next here =>
      cases found
      have split := List.take_append_drop 2 (c :: rest)
      rw [here] at split
      simpa using split.symm
    next =>
      obtain ⟨before, later, rfl⟩ := Option.map_eq_some_iff.mp found
      simp only [List.take_succ_cons, List.drop_succ_cons, List.cons_append, List.cons.injEq, true_and]
      exact ih before later

def noteField (fields : RequestFields) (f : HeaderField) : Option RequestFields :=
  if equalHeader f.name "Host" then
    if fields.host || f.value.length == 0 then none else some { fields with host := true }
  else if equalHeader f.name "Content-Type" then
    if fields.type || f.value != bytesOf "application/json" then none
    else some { fields with type := true }
  else if equalHeader f.name "Content-Length" then
    if fields.bodyLength.isSome then none
    else (decimalLength f.value).map (fun length => { fields with bodyLength := some length })
  else if equalHeader f.name "X-ESP-Management-Tag" then
    if fields.tag.isSome || f.value.length != 64 then none
    else (hexTag managementTagBytes f.value).map (fun tag => { fields with tag := some tag })
  else if equalHeader f.name "Transfer-Encoding" || equalHeader f.name "Expect" then none
  else some fields

theorem headerNameByte_range (c : UInt8) (name : headerNameByte c = true) :
    0x20 ≤ c ∧ c ≤ 0x7e ∧ c ≠ 0x3a := by
  simp only [headerNameByte, isUpper, isLower, isDigit, Bool.or_eq_true, Bool.and_eq_true,
    decide_eq_true_eq, beq_iff_eq, UInt8.le_iff_toNat_le, ← UInt8.toNat_inj] at name
  simp only [UInt8.le_iff_toNat_le, ne_eq, ← UInt8.toNat_inj]
  simp at name ⊢
  omega

theorem HeaderField.Plain.printable {f : HeaderField} (plain : f.Plain) :
    ∀ c ∈ f.line, 0x20 ≤ c ∧ c ≤ 0x7e := by
  intro c member
  simp only [HeaderField.line, List.mem_append, List.mem_cons, List.not_mem_nil, or_false] at member
  rcases member with (name | rfl | rfl) | value
  · obtain ⟨low, high, -⟩ := headerNameByte_range c (plain.name c name)
    exact ⟨low, high⟩
  · decide
  · decide
  · exact plain.value c value

theorem headerLine_field (f : HeaderField) (plain : f.Plain) (fields : RequestFields) :
    headerLine f.line fields = noteField fields f := by
  have name : f.line.takeWhile (· != 0x3a) = f.name := by
    rw [HeaderField.line, List.append_assoc, List.takeWhile_append_of_pos]
    · simp
    · intro c member
      simpa using (headerNameByte_range c (plain.name c member)).2.2
  have value : f.line.drop (f.name.length + 2) = f.value := by
    simp [HeaderField.line, List.drop_append]
  have colon : f.line.getD (f.name.length + 1) 0 = 0x20 := by
    simp [HeaderField.line]
  have named : f.name.length ≠ 0 := by simpa using plain.named
  have long : ¬f.name.length + 1 ≥ f.line.length := by simp [HeaderField.line]
  have bytes : (!f.name.all headerNameByte || !f.line.all (fun c => 0x20 ≤ c && c ≤ 0x7e)) = false := by
    simpa using ⟨plain.name, plain.printable⟩
  simp only [headerLine, name, value, colon, named, long, bytes, noteField, ne_eq, not_true_eq_false,
    or_self, if_false, Bool.false_eq_true]

theorem headerLine_some (line : List UInt8) (fields noted : RequestFields)
    (accepted : headerLine line fields = some noted) :
    ∃ f : HeaderField, f.Plain ∧ f.line = line := by
  simp only [headerLine] at accepted
  split at accepted
  · cases accepted
  next shape =>
  split at accepted
  · cases accepted
  next bytes =>
  clear accepted
  simp only [not_or, not_not, ge_iff_le, Nat.not_le] at shape
  obtain ⟨named, long, space⟩ := shape
  simp only [Bool.or_eq_true, Bool.not_eq_true', not_or, Bool.not_eq_false, List.all_eq_true,
    Bool.and_eq_true, decide_eq_true_eq] at bytes
  generalize same : line.takeWhile (· != 0x3a) = name at named long space bytes
  refine ⟨⟨name, line.drop (name.length + 2)⟩, ⟨by simpa using named, bytes.1, ?_⟩, ?_⟩
  · exact fun c member => bytes.2 c (List.mem_of_mem_drop member)
  · have whole : line.takeWhile (· != 0x3a) ++ line.dropWhile (· != 0x3a) = line :=
      List.takeWhile_append_dropWhile
    rw [same] at whole
    have stops := List.head?_dropWhile_not (fun c : UInt8 => c != 0x3a) line
    cases rest : line.dropWhile (· != 0x3a) with
    | nil =>
      rw [rest, List.append_nil] at whole
      rw [whole] at long
      omega
    | cons colon after =>
      rw [rest] at whole stops
      obtain rfl : colon = 0x3a := by simpa using stops
      subst whole
      cases after with
      | nil => simp at long
      | cons first value =>
        obtain rfl : first = 0x20 := by simpa using space
        simp [HeaderField.line, List.drop_append]

theorem HeaderField.Plain.length_pos {f : HeaderField} (plain : f.Plain) : 0 < f.line.length := by
  have named := List.length_pos_iff.mpr plain.named
  simp only [HeaderField.line, List.length_append]
  omega

theorem headerLines_fields (fs : List HeaderField) (plain : ∀ f ∈ fs, f.Plain) (last : List UInt8)
    (two : last.length = 2) (fuel : Nat) (enough : (headerText fs ++ last).length ≤ fuel)
    (fields : RequestFields) :
    headerLines fuel (headerText fs ++ last) fields = fs.foldlM noteField fields := by
  induction fs generalizing fuel fields with
  | nil =>
    unfold headerLines
    simp [headerText, two]
  | cons f fs ih =>
    have here := plain f List.mem_cons_self
    have unbroken : 0x0d ∉ f.line := fun member =>
      absurd (here.printable _ member).1 (by decide)
    have length := here.length_pos
    have text : headerText (f :: fs) ++ last = f.line ++ crlf ++ (headerText fs ++ last) := by
      simp [headerText]
    obtain ⟨before, line⟩ : ∃ before, f.line.length = before + 1 := ⟨f.line.length - 1, by omega⟩
    have past : (f.line ++ crlf).length = before + 3 := by simp [line, crlf]
    rw [text] at enough ⊢
    unfold headerLines
    cases fuel with
    | zero => simp [crlf] at enough
    | succ fuel =>
      rw [if_neg (by simp [crlf, two]; omega), lineEnd_here _ _ unbroken, line]
      simp only
      rw [← line, List.append_assoc f.line, List.take_left, headerLine_field f here, ← List.append_assoc,
        ← past, List.drop_left, List.foldlM_cons]
      cases noteField fields f with
      | none => rfl
      | some noted =>
        refine ih (fun g member => plain g (List.mem_cons_of_mem _ member)) fuel ?_ noted
        simp only [List.length_append] at enough past ⊢
        omega

theorem headerLines_some (fuel : Nat) (block : List UInt8) (fields noted : RequestFields)
    (accepted : headerLines fuel block fields = some noted) :
    ∃ fs last, (∀ f ∈ fs, HeaderField.Plain f) ∧ last.length = 2 ∧ block = headerText fs ++ last := by
  induction fuel generalizing block fields with
  | zero =>
    unfold headerLines at accepted
    split_ifs at accepted with short two
    exact ⟨[], block, by simp, two, by simp [headerText]⟩
  | succ fuel ih =>
    unfold headerLines at accepted
    split_ifs at accepted with short two
    · exact ⟨[], block, by simp, two, by simp [headerText]⟩
    · split at accepted
      next left last same found =>
        obtain rfl : fuel = left := by simpa using same
        split at accepted
        next after line =>
          obtain ⟨f, plain, text⟩ := headerLine_some _ _ _ line
          obtain ⟨fs, final, rest_plain, two, rest⟩ := ih _ _ accepted
          refine ⟨f :: fs, final, by simpa using ⟨plain, rest_plain⟩, two, ?_⟩
          calc block = block.take (last + 1) ++ crlf ++ block.drop (last + 3) :=
                lineEnd_split block (last + 1) found
            _ = f.line ++ crlf ++ (headerText fs ++ final) := by rw [← text, ← rest]
            _ = headerText (f :: fs) ++ final := by simp [headerText]
        next => cases accepted
      next => cases accepted

def FilledOnce {β : Type} (read : List UInt8 → Option β) (values : List (List UInt8))
    (before after : Option β) : Prop :=
  (values = [] ∧ after = before) ∨
    (before = none ∧ ∃ value, values = [value] ∧ read value = after ∧ after.isSome)

theorem filledOnce_nil {β : Type} (read : List UInt8 → Option β) (before after : Option β) :
    FilledOnce read [] before after ↔ after = before := by
  simp [FilledOnce]

theorem filledOnce_cons {β : Type} (read : List UInt8 → Option β) (value : List UInt8)
    (values : List (List UInt8)) (before after : Option β) :
    FilledOnce read (value :: values) before after ↔
      before = none ∧ ∃ filled, read value = some filled ∧ FilledOnce read values (some filled) after := by
  constructor
  · rintro (⟨none, -⟩ | ⟨empty, only, same, read, filled⟩)
    · cases none
    · cases same
      obtain ⟨noted, rfl⟩ := Option.isSome_iff_exists.mp filled
      exact ⟨empty, noted, read, .inl ⟨rfl, rfl⟩⟩
  · rintro ⟨empty, filled, read, ⟨none, rfl⟩ | ⟨taken, -⟩⟩
    · exact .inr ⟨empty, value, by rw [none], read, rfl⟩
    · cases taken

def readHost (value : List UInt8) : Option Unit := if value.length = 0 then none else some ()

def readType (value : List UInt8) : Option Unit :=
  if value = bytesOf "application/json" then some () else none

def readTag (value : List UInt8) : Option (List UInt8) :=
  if value.length = 64 then hexTag managementTagBytes value else none

def flag (seen : Bool) : Option Unit := if seen then some () else none

/-- What the fields after some first ones add to what these noted. -/
@[mk_iff] structure Noted (fs : List HeaderField) (before after : RequestFields) : Prop where
  host : FilledOnce readHost (valuesOf "Host" fs) (flag before.host) (flag after.host)
  type : FilledOnce readType (valuesOf "Content-Type" fs) (flag before.type) (flag after.type)
  sized : FilledOnce decimalLength (valuesOf "Content-Length" fs) before.bodyLength after.bodyLength
  tagged : FilledOnce readTag (valuesOf "X-ESP-Management-Tag" fs) before.tag after.tag
  encoding : valuesOf "Transfer-Encoding" fs = []
  expect : valuesOf "Expect" fs = []

theorem equalHeader_other {name : List UInt8} {first second : String}
    (same : equalHeader name first = true)
    (differ : (bytesOf first).map lowered ≠ (bytesOf second).map lowered) :
    equalHeader name second = false := by
  simp only [equalHeader, beq_iff_eq] at same
  simpa [equalHeader, same] using differ

theorem valuesOf_cons (name : String) (f : HeaderField) (fs : List HeaderField) :
    valuesOf name (f :: fs) =
      if equalHeader f.name name then f.value :: valuesOf name fs else valuesOf name fs := by
  unfold valuesOf
  rw [List.filter_cons]
  split <;> simp

@[simp] theorem flag_inj (first second : Bool) : flag first = flag second ↔ first = second := by
  cases first <;> cases second <;> simp [flag]

@[simp] theorem flag_none (seen : Bool) : flag seen = none ↔ seen = false := by
  cases seen <;> simp [flag]

theorem foldlM_noteField (fs : List HeaderField) (before after : RequestFields) :
    fs.foldlM noteField before = some after ↔ Noted fs before after := by
  induction fs generalizing before with
  | nil =>
    have nothing (name : String) : valuesOf name [] = [] := rfl
    simp only [List.foldlM_nil, noted_iff, nothing, filledOnce_nil, flag_inj, and_true]
    constructor
    · rintro ⟨⟩
      simp
    · rintro ⟨host, type, sized, tagged⟩
      cases before
      cases after
      simp_all
  | cons f fs ih =>
    rw [List.foldlM_cons, Option.bind_eq_bind, Option.bind_eq_some_iff]
    simp only [ih, noted_iff, valuesOf_cons]
    have apart {first : String} (same : equalHeader f.name first = true) (second : String) :=
      @equalHeader_other f.name first second same
    by_cases host : equalHeader f.name "Host"
    · have type := apart host "Content-Type" (by decide)
      have sized := apart host "Content-Length" (by decide)
      have tagged := apart host "X-ESP-Management-Tag" (by decide)
      have encoding := apart host "Transfer-Encoding" (by decide)
      have expect := apart host "Expect" (by decide)
      simp [noteField, host, type, sized, tagged, encoding, expect, filledOnce_cons, readHost, flag,
        Unique.exists_iff, and_assoc]
    by_cases type : equalHeader f.name "Content-Type"
    · have sized := apart type "Content-Length" (by decide)
      have tagged := apart type "X-ESP-Management-Tag" (by decide)
      have encoding := apart type "Transfer-Encoding" (by decide)
      have expect := apart type "Expect" (by decide)
      simp [noteField, host, type, sized, tagged, encoding, expect, filledOnce_cons, readType, flag,
        Unique.exists_iff]
      tauto
    by_cases sized : equalHeader f.name "Content-Length"
    · have tagged := apart sized "X-ESP-Management-Tag" (by decide)
      have encoding := apart sized "Transfer-Encoding" (by decide)
      have expect := apart sized "Expect" (by decide)
      simp [noteField, host, type, sized, tagged, encoding, expect, filledOnce_cons]
      constructor
      · rintro ⟨n, ⟨empty, read⟩, host, type, sized, rest⟩
        exact ⟨host, type, ⟨empty, n, read, sized⟩, rest⟩
      · rintro ⟨host, type, ⟨empty, n, read, sized⟩, rest⟩
        exact ⟨n, ⟨empty, read⟩, host, type, sized, rest⟩
    by_cases tagged : equalHeader f.name "X-ESP-Management-Tag"
    · have encoding := apart tagged "Transfer-Encoding" (by decide)
      have expect := apart tagged "Expect" (by decide)
      simp [noteField, host, type, sized, tagged, encoding, expect, filledOnce_cons, readTag]
      constructor
      · rintro ⟨tag, ⟨⟨empty, long⟩, read⟩, host, type, sized, tagged, rest⟩
        exact ⟨host, type, sized, ⟨empty, tag, ⟨long, read⟩, tagged⟩, rest⟩
      · rintro ⟨host, type, sized, ⟨empty, tag, ⟨long, read⟩, tagged⟩, rest⟩
        exact ⟨tag, ⟨⟨empty, long⟩, read⟩, host, type, sized, tagged, rest⟩
    by_cases encoding : equalHeader f.name "Transfer-Encoding"
    · simp [noteField, host, type, sized, tagged, encoding]
    by_cases expect : equalHeader f.name "Expect"
    · simp [noteField, host, type, sized, tagged, encoding, expect]
    simp [noteField, host, type, sized, tagged, encoding, expect]

theorem hexTag_whole (count : Nat) (value tag : List UInt8) (length : value.length = 2 * count) :
    hexTag count value = some tag ↔ value = hexText tag ∧ tag.length = count := by
  constructor
  · intro read
    obtain ⟨counted, rest, rfl⟩ := hexTag_some count value tag read
    rw [List.length_append, hexText_length, counted] at length
    obtain rfl : rest = [] := List.length_eq_zero_iff.mp (by omega)
    exact ⟨List.append_nil _, counted⟩
  · rintro ⟨rfl, rfl⟩
    have read := hexTag_hexText tag []
    rwa [List.append_nil] at read

theorem decimalLength_some (value : List UInt8) (n : Nat) :
    decimalLength value = some n ↔
      Decimal value n ∧ value.length ≤ 3 ∧ 1 ≤ n ∧ n ≤ frpHttpBodyBytes := by
  constructor
  · intro read
    unfold decimalLength at read
    split_ifs at read with shape range
    cases read
    simp only [not_or, Bool.not_eq_true', Bool.not_eq_false, List.all_eq_true] at shape range
    exact ⟨⟨by simpa using shape.1, shape.2.2, rfl⟩, by omega, by omega, by omega⟩
  · rintro ⟨⟨nonempty, all, rfl⟩, short, low, high⟩
    unfold decimalLength
    rw [if_neg, if_neg (by omega)]
    simp only [not_or, Bool.not_eq_true', Bool.not_eq_false, List.all_eq_true]
    exact ⟨by simpa using nonempty, by omega, all⟩

theorem headerLength_split (input : List UInt8) (length : Nat) (found : headerLength input = some length) :
    ∃ front rest, input = front ++ (crlf ++ crlf) ++ rest ∧ length = front.length + 4 := by
  induction input generalizing length with
  | nil => cases found
  | cons c rest ih =>
    unfold headerLength at found
    split at found
    next here =>
      cases found
      exact ⟨[], (c :: rest).drop 4, by rw [List.nil_append, ← here, List.take_append_drop], rfl⟩
    next =>
      obtain ⟨before, later, rfl⟩ := Option.map_eq_some_iff.mp found
      obtain ⟨front, after, rfl, rfl⟩ := ih before later
      exact ⟨c :: front, after, rfl, by simp⟩

theorem headerLength_append (input more : List UInt8) (length : Nat)
    (found : headerLength input = some length) : headerLength (input ++ more) = some length := by
  induction input generalizing length with
  | nil => cases found
  | cons c rest ih =>
    obtain ⟨front, after, split, -⟩ := headerLength_split _ _ found
    have long : 4 ≤ (c :: rest).length := by
      simp [split, crlf]
      omega
    unfold headerLength at found
    simp only [List.cons_append, headerLength]
    rw [← List.cons_append, List.take_append_of_le_length long]
    split at found
    next here =>
      cases found
      rw [if_pos here]
    next elsewhere =>
      obtain ⟨before, later, rfl⟩ := Option.map_eq_some_iff.mp found
      rw [if_neg elsewhere, ih before later]
      rfl

theorem headerLength_line (line rest : List UInt8) (unbroken : 0x0d ∉ line) :
    headerLength (line ++ crlf ++ rest) =
      if rest.take 2 = crlf then some (line.length + 4)
      else (headerLength rest).map (· + (line.length + 2)) := by
  induction line with
  | nil =>
    have newline : headerLength (0x0a :: rest) = (headerLength rest).map (· + 1) := by
      rw [headerLength, if_neg]
      simp [crlf]
    have first : headerLength (0x0d :: 0x0a :: rest) =
        if rest.take 2 = crlf then some 4 else (headerLength (0x0a :: rest)).map (· + 1) := by
      rw [headerLength]
      congr 1
      simp [crlf]
    simpa [crlf, newline, Function.comp_def] using first
  | cons c line ih =>
    simp only [List.mem_cons, not_or] at unbroken
    have step : headerLength (c :: (line ++ crlf ++ rest)) =
        (headerLength (line ++ crlf ++ rest)).map (· + 1) := by
      rw [headerLength, if_neg]
      intro same
      simp [crlf] at same
      exact unbroken.1 same.1.symm
    rw [List.cons_append, List.cons_append, step, ih unbroken.2]
    split
    · simp
    · rw [Option.map_map, List.length_cons]
      congr 1

theorem headerLength_fields (line : List UInt8) (unbroken : 0x0d ∉ line) (fs : List HeaderField)
    (plain : ∀ f ∈ fs, f.Plain) (rest : List UInt8) :
    headerLength (line ++ crlf ++ (headerText fs ++ crlf ++ rest)) =
      some (line ++ crlf ++ headerText fs ++ crlf).length := by
  induction fs generalizing line with
  | nil =>
    rw [headerLength_line _ _ unbroken]
    simp [headerText, crlf]
  | cons f fs ih =>
    have here := plain f List.mem_cons_self
    have broken : 0x0d ∉ f.line := fun member => absurd (here.printable _ member).1 (by decide)
    have text : headerText (f :: fs) = f.line ++ crlf ++ headerText fs := by simp [headerText]
    have later := ih f.line broken fun g member => plain g (List.mem_cons_of_mem _ member)
    rw [headerLength_line _ _ unbroken, if_neg, text]
    · rw [show f.line ++ crlf ++ headerText fs ++ crlf ++ rest =
          f.line ++ crlf ++ (headerText fs ++ crlf ++ rest) by simp, later]
      simp [crlf]
      omega
    · intro same
      have length := here.length_pos
      cases spelled : f.line with
      | nil => simp [spelled] at length
      | cons c after =>
        rw [text, spelled] at same
        simp [crlf] at same
        exact broken (by simp [spelled, same.1])

def requestText : List UInt8 := bytesOf "POST /api/v1/commands/status HTTP/1.1"

theorem requestLine_eq : requestLine = requestText ++ crlf := by decide

theorem HeaderBlock.headerLength {block digits tag : List UInt8} {n : Nat} {fields : List HeaderField}
    (header : HeaderBlock block digits n tag fields) (rest : List UInt8) :
    headerLength (block ++ rest) = some block.length := by
  have found := headerLength_fields requestText (by decide) fields header.plain rest
  rw [header.text, requestLine_eq]
  simpa using found

theorem filledOnce_empty {β : Type} (read : List UInt8 → Option β) (values : List (List UInt8))
    (filled : β) :
    FilledOnce read values none (some filled) ↔ ∃ value, values = [value] ∧ read value = some filled := by
  simp [FilledOnce]

theorem noted_block (fs : List HeaderField) (plain : ∀ f ∈ fs, f.Plain) (n : Nat) (tag : List UInt8) :
    fs.foldlM noteField {} = some ⟨true, true, some n, some tag⟩ ↔
      ∃ digits, digits.length ≤ 3 ∧
        HeaderBlock (requestLine ++ headerText fs ++ crlf) digits n tag fs := by
  rw [foldlM_noteField, noted_iff]
  simp only [flag, if_true, Bool.false_eq_true, if_false, filledOnce_empty]
  constructor
  · rintro ⟨⟨host, hosts, named⟩, ⟨type, types, json⟩, ⟨digits, lengths, decimal⟩, ⟨hex, tags, read⟩,
      encoding, expect⟩
    obtain ⟨spelled, short, low, high⟩ := (decimalLength_some digits n).mp decimal
    unfold readTag at read
    split_ifs at read with long
    obtain ⟨rfl, size⟩ := (hexTag_whole managementTagBytes hex tag (by simpa [managementTagBytes])).mp read
    refine ⟨digits, short, rfl, plain, ⟨host, hosts, ?_⟩, ?_, lengths, spelled, ⟨low, high⟩, tags, size,
      encoding, expect⟩
    · rintro rfl
      simp [readHost] at named
    · unfold readType at json
      split_ifs at json with same
      rw [types, same]
  · rintro ⟨digits, short, header⟩
    obtain ⟨host, hosts, named⟩ := header.host
    refine ⟨⟨host, hosts, by simpa [readHost] using named⟩, ⟨_, header.type, by simp [readType]⟩,
      ⟨digits, header.sized, (decimalLength_some digits n).mpr ⟨header.decimal, short, header.range⟩⟩,
      ⟨_, header.tagged, ?_⟩, header.encoding, header.expect⟩
    have long : (hexText tag).length = 64 := by rw [hexText_length, header.tagBytes]; rfl
    rw [readTag, if_pos long]
    exact (hexTag_whole managementTagBytes _ tag long).mpr ⟨rfl, header.tagBytes⟩

theorem parseHeaders_iff (input : List UInt8) (length n : Nat) (tag : List UInt8)
    (found : headerLength input = some length) :
    parseHeaders input length = some (n, tag) ↔
      ∃ digits fields, digits.length ≤ 3 ∧ HeaderBlock (input.take length) digits n tag fields := by
  constructor
  · intro parsed
    simp only [parseHeaders] at parsed
    split at parsed
    · cases parsed
    next starts =>
    split at parsed
    next lines =>
      cases parsed
      obtain ⟨fs, last, plain, two, text⟩ := headerLines_some _ _ _ _ lines
      obtain ⟨front, rest, split, size⟩ := headerLength_split input length found
      have reached : requestLine.length ≤ length := by
        have lengths := congrArg List.length text
        simp only [List.length_drop, List.length_take, List.length_append, two] at lengths
        omega
      have whole : input.take length = requestLine ++ headerText fs ++ last := by
        calc input.take length
            = (input.take length).take requestLine.length ++
                (input.take length).drop requestLine.length := (List.take_append_drop _ _).symm
          _ = requestLine ++ (headerText fs ++ last) := by
              rw [List.take_take, Nat.min_eq_left reached, not_not.mp starts, text]
          _ = requestLine ++ headerText fs ++ last := (List.append_assoc _ _ _).symm
      have ends : input.take length = front ++ crlf ++ crlf := by
        rw [split, List.take_left']
        · simp
        · simp [size, crlf]
      obtain ⟨-, rfl⟩ := List.append_inj' (whole.symm.trans ends) (by simp [two, crlf])
      rw [text, headerLines_fields fs plain crlf two _ le_rfl, noted_block fs plain] at lines
      obtain ⟨digits, short, header⟩ := lines
      exact ⟨digits, fs, short, whole ▸ header⟩
    next => cases parsed
  · rintro ⟨digits, fs, short, header⟩
    have whole := header.text
    have block : (input.take length).drop requestLine.length = headerText fs ++ crlf := by
      rw [whole, List.append_assoc, List.drop_left]
    have starts : input.take requestLine.length = requestLine := by
      have split := List.take_append_drop length input
      rw [whole, List.append_assoc, List.append_assoc] at split
      rw [← split, List.take_left]
    simp only [parseHeaders]
    rw [if_neg (not_not.mpr starts), block, headerLines_fields fs header.plain crlf rfl _ le_rfl]
    rw [whole] at header
    rw [(noted_block fs header.plain n tag).mpr ⟨digits, short, header⟩]

end EspBase

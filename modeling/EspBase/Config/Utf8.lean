import EspBase.Config.Validity
import EspBase.Shared.Bytes
import EspBase.Shared.CodePoints

set_option autoImplicit false

namespace EspBase

open Unicode

theorem continued (cp : UInt32) (low : Nat) (small : cp.toNat < 2 ^ 26) :
    UInt8.ofNat (low % 64 + 0x80) &&& 0xc0 = 0x80 ∧
      ((cp <<< 6) ||| ((UInt8.ofNat (low % 64 + 0x80)).toUInt32 &&& 63)).toNat =
        cp.toNat * 64 + low % 64 := by
  have bits : ∀ n < 64, (n + 128) &&& 192 = 128 ∧ (n + 128) &&& 63 = n := by decide
  obtain ⟨mark, value⟩ := bits (low % 64) (Nat.mod_lt _ (by decide))
  have byte : (UInt8.ofNat (low % 64 + 0x80)).toNat = low % 64 + 128 := by
    simp only [UInt8.toNat_ofNat']
    omega
  constructor
  · apply UInt8.toNat.inj
    simp only [UInt8.toNat_and, byte]
    exact mark
  · have shifted : cp.toNat <<< 6 % 2 ^ 32 = cp.toNat <<< 6 := by
      rw [Nat.shiftLeft_eq]
      exact Nat.mod_eq_of_lt (by omega)
    simp only [UInt32.toNat_or, UInt32.toNat_shiftLeft, UInt32.toNat_and, UInt8.toNat_toUInt32, byte,
      UInt32.toNat_ofNat]
    rw [value, shifted, Nat.or_comm, Bytes.or_shift _ _ 6 (by omega)]
    omega

structure ReadsChar (c : Char) (first : UInt8) (tail : List UInt8) (bits minimum : UInt32) : Prop where
  written : String.utf8EncodeChar c = first :: tail
  lead : utf8Lead first = some (bits, tail.length, minimum)
  read : utf8Continue bits tail = some c.val
  least : minimum.toNat ≤ c.val.toNat

theorem utf8Continue_cons (cp next : UInt32) (low : Nat) (rest : List UInt8)
    (small : cp.toNat < 2 ^ 26) (value : next.toNat = cp.toNat * 64 + low % 64) :
    utf8Continue cp (UInt8.ofNat (low % 64 + 0x80) :: rest) = utf8Continue next rest := by
  obtain ⟨mark, joined⟩ := continued cp low small
  have same : (cp <<< 6) ||| ((UInt8.ofNat (low % 64 + 0x80)).toUInt32 &&& 63) = next :=
    UInt32.toNat.inj (joined.trans value.symm)
  simp only [utf8Continue, mark, ne_eq, not_true_eq_false, if_false, same]

theorem reads_one (c : Char) (size : c.toNat < 0x80) :
    ReadsChar c (UInt8.ofNat c.toNat) [] c.val 0 := by
  have byte : (UInt8.ofNat c.toNat).toNat = c.toNat := by
    simp only [UInt8.toNat_ofNat']
    omega
  refine ⟨utf8EncodeChar_ascii c size, ?_, rfl, by simp⟩
  have same : (UInt8.ofNat c.toNat).toUInt32 = c.val := by
    apply UInt32.toNat.inj
    simp only [UInt8.toNat_toUInt32, byte]
    rfl
  simp only [utf8Lead, UInt8.le_iff_toNat_le, byte, same, UInt8.toNat_ofNat]
  have low : ¬(0xc2 ≤ c.toNat) ∧ ¬(0xe0 ≤ c.toNat) ∧ ¬(0xf0 ≤ c.toNat) ∧ ¬(0x80 ≤ c.toNat) := by
    omega
  simp [low]

theorem masked (first : UInt8) (mask : UInt32) (bits : Nat) (ones : mask.toNat = 2 ^ bits - 1) :
    (first.toUInt32 &&& mask).toNat = first.toNat % 2 ^ bits := by
  rw [UInt32.toNat_and, UInt8.toNat_toUInt32, ones, Nat.and_two_pow_sub_one_eq_mod]

theorem lead_two (first : UInt8) (least : 0xc2 ≤ first.toNat) (most : first.toNat ≤ 0xdf) :
    utf8Lead first = some (first.toUInt32 &&& 31, 1, 0x80) ∧
      (first.toUInt32 &&& 31).toNat = first.toNat - 0xc0 := by
  refine ⟨by simp [utf8Lead, UInt8.le_iff_toNat_le, least, most], ?_⟩
  rw [masked first 31 5 rfl]
  omega

theorem lead_three (first : UInt8) (least : 0xe0 ≤ first.toNat) (most : first.toNat ≤ 0xef) :
    utf8Lead first = some (first.toUInt32 &&& 15, 2, 0x800) ∧
      (first.toUInt32 &&& 15).toNat = first.toNat - 0xe0 := by
  have above : ¬first.toNat ≤ 0xdf := by omega
  refine ⟨by simp [utf8Lead, UInt8.le_iff_toNat_le, least, most, above], ?_⟩
  rw [masked first 15 4 rfl]
  omega

theorem lead_four (first : UInt8) (least : 0xf0 ≤ first.toNat) (most : first.toNat ≤ 0xf4) :
    utf8Lead first = some (first.toUInt32 &&& 7, 3, 0x10000) ∧
      (first.toUInt32 &&& 7).toNat = first.toNat - 0xf0 := by
  have above : ¬first.toNat ≤ 0xdf ∧ ¬first.toNat ≤ 0xef := by omega
  refine ⟨by simp [utf8Lead, UInt8.le_iff_toNat_le, least, most, above], ?_⟩
  rw [masked first 7 3 rfl]
  omega

theorem reads_char (c : Char) : ∃ first tail bits minimum, ReadsChar c first tail bits minimum := by
  have top : c.toNat < 0x110000 := (Point.ofChar c).isLt
  have value : c.val.toNat = c.toNat := rfl
  have word (n : Nat) (small : n < 2 ^ 32) : (UInt32.ofNat n).toNat = n := by
    simp only [UInt32.toNat_ofNat']
    omega
  have byte (n : Nat) (small : n < 2 ^ 8) : (UInt8.ofNat n).toNat = n := by
    simp only [UInt8.toNat_ofNat']
    omega
  by_cases one : c.toNat ≤ 0x7f
  · exact ⟨_, _, _, _, reads_one c (by omega)⟩
  by_cases two : c.toNat ≤ 0x7ff
  · have first := byte (c.toNat / 64 % 0x20 + 0xc0) (by omega)
    obtain ⟨lead, bits⟩ := lead_two (UInt8.ofNat (c.toNat / 64 % 0x20 + 0xc0)) (by omega) (by omega)
    refine ⟨_, [UInt8.ofNat (c.toNat % 64 + 0x80)], _, _, ?_, lead, ?_, ?_⟩
    · simp only [String.utf8EncodeChar, value, one, two, if_false, if_true]
    · rw [utf8Continue_cons _ c.val c.toNat [] (by omega) (by omega)]
      rfl
    · simp only [value, UInt32.toNat_ofNat]
      omega
  by_cases three : c.toNat ≤ 0xffff
  · have first := byte (c.toNat / 4096 % 0x10 + 0xe0) (by omega)
    have middle := word (c.toNat / 64) (by omega)
    obtain ⟨lead, bits⟩ := lead_three (UInt8.ofNat (c.toNat / 4096 % 0x10 + 0xe0)) (by omega)
      (by omega)
    refine ⟨_, [UInt8.ofNat (c.toNat / 64 % 64 + 0x80), UInt8.ofNat (c.toNat % 64 + 0x80)], _, _, ?_,
      lead, ?_, ?_⟩
    · simp only [String.utf8EncodeChar, value, one, two, three, if_false, if_true]
    · rw [utf8Continue_cons _ (UInt32.ofNat (c.toNat / 64)) (c.toNat / 64) _ (by omega) (by omega),
        utf8Continue_cons _ c.val c.toNat [] (by omega) (by omega)]
      rfl
    · simp only [value, UInt32.toNat_ofNat]
      omega
  · have first := byte (c.toNat / 262144 % 0x08 + 0xf0) (by omega)
    have middle := word (c.toNat / 4096) (by omega)
    have last := word (c.toNat / 64) (by omega)
    obtain ⟨lead, bits⟩ := lead_four (UInt8.ofNat (c.toNat / 262144 % 0x08 + 0xf0)) (by omega)
      (by omega)
    refine ⟨_, [UInt8.ofNat (c.toNat / 4096 % 64 + 0x80), UInt8.ofNat (c.toNat / 64 % 64 + 0x80),
      UInt8.ofNat (c.toNat % 64 + 0x80)], _, _, ?_, lead, ?_, ?_⟩
    · simp only [String.utf8EncodeChar, value, one, two, three, if_false]
    · rw [utf8Continue_cons _ (UInt32.ofNat (c.toNat / 4096)) (c.toNat / 4096) _ (by omega) (by omega),
        utf8Continue_cons _ (UInt32.ofNat (c.toNat / 64)) (c.toNat / 64) _ (by omega) (by omega),
        utf8Continue_cons _ c.val c.toNat [] (by omega) (by omega)]
      rfl
    · simp only [value, UInt32.toNat_ofNat]
      omega

theorem utf8Continue_inv (cp result : UInt32) (b : UInt8) (rest : List UInt8) (small : cp.toNat < 2 ^ 26)
    (read : utf8Continue cp (b :: rest) = some result) :
    128 ≤ b.toNat ∧ b.toNat < 192 ∧
      ∃ next : UInt32, next.toNat = cp.toNat * 64 + (b.toNat - 128) ∧
        utf8Continue next rest = some result := by
  have marks : ∀ n < 256, n &&& 192 = 128 → 128 ≤ n ∧ n < 192 := by decide +kernel
  rw [utf8Continue] at read
  split at read
  · cases read
  next mark =>
    have bits := congrArg UInt8.toNat (not_not.mp mark)
    rw [UInt8.toNat_and] at bits
    obtain ⟨least, most⟩ := marks b.toNat b.toNat_lt bits
    have same : UInt8.ofNat ((b.toNat - 128) % 64 + 0x80) = b := by
      apply UInt8.toNat.inj
      simp only [UInt8.toNat_ofNat']
      omega
    have value := (continued cp (b.toNat - 128) small).2
    rw [same, Nat.mod_eq_of_lt (by omega : b.toNat - 128 < 64)] at value
    exact ⟨least, most, _, value, read⟩

theorem utf8Lead_inv (first : UInt8) (bits minimum : UInt32) (count : Nat) (high : 0x80 ≤ first)
    (lead : utf8Lead first = some (bits, count, minimum)) :
    (count = 1 ∧ 0xc2 ≤ first.toNat ∧ first.toNat ≤ 0xdf ∧ bits.toNat = first.toNat - 0xc0) ∨
      (count = 2 ∧ 0xe0 ≤ first.toNat ∧ first.toNat ≤ 0xef ∧ bits.toNat = first.toNat - 0xe0) ∨
      (count = 3 ∧ 0xf0 ≤ first.toNat ∧ first.toNat ≤ 0xf4 ∧ bits.toNat = first.toNat - 0xf0) := by
  by_cases two : 0xc2 ≤ first.toNat ∧ first.toNat ≤ 0xdf
  · obtain ⟨known, value⟩ := lead_two first two.1 two.2
    rw [known] at lead
    cases lead
    exact .inl ⟨rfl, two.1, two.2, value⟩
  by_cases three : 0xe0 ≤ first.toNat ∧ first.toNat ≤ 0xef
  · obtain ⟨known, value⟩ := lead_three first three.1 three.2
    rw [known] at lead
    cases lead
    exact .inr (.inl ⟨rfl, three.1, three.2, value⟩)
  by_cases four : 0xf0 ≤ first.toNat ∧ first.toNat ≤ 0xf4
  · obtain ⟨known, value⟩ := lead_four first four.1 four.2
    rw [known] at lead
    cases lead
    exact .inr (.inr ⟨rfl, four.1, four.2, value⟩)
  · have refused : utf8Lead first = none := by
      simp only [UInt8.le_iff_toNat_le, UInt8.reduceToNat] at high
      simp only [utf8Lead, UInt8.le_iff_toNat_le, UInt8.reduceToNat]
      rw [if_neg two, if_neg three, if_neg four, if_pos high]
    rw [refused] at lead
    cases lead

theorem char_of_reads (first : UInt8) (tail : List UInt8) (bits minimum cp : UInt32)
    (high : 0x80 ≤ first) (lead : utf8Lead first = some (bits, tail.length, minimum))
    (read : utf8Continue bits tail = some cp)
    (three : tail.length = 2 → 0x800 ≤ cp.toNat) (four : tail.length = 3 → 0x10000 ≤ cp.toNat)
    (scalar : cp.toNat.isValidChar) :
    ∃ c : Char, String.utf8EncodeChar c = first :: tail := by
  let c : Char := Char.ofNatAux cp.toNat scalar
  have value : c.val.toNat = cp.toNat := rfl
  have whole : cp.toNat < 0x110000 := by
    simp only [Nat.isValidChar] at scalar
    omega
  have byte (b : UInt8) (n : Nat) (same : n = b.toNat) : UInt8.ofNat n = b := by
    rw [same, UInt8.ofNat_toNat]
  refine ⟨c, ?_⟩
  rcases utf8Lead_inv first bits minimum tail.length high lead with two | more
  · obtain ⟨count, least, most, start⟩ := two
    obtain ⟨b, rfl⟩ := List.length_eq_one_iff.mp count
    obtain ⟨low, top, next, joined, last⟩ := utf8Continue_inv bits cp b [] (by omega) read
    cases last
    have small : ¬c.val.toNat ≤ 0x7f ∧ c.val.toNat ≤ 0x7ff := by omega
    simp only [String.utf8EncodeChar, small, if_false, if_true]
    rw [byte first _ (by omega), byte b _ (by omega)]
  rcases more with wide | widest
  · obtain ⟨count, least, most, start⟩ := wide
    have size := three count
    obtain ⟨b, d, rfl⟩ := List.length_eq_two.mp count
    obtain ⟨low, top, next, joined, read⟩ := utf8Continue_inv bits cp b [d] (by omega) read
    obtain ⟨low', top', last, joined', ended⟩ := utf8Continue_inv next cp d [] (by omega) read
    cases ended
    have small : ¬c.val.toNat ≤ 0x7f ∧ ¬c.val.toNat ≤ 0x7ff ∧ c.val.toNat ≤ 0xffff := by omega
    simp only [String.utf8EncodeChar, small, if_false, if_true]
    rw [byte first _ (by omega), byte b _ (by omega), byte d _ (by omega)]
  · obtain ⟨count, least, most, start⟩ := widest
    have size := four count
    obtain ⟨b, d, e, rfl⟩ := List.length_eq_three.mp count
    obtain ⟨low, top, next, joined, read⟩ := utf8Continue_inv bits cp b [d, e] (by omega) read
    obtain ⟨low', top', more, joined', read⟩ := utf8Continue_inv next cp d [e] (by omega) read
    obtain ⟨low'', top'', last, joined'', ended⟩ := utf8Continue_inv more cp e [] (by omega) read
    cases ended
    have small : ¬c.val.toNat ≤ 0x7f ∧ ¬c.val.toNat ≤ 0x7ff ∧ ¬c.val.toNat ≤ 0xffff := by omega
    simp only [String.utf8EncodeChar, small, if_false]
    rw [byte first _ (by omega), byte b _ (by omega), byte d _ (by omega), byte e _ (by omega)]

theorem utf8EncodeChar_starts (c d : Char) (after other : List UInt8)
    (same : String.utf8EncodeChar c ++ after = String.utf8EncodeChar d ++ other) :
    c = d ∧ after = other := by
  obtain ⟨first, tail, bits, minimum, reads⟩ := reads_char c
  obtain ⟨head, rest, start, least, again⟩ := reads_char d
  rw [reads.written, again.written, List.cons_append, List.cons_append, List.cons.injEq] at same
  obtain ⟨rfl, tails⟩ := same
  have leads := reads.lead.symm.trans again.lead
  simp only [Option.some.injEq, Prod.mk.injEq] at leads
  obtain ⟨rfl, lengths, rfl⟩ := leads
  obtain ⟨rfl, rfl⟩ := List.append_inj tails lengths
  have values := reads.read.symm.trans again.read
  exact ⟨Char.ext (Option.some.inj values), rfl⟩

def pointAllowed (ssid : Bool) (c : Nat) : Bool :=
  if ssid then !(c < 32 || c == 127)
  else !(c < 32 || (127 ≤ c && c ≤ 159) || (0xfdd0 ≤ c && c ≤ 0xfdef) || 0xfffe ≤ c &&& 0xffff)

theorem utf8Allowed_point (cp minimum : UInt32) (ssid : Bool) (least : minimum.toNat ≤ cp.toNat)
    (valid : cp.toNat.isValidChar) : utf8Allowed cp minimum ssid = pointAllowed ssid cp.toNat := by
  simp only [Nat.isValidChar] at valid
  have range : (cp < minimum) = False ∧ (cp > 0x10ffff) = False := by
    simp only [gt_iff_lt, UInt32.lt_iff_toNat_lt, UInt32.toNat_ofNat]
    constructor <;> simp <;> omega
  have scalar : (decide (0xd800 ≤ cp) && decide (cp ≤ 0xdfff)) = false := by
    simp only [Bool.and_eq_false_iff, decide_eq_false_iff_not, UInt32.le_iff_toNat_le,
      UInt32.toNat_ofNat]
    omega
  simp only [utf8Allowed, pointAllowed, range, scalar, decide_false, Bool.false_or]
  cases ssid with
  | true =>
    rw [Bool.eq_iff_iff]
    simp [UInt32.le_iff_toNat_le, UInt32.lt_iff_toNat_lt]
  | false => simp [UInt32.le_iff_toNat_le, UInt32.lt_iff_toNat_lt, Bool.or_assoc]

theorem utf8Loop_chars (ssid : Bool) (chars : List Char) (fuel : Nat)
    (enough : (chars.flatMap String.utf8EncodeChar).length ≤ fuel) :
    utf8Loop ssid fuel (chars.flatMap String.utf8EncodeChar) =
      chars.all (fun c => pointAllowed ssid c.toNat) := by
  induction chars generalizing fuel with
  | nil => cases fuel <;> rfl
  | cons c chars ih =>
    obtain ⟨first, tail, bits, minimum, reads⟩ := reads_char c
    have allowed := utf8Allowed_point c.val minimum ssid reads.least c.valid
    rw [List.flatMap_cons, reads.written] at enough ⊢
    cases fuel with
    | zero => simp at enough
    | succ fuel =>
      simp only [List.cons_append, List.length_cons, List.length_append] at enough
      have later := ih fuel (by omega)
      have room : ¬(tail ++ chars.flatMap String.utf8EncodeChar).length < tail.length := by simp
      simp only [List.cons_append, utf8Loop, reads.lead, room, if_false, List.take_left, reads.read,
        List.drop_left, allowed, later, List.all_cons]
      rfl

end EspBase

import EspBase.Network.Authentication
import EspBase.Protocol.Reply

set_option autoImplicit false

namespace EspBase

theorem halves_small (byte : UInt8) : byte >>> 4 < 16 ∧ byte &&& 15 < 16 := by
  have all : ∀ n < 256, UInt8.ofNat n >>> 4 < 16 ∧ UInt8.ofNat n &&& 15 < 16 := by decide +kernel
  simpa using all byte.toNat byte.toNat_lt

theorem halves_joined (byte : UInt8) : ((byte >>> 4) <<< 4) ||| (byte &&& 15) = byte := by
  have all : ∀ n < 256, ((UInt8.ofNat n >>> 4) <<< 4) ||| (UInt8.ofNat n &&& 15) = UInt8.ofNat n := by
    decide +kernel
  simpa using all byte.toNat byte.toNat_lt

theorem joined_halves (high low : UInt8) (high_small : high < 16) (low_small : low < 16) :
    ((high <<< 4) ||| low) >>> 4 = high ∧ ((high <<< 4) ||| low) &&& 15 = low := by
  have all : ∀ h < 16, ∀ l < 16, ((UInt8.ofNat h <<< 4) ||| UInt8.ofNat l) >>> 4 = UInt8.ofNat h ∧
      ((UInt8.ofNat h <<< 4) ||| UInt8.ofNat l) &&& 15 = UInt8.ofNat l := by decide +kernel
  simpa using all high.toNat (UInt8.lt_iff_toNat_lt.mp high_small) low.toNat
    (UInt8.lt_iff_toNat_lt.mp low_small)

theorem hexDigit_reads (half : UInt8) (small : half < 16) : lowerHexDigit (hexDigit half) = some half := by
  have all : ∀ n < 16, lowerHexDigit (hexDigit (UInt8.ofNat n)) = some (UInt8.ofNat n) := by decide +kernel
  simpa using all half.toNat (UInt8.lt_iff_toNat_lt.mp small)

theorem hexDigit_lowerHex (half : UInt8) (small : half < 16) : lowerHex (hexDigit half) = true := by
  have all : ∀ n < 16, lowerHex (hexDigit (UInt8.ofNat n)) = true := by decide +kernel
  simpa using all half.toNat (UInt8.lt_iff_toNat_lt.mp small)

theorem lowerHexDigit_some (c half : UInt8) (read : lowerHexDigit c = some half) :
    half < 16 ∧ hexDigit half = c := by
  have all : ∀ n < 256, (lowerHexDigit (UInt8.ofNat n)).all
      (fun half => decide (half < 16) && hexDigit half == UInt8.ofNat n) = true := by decide +kernel
  have here := all c.toNat c.toNat_lt
  rw [UInt8.ofNat_toNat, read, Option.all_some, Bool.and_eq_true, decide_eq_true_eq, beq_iff_eq] at here
  exact here

theorem hexText_cons (byte : UInt8) (bytes : List UInt8) :
    hexText (byte :: bytes) = hexDigit (byte >>> 4) :: hexDigit (byte &&& 15) :: hexText bytes := rfl

theorem hexTag_hexText (bytes rest : List UInt8) :
    hexTag bytes.length (hexText bytes ++ rest) = some bytes := by
  induction bytes with
  | nil => rfl
  | cons byte bytes ih =>
    obtain ⟨high, low⟩ := halves_small byte
    simp only [hexText_cons, List.cons_append, List.length_cons, hexTag, hexDigit_reads _ high,
      hexDigit_reads _ low, ih, halves_joined]

theorem hexTag_some (count : Nat) (digits bytes : List UInt8) (read : hexTag count digits = some bytes) :
    bytes.length = count ∧ ∃ rest, digits = hexText bytes ++ rest := by
  induction count generalizing digits bytes with
  | zero =>
    cases read
    exact ⟨rfl, digits, rfl⟩
  | succ count ih =>
    match digits with
    | [] | [_] => cases read
    | high :: low :: more =>
      rw [hexTag] at read
      split at read
      next top bottom others first second later =>
        obtain rfl := Option.some.inj read
        obtain ⟨length, rest, rfl⟩ := ih more others later
        obtain ⟨top_small, top_digit⟩ := lowerHexDigit_some high top first
        obtain ⟨bottom_small, bottom_digit⟩ := lowerHexDigit_some low bottom second
        obtain ⟨top_half, bottom_half⟩ := joined_halves top bottom top_small bottom_small
        refine ⟨congrArg (· + 1) length, rest, ?_⟩
        rw [hexText_cons, top_half, bottom_half, top_digit, bottom_digit]
        rfl
      next => cases read

theorem hexText_length (bytes : List UInt8) : (hexText bytes).length = 2 * bytes.length := by
  induction bytes with
  | nil => rfl
  | cons byte bytes ih =>
    rw [hexText_cons, List.length_cons, List.length_cons, List.length_cons, ih]
    omega

theorem hexText_injective (first second : List UInt8) (same : hexText first = hexText second) :
    first = second := by
  have lengths : first.length = second.length := by
    have sizes := congrArg List.length same
    simp only [hexText_length] at sizes
    omega
  have read := hexTag_hexText first []
  rw [same, lengths, hexTag_hexText second []] at read
  exact (Option.some.inj read).symm

end EspBase

import EspBase.Host.Utf8

set_option autoImplicit false

namespace EspBase

open Unicode

theorem byte_toNat (c : Point) (small : c.val < 0x80) : c.byte.toNat = c.val := by
  simp only [Point.byte, UInt8.toNat_ofNat']
  omega

theorem bounded_agree (size : Nat → Bool) (host : Point → Bool) (device : UInt8 → Bool)
    (refuses : ∀ byte, 0x80 ≤ byte → device byte = false) (narrow : ∀ c, host c = true → c.val < 0x80)
    (same : ∀ c : Point, c.val < 0x80 → host c = device c.byte) (s : Text) (bytes : List UInt8)
    (encoded : encode s = some bytes) :
    (size bytes.length && bytes.all device) = (size s.length && s.all host) := by
  have tests : bytes.all device = s.all host := by
    rw [encode_all device refuses s bytes encoded]
    congr 1
    funext c
    by_cases small : c.val < 0x80
    · simp [small, same c small]
    · have refused : host c = false := by
        cases tested : host c with
        | false => rfl
        | true => exact absurd (narrow c tested) small
      simp [small, refused]
  cases tested : s.all host with
  | false => simp [tests, tested]
  | true =>
    have ascii : isAscii s = true :=
      List.all_eq_true.mpr (fun c member => by
        simpa using narrow c (List.all_eq_true.mp tested c member))
    have lengths : bytes.length = s.length := by
      rw [encode_ascii s bytes encoded ascii, List.length_map]
    rw [tests, tested, lengths]

def hostPoint (c : Point) : Bool := alnumPoint c || c.val == 0x2d

structure LabelPrefix (reversed : List Point) : Prop where
  short : reversed.length ≤ 63
  plain : reversed.all hostPoint = true
  first : ∀ c, reversed.getLast? = some c → alnumPoint c = true

theorem labelText_begun (reversed : List Point) (fits : LabelPrefix reversed) :
    labelText reversed.reverse = (reversed.head?.map alnumPoint).getD false := by
  cases reversed with
  | nil => rfl
  | cons c tail =>
    obtain ⟨last, here⟩ : ∃ last, (c :: tail).getLast? = some last := by
      simp [List.getLast?_eq_some_getLast]
    have short := fits.short
    have plain : (c :: tail).all (fun c => alnumPoint c || c.val == 0x2d) = true := fits.plain
    have first := fits.first last here
    simp only [List.length_cons] at short
    simp only [labelText, List.length_reverse, List.head?_reverse, here, List.getLast?_reverse,
      List.head?_cons, List.all_reverse, plain, first, Option.map_some, Option.getD_some,
      List.length_cons]
    simp [short]

theorem labels_refused (separator : Point → Bool) (rest : Text) (reversed : List Point)
    (refused : ∀ tail, labelText (reversed.reverse ++ tail) = false) :
    (rest.splitOnPPrepend separator reversed).all labelText = false := by
  rw [List.splitOnPPrepend_eq_modifyHead]
  obtain ⟨first, others, split⟩ := List.exists_cons_of_ne_nil (List.splitOnP_ne_nil separator rest)
  simp [split, refused first]

theorem alnum_byte (c : Point) (small : c.val < 0x80) :
    (isLower c.byte || isUpper c.byte || isDigit c.byte) = alnumPoint c := by
  simp [isLower, isUpper, isDigit, alnumPoint, UInt8.le_iff_toNat_le, byte_toNat c small]

theorem byte_eq (c : Point) (small : c.val < 0x80) (value : UInt8) :
    (c.byte = value) = (c.val = value.toNat) := by
  rw [← UInt8.toNat_inj, byte_toNat c small]

theorem labelText_dash (tail : Text) (c : Point) (dash : c.val = 0x2d) :
    labelText (c :: tail) = false := by
  simp [labelText, alnumPoint, dash]

theorem labelText_long (label : Text) (long : 63 < label.length) : labelText label = false := by
  have excess : ¬label.length ≤ 63 := by omega
  simp [labelText, excess]

theorem labelText_other (label : Text) (c : Point) (member : c ∈ label) (other : hostPoint c = false) :
    labelText label = false := by
  have refused : label.all (fun c => alnumPoint c || c.val == 0x2d) = false := by
    rw [List.all_eq_false]
    exact ⟨c, member, by simpa [hostPoint] using other⟩
  simp [labelText, refused]

theorem LabelPrefix.cons {reversed : List Point} (fits : LabelPrefix reversed) (c : Point)
    (plain : hostPoint c = true) (room : reversed.length + 1 ≤ 63)
    (start : reversed = [] → alnumPoint c = true) : LabelPrefix (c :: reversed) := by
  refine ⟨by simpa using room, by simp [plain, fits.plain], ?_⟩
  intro first here
  cases reversed with
  | nil =>
    obtain rfl : c = first := by simpa using here
    exact start rfl
  | cons d tail =>
    rw [List.getLast?_cons_cons] at here
    exact fits.first first here

theorem hostnameLoop_labels (rest : Text) (reversed : List Point) (previous : UInt8)
    (ascii : isAscii rest = true) (fits : LabelPrefix reversed)
    (last : ∀ c tail, reversed = c :: tail → c.val < 0x80 ∧ previous = c.byte)
    (closed : rest = [] → labelText reversed.reverse = true) :
    hostnameLoop reversed.length previous (rest.map Point.byte) =
      (rest.splitOnPPrepend (· == 0x2e) reversed).all labelText := by
  induction rest generalizing reversed previous with
  | nil => simp [hostnameLoop, closed rfl]
  | cons c rest ih =>
    simp only [isAscii, List.all_cons, Bool.and_eq_true, decide_eq_true_eq] at ascii ih
    obtain ⟨small, ascii⟩ := ascii
    have empty : (rest.map Point.byte).isEmpty = rest.isEmpty := by cases rest <;> rfl
    by_cases dot : c.val = 0x2e
    · have stop : c = 0x2e := Fin.ext dot
      have byte : c.byte = 0x2e := by rw [byte_eq c small]; exact dot
      rw [List.splitOnPPrepend_cons_pos (by simp [stop]), List.all_cons, labelText_begun _ fits,
        List.map_cons]
      simp only [hostnameLoop, byte, if_true, empty]
      cases reversed with
      | nil => simp
      | cons d tail =>
        obtain ⟨low, same⟩ := last d tail rfl
        by_cases dash : d.val = 0x2d
        · have minus : previous = 0x2d := by rw [same, byte_eq d low]; exact dash
          simp [minus, alnumPoint, dash]
        · have other : ¬previous = 0x2d := by rw [same, byte_eq d low]; exact dash
          have alnum : alnumPoint d = true := by
            have plain := fits.plain
            simp only [List.all_cons, Bool.and_eq_true, hostPoint, Bool.or_eq_true, beq_iff_eq] at plain
            exact plain.1.resolve_right dash
          cases rest with
          | nil => simp [labelText]
          | cons e more =>
            have fresh := ih [] 0x2e ascii ⟨by simp, rfl, by simp⟩ (by simp) (by simp)
            simpa [other, alnum] using fresh
    · have apart : (c == 0x2e) = false := by
        simp only [beq_eq_false_iff_ne, ne_eq]
        exact fun same => dot (congrArg Fin.val same)
      have byte : ¬c.byte = 0x2e := by rw [byte_eq c small]; exact dot
      have minus : (c.byte == 0x2d) = (c.val == 0x2d) := by
        rw [Bool.eq_iff_iff, beq_iff_eq, beq_iff_eq, byte_eq c small]
        rfl
      have minus' : (c.byte = 0x2d) = (c.val = 0x2d) := byte_eq c small 0x2d
      rw [List.splitOnPPrepend_cons_neg (p := (· == 0x2e)) apart, List.map_cons]
      simp only [hostnameLoop, byte, if_false, empty, alnum_byte c small, minus, minus']
      by_cases plain : hostPoint c = true
      · by_cases start : reversed = [] ∧ c.val = 0x2d
        · obtain ⟨rfl, dash⟩ := start
          rw [labels_refused _ rest [c] (fun tail => labelText_dash tail c dash)]
          simp [alnumPoint, dash]
        · by_cases long : reversed.length + 1 > 63
          · rw [labels_refused _ rest (c :: reversed) (fun tail => labelText_long _ (by simp; omega))]
            simp [long]
          · have either : alnumPoint c = true ∨ c.val = 0x2d := by
              simpa [hostPoint] using plain
            have begins : reversed = [] → alnumPoint c = true :=
              fun nil => either.resolve_right (fun dash => start ⟨nil, dash⟩)
            have grown := fits.cons c plain (by omega) begins
            have taken : (alnumPoint c || (c.val == 0x2d && reversed.length != 0)) = true := by
              rcases either with alnum | dash
              · simp [alnum]
              · have nonempty : reversed ≠ [] := fun nil => start ⟨nil, dash⟩
                simp [dash, nonempty]
            by_cases ends : rest = [] ∧ c.val = 0x2d
            · obtain ⟨rfl, dash⟩ := ends
              have closing := labelText_begun (c :: reversed) grown
              simp only [List.head?_cons, Option.map_some, Option.getD_some] at closing
              rw [List.splitOnPPrepend_nil]
              simp only [List.all_cons, List.all_nil, closing]
              simp [dash, alnumPoint]
            · have later := ih (c :: reversed) c.byte ascii grown
                (fun d tail same => by
                  obtain ⟨rfl, -⟩ := List.cons.inj same
                  exact ⟨small, rfl⟩)
                (fun nil => by
                  rw [labelText_begun _ grown]
                  exact either.resolve_right (fun dash => ends ⟨nil, dash⟩))
              have open_ : ¬(reversed.length + 1 > 63 ∨ rest.isEmpty = true ∧ c.val = 0x2d) := by
                simp only [List.isEmpty_iff]
                tauto
              simp only [taken, Bool.not_true, Bool.false_eq_true, if_false, open_]
              exact later
      · rw [labels_refused _ rest (c :: reversed)
          (fun tail => labelText_other _ c (by simp) (by simpa using plain))]
        simp only [hostPoint, Bool.not_eq_true, Bool.or_eq_false_iff] at plain
        simp [plain.1, plain.2]

theorem hostnameLoop_plain (label : Nat) (previous : UInt8) (host : List UInt8)
    (accepted : hostnameLoop label previous host = true) :
    host.all (fun c => isLower c || isUpper c || isDigit c || c == 0x2d || c == 0x2e) = true := by
  induction host generalizing label previous with
  | nil => rfl
  | cons c rest ih =>
    simp only [hostnameLoop] at accepted
    split at accepted
    next dot =>
      split at accepted
      · simp at accepted
      · simp [dot, ih _ _ accepted]
    next =>
      split at accepted
      · simp at accepted
      next plain =>
        split at accepted
        · simp at accepted
        · have taken : (isLower c || isUpper c || isDigit c || c == 0x2d || c == 0x2e) = true := by
            simp only [Bool.not_eq_true', Bool.not_eq_false, Bool.or_eq_true, Bool.and_eq_true] at plain ⊢
            tauto
          rw [List.all_cons, taken, ih _ _ accepted]
          rfl

theorem hostnameText_agree (s : Text) (bytes : List UInt8) (encoded : encode s = some bytes) :
    hostnameText (.str s) = hostnameValid bytes := by
  cases ascii : isAscii s with
  | false =>
    have refused : hostnameValid bytes = false := by
      by_contra accepted
      simp only [Bool.not_eq_false] at accepted
      unfold hostnameValid at accepted
      split at accepted
      · simp at accepted
      · have plain := hostnameLoop_plain _ _ _ accepted
        rw [encode_all _ (fun byte high => ?_) s bytes encoded] at plain
        · have all : isAscii s = true := by
            refine List.all_eq_true.mpr (fun c member => ?_)
            exact (Bool.and_eq_true_iff.mp (List.all_eq_true.mp plain c member)).1
          rw [ascii] at all
          contradiction
        · rw [UInt8.le_iff_toNat_le] at high
          simp only [isLower, isUpper, isDigit, UInt8.le_iff_toNat_le, ← UInt8.toNat_inj, beq_eq_decide,
            Bool.or_eq_false_iff, Bool.and_eq_false_iff, decide_eq_false_iff_not]
          simp at high ⊢
          omega
    rw [refused]
    simp [hostnameText, ascii]
  | true =>
    have written := encode_ascii s bytes encoded ascii
    have loop := hostnameLoop_labels s [] 0 ascii ⟨by simp, rfl, by simp⟩ (by simp)
    subst written
    cases s with
    | nil => simp [hostnameText, hostnameValid]
    | cons c rest =>
      have run := loop (by simp)
      simp only [List.length_nil] at run
      simp only [hostnameText, hostnameValid, ascii, List.length_map, run, List.splitOn,
        List.splitOnPPrepend_nil_right]
      have nonzero : (c :: rest).length ≠ 0 := Nat.succ_ne_zero _
      generalize (c :: rest).length = size at nonzero ⊢
      by_cases long : size > 253
      · rw [if_pos (.inr long), decide_eq_false (Nat.not_le.mpr long)]
        simp
      · have within : size ≤ 253 := Nat.not_lt.mp long
        rw [if_neg (by omega), decide_eq_true within, decide_eq_true (Nat.one_le_iff_ne_zero.mpr nonzero)]
        simp

theorem one_le (n : Nat) : decide (1 ≤ n) = (n != 0) := by
  cases n <;> simp

theorem ssidText_agree (s : Text) (bytes : List UInt8) (encoded : encode s = some bytes) :
    ssidText (.str s) = (bytes.length != 0 && bytes.length ≤ 32 && utf8 bytes true) := by
  have allowed : (!s.any (fun c => c.val < 32 || c.val == 127)) =
      s.all (fun c => pointAllowed true c.val) := by
    rw [List.not_any_eq_all_not]
    rfl
  simp only [ssidText, encoded, allowed, utf8_encode true s bytes encoded, one_le]

theorem wifiPasswordText_agree (s : Text) (bytes : List UInt8) (encoded : encode s = some bytes) :
    wifiPasswordText (.str s) = (8 ≤ bytes.length && bytes.length ≤ 64 &&
      bytes.all (wifiPasswordByte bytes.length)) := by
  have short := bounded_agree (fun n => 8 ≤ n && n ≤ 63) printable (fun c => 0x20 ≤ c && c ≤ 0x7e)
    (by
      intro byte high
      simp [UInt8.le_iff_toNat_le] at high ⊢
      omega)
    (by
      intro c plain
      simp [printable] at plain
      omega)
    (by
      intro c small
      simp [printable, UInt8.le_iff_toNat_le, byte_toNat c small])
    s bytes encoded
  have full := bounded_agree (fun n => n == 64) (fun c => hexPoint c || upperHexPoint c)
    (fun c => isDigit c || (0x61 ≤ c && c ≤ 0x66) || (0x41 ≤ c && c ≤ 0x46))
    (by
      intro byte high
      simp [isDigit, UInt8.le_iff_toNat_le] at high ⊢
      omega)
    (by
      intro c plain
      simp [hexPoint, upperHexPoint] at plain
      omega)
    (by
      intro c small
      simp [hexPoint, upperHexPoint, isDigit, UInt8.le_iff_toNat_le, byte_toNat c small])
    s bytes encoded
  simp only [wifiPasswordText, ← short, ← full]
  by_cases whole : bytes.length = 64
  · have hex : wifiPasswordByte 64 =
        (fun c => isDigit c || (0x61 ≤ c && c ≤ 0x66) || (0x41 ≤ c && c ≤ 0x46)) := by
      funext c
      simp [wifiPasswordByte]
    simp [whole, hex]
  · have plain : wifiPasswordByte bytes.length = (fun c => 0x20 ≤ c && c ≤ 0x7e) := by
      funext c
      simp [wifiPasswordByte, whole]
    have sizes : (decide (8 ≤ bytes.length) && decide (bytes.length ≤ 63)) =
        (decide (8 ≤ bytes.length) && decide (bytes.length ≤ 64)) := by
      rw [Bool.eq_iff_iff]
      simp
      omega
    have other : (bytes.length == 64) = false := by simpa using whole
    rw [plain, sizes, other]
    simp

theorem wifi_agree (ssid password : Text) (ssidBytes passwordBytes : List UInt8)
    (first : encode ssid = some ssidBytes) (second : encode password = some passwordBytes) :
    wifiValuesValid true ssidBytes passwordBytes =
      (ssidText (.str ssid) && wifiPasswordText (.str password)) := by
  rw [ssidText_agree ssid ssidBytes first, wifiPasswordText_agree password passwordBytes second]
  simp [wifiValuesValid, Bool.and_assoc]

theorem credentialText_agree (limit : Nat) (s : Text) (bytes : List UInt8)
    (encoded : encode s = some bytes) :
    credentialText limit (.str s) =
      (bytes.length != 0 && bytes.length ≤ limit && utf8 bytes false) := by
  have allowed : (!s.any (fun c => c.val < 32 || (127 ≤ c.val && c.val ≤ 159) ||
      (0xfdd0 ≤ c.val && c.val ≤ 0xfdef) || 0xfffe ≤ c.val &&& 0xffff)) =
      s.all (fun c => pointAllowed false c.val) := by
    rw [List.not_any_eq_all_not]
    rfl
  simp only [credentialText, encoded, allowed, utf8_encode false s bytes encoded, one_le]

theorem contains_iff (haystack needle : List UInt8) :
    contains haystack needle = true ↔ needle <:+: haystack := by
  simp only [contains, List.any_eq_true, List.mem_range, beq_iff_eq]
  constructor
  · rintro ⟨i, -, found⟩
    rw [← found]
    exact (List.take_prefix _ _).isInfix.trans (List.drop_suffix _ _).isInfix
  · rintro ⟨front, back, rfl⟩
    refine ⟨front.length, by simp; omega, ?_⟩
    simp

theorem infix_bytes (needle s : Text) (low : isAscii needle = true) (ascii : isAscii s = true) :
    needle.map Point.byte <:+: s.map Point.byte ↔ needle <:+: s := by
  constructor
  · rintro ⟨front, back, whole⟩
    obtain ⟨both, after, split, mapped, -⟩ := List.map_eq_append_iff.mp whole.symm
    obtain ⟨before, middle, rfl, -, same⟩ := List.map_eq_append_iff.mp mapped
    have here : isAscii middle = true := by
      rw [split] at ascii
      simp only [isAscii, List.all_append, Bool.and_eq_true] at ascii
      exact ascii.1.2
    have equal : middle = needle :=
      encode_injective middle needle _ (same ▸ encode_of_ascii middle here)
        (encode_of_ascii needle low)
    exact ⟨before, after, by rw [← equal, split]⟩
  · rintro ⟨front, back, rfl⟩
    exact ⟨front.map Point.byte, back.map Point.byte, by simp⟩

theorem certificateText_agree (limit : Nat) (s : Text) (bytes : List UInt8)
    (encoded : encode s = some bytes) :
    certificateText limit (.str s) =
      (bytes.length != 0 && bytes.length ≤ limit && bytes.all pemByte &&
        contains bytes beginCertificate && contains bytes endCertificate) := by
  have plain := bounded_agree (fun n => 1 ≤ n && n ≤ limit)
    (fun c => c.val == 9 || c.val == 13 || c.val == 10 || printable c) pemByte
    (by
      intro byte high
      simp only [pemByte, ← UInt8.toNat_inj, beq_eq_decide, UInt8.le_iff_toNat_le,
        Bool.or_eq_false_iff, Bool.and_eq_false_iff, decide_eq_false_iff_not] at high ⊢
      simp at high ⊢
      omega)
    (by
      intro c plain
      simp [printable] at plain
      omega)
    (by
      intro c small
      simp only [pemByte, printable, ← UInt8.toNat_inj, beq_eq_decide, UInt8.le_iff_toNat_le,
        byte_toNat c small]
      rw [Bool.eq_iff_iff]
      simp
      tauto)
    s bytes encoded
  simp only [one_le] at plain
  simp only [certificateText, ← plain, one_le]
  by_cases tested : bytes.all pemByte = true
  · have ascii : isAscii s = true := by
      have high (byte : UInt8) (above : 0x80 ≤ byte) : pemByte byte = false := by
        simp only [pemByte, ← UInt8.toNat_inj, beq_eq_decide, UInt8.le_iff_toNat_le,
          Bool.or_eq_false_iff, Bool.and_eq_false_iff, decide_eq_false_iff_not] at above ⊢
        simp at above ⊢
        omega
      rw [encode_all pemByte high s bytes encoded] at tested
      refine List.all_eq_true.mpr (fun c member => ?_)
      exact (Bool.and_eq_true_iff.mp (List.all_eq_true.mp tested c member)).1
    have written := encode_ascii s bytes encoded ascii
    have found (needle : Text) (low : isAscii needle = true) :
        decide (needle <:+: s) = contains bytes (needle.map Point.byte) := by
      rw [Bool.eq_iff_iff, decide_eq_true_iff, contains_iff, written, infix_bytes needle s low ascii]
    rw [found _ (by decide +kernel), found _ (by decide +kernel)]
    have begins : (text "-----BEGIN CERTIFICATE-----").map Point.byte = beginCertificate := by
      decide +kernel
    have ends : (text "-----END CERTIFICATE-----").map Point.byte = endCertificate := by
      decide +kernel
    rw [begins, ends]
  · simp [tested]

theorem tokenText_agree (s : Text) (bytes : List UInt8) (encoded : encode s = some bytes) :
    tokenText (.str s) =
      (bytes.length != 0 && bytes.length ≤ frpTokenMaxBytes && bytes.all tokenByte) := by
  have plain := bounded_agree (fun n => 1 ≤ n && n ≤ 256) (fun c => 32 < c.val && c.val < 127) tokenByte
    (by
      intro byte high
      simp [tokenByte, UInt8.le_iff_toNat_le] at high ⊢
      omega)
    (by
      intro c plain
      simp at plain
      omega)
    (by
      intro c small
      rw [Bool.eq_iff_iff]
      simp [tokenByte, UInt8.le_iff_toNat_le, byte_toNat c small])
    s bytes encoded
  simp only [one_le] at plain
  simp only [tokenText, ← plain, one_le, frpTokenMaxBytes]
  rfl

theorem proxyText_agree (s : Text) (bytes : List UInt8) (encoded : encode s = some bytes) :
    proxyText (.str s) = (bytes.length != 0 && bytes.length ≤ 128 && bytes.all proxyByte) := by
  have plain := bounded_agree (fun n => 1 ≤ n && n ≤ 128)
    (fun c => !(c.val ≤ 32 || 127 ≤ c.val || c.val == 0x2f || c.val == 0x5c || c.val == 0x2a ||
      c.val == 0x40)) proxyByte
    (by
      intro byte high
      have above : decide (0x7f ≤ byte) = true := by
        simp [UInt8.le_iff_toNat_le] at high ⊢
        omega
      simp only [proxyByte, above, Bool.or_true, Bool.true_or, Bool.not_true])
    (by
      intro c plain
      simp at plain
      omega)
    (by
      intro c small
      simp only [proxyByte, ← UInt8.toNat_inj, beq_eq_decide, UInt8.le_iff_toNat_le,
        byte_toNat c small]
      rfl)
    s bytes encoded
  simp only [one_le] at plain
  simp only [proxyText, List.not_any_eq_all_not, ← plain, one_le]

def hexPointOf (nibble : Nat) : Point :=
  Fin.ofNat _ (if nibble < 10 then 0x30 + nibble else 0x57 + nibble)

def keyHex (bytes : List UInt8) : Text :=
  bytes.flatMap (fun byte => [hexPointOf (byte.toNat / 16), hexPointOf (byte.toNat % 16)])

theorem hexPointOf_nibble (nibble : Nat) (small : nibble < 16) :
    hexPoint (hexPointOf nibble) = true ∧
      ((hexPointOf nibble).val != 0x30) = (nibble != 0) := by
  revert nibble
  decide

theorem keyHex_all (bytes : List UInt8) : (keyHex bytes).all hexPoint = true := by
  induction bytes with
  | nil => rfl
  | cons byte rest ih =>
    have high := (hexPointOf_nibble (byte.toNat / 16) (by have := byte.toNat_lt; omega)).1
    have low := (hexPointOf_nibble (byte.toNat % 16) (by omega)).1
    simp only [keyHex, List.flatMap_cons, List.all_append, List.all_cons, List.all_nil, high, low,
      Bool.and_self, Bool.true_and]
    exact ih

theorem keyHex_any (bytes : List UInt8) :
    (keyHex bytes).any (fun c => c.val != 0x30) = !zeros bytes := by
  induction bytes with
  | nil => rfl
  | cons byte rest ih =>
    have high := (hexPointOf_nibble (byte.toNat / 16) (by have := byte.toNat_lt; omega)).2
    have low := (hexPointOf_nibble (byte.toNat % 16) (by omega)).2
    have split : (byte.toNat / 16 != 0 || byte.toNat % 16 != 0) = (byte != 0) := by
      rw [Bool.eq_iff_iff]
      simp only [Bool.or_eq_true, bne_iff_ne, ne_eq, ← UInt8.toNat_inj]
      simp
      omega
    simp only [keyHex, List.flatMap_cons, List.any_append, List.any_cons, List.any_nil, high, low,
      Bool.or_false, split]
    rw [show (rest.flatMap _).any _ = _ from ih]
    simp [zeros, Bool.not_and, bne]

theorem keyHex_length (bytes : List UInt8) : (keyHex bytes).length = 2 * bytes.length := by
  simp [keyHex, Nat.mul_comm]

theorem keyText_hex (key : List UInt8) (exact : key.length = 32) :
    keyText (.str (keyHex key)) = !zeros key := by
  simp only [keyText, keyHex_length, exact, keyHex_all, keyHex_any]
  rfl

theorem portNumber_agree (port : UInt16) : portNumber (.int port.toNat) = (port != 0) := by
  have bound := port.toNat_lt
  rw [Bool.eq_iff_iff]
  simp only [portNumber, Bool.and_eq_true, decide_eq_true_iff, bne_iff_ne, ne_eq, ← UInt16.toNat_inj]
  simp
  omega

theorem mqtt_agree (host user password ca : Text) (hostBytes userBytes passwordBytes caBytes : List UInt8)
    (port : UInt16) (key : List UInt8) (hosts : encode host = some hostBytes)
    (users : encode user = some userBytes) (passwords : encode password = some passwordBytes)
    (cas : encode ca = some caBytes) (exact : key.length = 32) :
    mqttValuesValid true hostBytes port userBytes passwordBytes caBytes key =
      (hostnameText (.str host) && portNumber (.int port.toNat) && credentialText 128 (.str user) &&
        credentialText 256 (.str password) && certificateText 4096 (.str ca) &&
        keyText (.str (keyHex key))) := by
  rw [hostnameText_agree host _ hosts, portNumber_agree, credentialText_agree 128 user _ users,
    credentialText_agree 256 password _ passwords, certificateText_agree 4096 ca _ cas,
    keyText_hex key exact, Bool.eq_iff_iff]
  simp only [mqttValuesValid, Bool.not_true, Bool.false_eq_true, if_false, Bool.and_eq_true]
  tauto

theorem frp_agree (host token ca proxy : Text) (hostBytes tokenBytes caBytes proxyBytes : List UInt8)
    (serverPort remotePort localPort : UInt16) (key : List UInt8) (hosts : encode host = some hostBytes)
    (tokens : encode token = some tokenBytes) (cas : encode ca = some caBytes)
    (proxies : encode proxy = some proxyBytes) (exact : key.length = 32) :
    frpValuesValid true hostBytes serverPort tokenBytes caBytes proxyBytes remotePort localPort key =
      (hostnameText (.str host) && portNumber (.int serverPort.toNat) &&
        portNumber (.int remotePort.toNat) && portNumber (.int localPort.toNat) &&
        tokenText (.str token) && certificateText 2048 (.str ca) && proxyText (.str proxy) &&
        keyText (.str (keyHex key))) := by
  rw [hostnameText_agree host _ hosts, portNumber_agree, portNumber_agree, portNumber_agree,
    tokenText_agree token _ tokens, certificateText_agree 2048 ca _ cas,
    proxyText_agree proxy _ proxies, keyText_hex key exact, Bool.eq_iff_iff]
  simp only [frpValuesValid, pemValid, frpCaMaxBytes, Bool.not_true, Bool.false_eq_true, if_false,
    Bool.and_eq_true]
  tauto

end EspBase

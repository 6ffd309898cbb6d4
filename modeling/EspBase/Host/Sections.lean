import EspBase.Host.Migration
import EspBase.Host.Trees
import EspBase.Network.Hex

set_option autoImplicit false

namespace EspBase

open Bytes Unicode

def textBytes : Json → List UInt8
  | .str value => (encode value).getD []
  | _ => []

def portOf : Json → UInt16
  | .int port => UInt16.ofNat port.toNat
  | _ => 0

def keyOf (value : Json) : List UInt8 := (hexTag 32 (textBytes value)).getD []

def wifiOf : Json → WifiConfig
  | .dict fields =>
    { configured := true
      ssid := padded 33 (textBytes (field fields "ssid"))
      password := padded 65 (textBytes (field fields "password")) }
  | _ => .zero

def mqttOf : Json → MqttConfig
  | .dict fields =>
    { configured := true
      hostname := padded 254 (textBytes (field fields "hostname"))
      port := portOf (field fields "port")
      username := padded 129 (textBytes (field fields "username"))
      password := padded 257 (textBytes (field fields "password"))
      caPem := padded 4097 (textBytes (field fields "ca_pem"))
      managementKey := padded 32 (keyOf (field fields "management_key_hex")) }
  | _ => .zero

def frpOf : Json → FrpConfig
  | .dict fields =>
    { configured := true
      serverHostname := padded 254 (textBytes (field fields "server_hostname"))
      serverPort := portOf (field fields "server_port")
      token := padded 257 (textBytes (field fields "token"))
      caPem := padded 2049 (textBytes (field fields "ca_pem"))
      proxyName := padded 129 (textBytes (field fields "proxy_name"))
      remotePort := portOf (field fields "remote_port")
      localPort := portOf (field fields "local_port")
      managementKey := padded 32 (keyOf (field fields "management_key_hex")) }
  | _ => .zero

/-- The record that a validated configuration stands for. -/
def configOf (revision : Nat) : Json → RemoteConfig
  | .dict fields =>
    { revision := UInt32.ofNat revision
      wifi := wifiOf (field fields "wifi")
      mqtt := mqttOf (field fields "mqtt")
      frp := frpOf (field fields "frp") }
  | _ => .zero

structure FieldRead (fields : Entries) (items : List (CString × CJson)) (name : String) (tree : CJson) : Prop where
  value : (field fields name).tree = some tree
  item : objectItem (some (.object items)) name = some tree
  regular : (field fields name).Regular

theorem entriesRegular_lookup (entries : Entries) (regular : EntriesRegular entries) (name : Text) (value : Json)
    (found : entries.lookup name = some value) : value.Regular := by
  induction entries with
  | nil => simp at found
  | cons entry entries ih =>
    obtain ⟨key, first⟩ := entry
    obtain ⟨-, here, later⟩ := regular
    rw [List.lookup_cons] at found
    cases same : name == key with
    | true =>
      obtain rfl : first = value := by simpa [same] using found
      exact here
    | false => exact ih later (by simpa [same] using found)

theorem field_read (fields : Entries) (items : List (CString × CJson)) (read : entriesTree fields = some items)
    (regular : Json.Regular (.dict fields)) (names : List String)
    (keys : sameKeys fields (names.map text) = true) (name : String) (member : name ∈ names)
    (ascii : isAscii (text name) = true) : ∃ tree, FieldRead fields items name tree := by
  simp only [sameKeys, Bool.and_eq_true, List.all_eq_true, List.any_eq_true, List.forall_mem_map,
    beq_iff_eq] at keys
  obtain ⟨entry, inside, named⟩ := keys.2 name member
  cases found : fields.lookup (text name) with
  | none => exact absurd named.symm (by simpa using List.lookup_eq_none_iff.mp found entry inside)
  | some value =>
    have here : field fields name = value := by simp [field, found]
    obtain ⟨tree, same, item⟩ := (objectItem_tree fields items read regular.2 name ascii).1 value found
    have whole := entriesRegular_lookup fields regular.2 (text name) value found
    exact ⟨tree, here ▸ same, item, here ▸ whole⟩

variable {fields : Entries} {items : List (CString × CJson)} {name : String} {tree : CJson}

theorem string_tree (value : Json) (regular : value.Regular) (read : value.tree = some tree) :
    (∃ s key, value = .str s ∧ tree = .string key ∧ encode s = some key.bytes) ∨
      ((∀ s, value ≠ .str s) ∧ stringOf (some tree) = none) := by
  cases value with
  | str s =>
    obtain ⟨key, named, rfl⟩ := Option.map_eq_some_iff.mp read
    exact .inl ⟨s, key, rfl, rfl, (stringTree_encode s regular key).mp named⟩
  | null => cases read; exact .inr ⟨by simp, rfl⟩
  | bool value => cases read; exact .inr ⟨by simp, rfl⟩
  | int value => cases read; exact .inr ⟨by simp, rfl⟩
  | float value => cases read
  | list values =>
    obtain ⟨trees, -, rfl⟩ := Option.map_eq_some_iff.mp read
    exact .inr ⟨by simp, rfl⟩
  | dict entries =>
    obtain ⟨trees, -, rfl⟩ := Option.map_eq_some_iff.mp read
    exact .inr ⟨by simp, rfl⟩

theorem number_tree (value : Json) (read : value.tree = some tree) :
    (∃ n, value = .int n ∧ tree = .number (Double.ofInt n)) ∨
      ((∀ n, value ≠ .int n) ∧ numberOf (some tree) = none) := by
  cases value with
  | int n => cases read; exact .inl ⟨n, rfl, rfl⟩
  | null => cases read; exact .inr ⟨by simp, rfl⟩
  | bool value => cases read; exact .inr ⟨by simp, rfl⟩
  | float value => cases read
  | str s =>
    obtain ⟨key, -, rfl⟩ := Option.map_eq_some_iff.mp read
    exact .inr ⟨by simp, rfl⟩
  | list values =>
    obtain ⟨trees, -, rfl⟩ := Option.map_eq_some_iff.mp read
    exact .inr ⟨by simp, rfl⟩
  | dict entries =>
    obtain ⟨trees, -, rfl⟩ := Option.map_eq_some_iff.mp read
    exact .inr ⟨by simp, rfl⟩

def TextIs (most : Nat) (value : Json) (bytes : List UInt8) : Prop :=
  ∃ s, value = .str s ∧ encode s = some bytes ∧ 0 ∉ bytes ∧ bytes.length ≤ most

theorem TextIs.bytes {most : Nat} {value : Json} {bytes : List UInt8} (is : TextIs most value bytes) :
    textBytes value = bytes := by
  obtain ⟨s, rfl, encoded, -, -⟩ := is
  simp [textBytes, encoded]

theorem TextIs.array {most : Nat} {value : Json} {bytes : List UInt8} (is : TextIs most value bytes)
    (capacity : Nat) (room : most < capacity) :
    textOf (padded capacity bytes).toList = bytes ∧ (textLength (padded capacity bytes).toList).isSome := by
  obtain ⟨s, -, -, unbroken, short⟩ := is
  exact textOf_padded capacity bytes (by omega) unbroken

theorem boundedText_read (here : FieldRead fields items name tree) (most : Nat) (bytes : List UInt8) :
    boundedText most (objectItem (some (.object items)) name) = some bytes ↔
      TextIs most (field fields name) bytes := by
  unfold TextIs
  rw [here.item, boundedText]
  rcases string_tree _ here.regular here.value with ⟨s, key, same, rfl, encoded⟩ | ⟨other, none⟩
  · simp only [same, stringOf, Json.str.injEq, exists_eq_left', encoded, Option.some.injEq]
    by_cases long : key.bytes.length > most
    · simp only [long, if_true, reduceCtorEq, false_iff, not_and]
      intro written _ short
      rw [← written] at short
      omega
    · simp only [long, if_false, Option.some.injEq]
      constructor
      · rintro rfl
        exact ⟨rfl, key.unbroken, by omega⟩
      · exact fun read => read.1
  · simp [none, other]

structure TextCheck (most : Nat) (check : Json → Bool) : Prop where
  other : ∀ value, (∀ s, value ≠ .str s) → check value = false
  short : ∀ s bytes, encode s = some bytes → check (.str s) = true → bytes.length ≤ most

theorem TextCheck.read {most : Nat} {check : Json → Bool} (bounds : TextCheck most check)
    (here : FieldRead fields items name tree) (checked : check (field fields name) = true) :
    ∃ bytes, TextIs most (field fields name) bytes := by
  rcases string_tree _ here.regular here.value with ⟨s, key, same, -, encoded⟩ | ⟨apart, -⟩
  · rw [same] at checked ⊢
    exact ⟨key.bytes, s, rfl, encoded, key.unbroken, bounds.short s key.bytes encoded checked⟩
  · rw [bounds.other _ apart] at checked
    cases checked

theorem wholeNumber_read (here : FieldRead fields items name tree) (most n : Nat) (small : most < 2 ^ 53)
    (least : Nat) :
    wholeNumber least most (objectItem (some (.object items)) name) = some n ↔
      field fields name = .int n ∧ least ≤ n ∧ n ≤ most := by
  rw [here.item, wholeNumber]
  rcases number_tree _ here.value with ⟨value, same, rfl⟩ | ⟨other, none⟩
  · simp only [same, numberOf, Json.int.injEq]
    have between := Double.ofInt_between value least most small
    by_cases inside : least ≤ value ∧ value ≤ most
    · have exact_ := Double.ofInt_exact value (by omega)
      obtain ⟨low, high⟩ := between.mpr inside
      rw [low, high, exact_]
      simp only [Double.isFinite, Double.isWhole, Double.toNat]
      simp
      omega
    · have refused : ((Double.ofInt value).less least || (Double.ofInt value).exceeds most) = true := by
        by_contra passed
        simp only [Bool.or_eq_true, not_or, Bool.not_eq_true] at passed
        exact inside (between.mp passed)
      rw [Bool.or_assoc (!(Double.ofInt value).isFinite), refused]
      simp only [Bool.or_true, Bool.true_or, if_true, reduceCtorEq, false_iff]
      intro read
      omega
  · simp [none, other]

theorem commandHexDigit_lower (c : UInt8) : commandHexDigit c = lowerHexDigit c := by
  simp [commandHexDigit, lowerHexDigit, isDigit]

theorem hexPairs_tag (count : Nat) (digits : List UInt8) (enough : 2 * count ≤ digits.length) :
    hexTag count digits = if (hexPairs count digits).2 then some (hexPairs count digits).1 else none := by
  induction count generalizing digits with
  | zero => rfl
  | succ count ih =>
    obtain ⟨high, rest, rfl⟩ : ∃ high rest, digits = high :: rest := List.exists_cons_of_length_pos (by omega)
    obtain ⟨low, rest, rfl⟩ : ∃ low more, rest = low :: more :=
      List.exists_cons_of_length_pos (by simp at enough; omega)
    have later := ih rest (by simp at enough; omega)
    simp only [hexTag, hexPairs, byteAt, List.getD_cons_zero, List.getD_cons_succ, commandHexDigit_lower,
      List.drop_succ_cons, List.drop_zero]
    cases lowerHexDigit high with
    | none => rfl
    | some top =>
      cases lowerHexDigit low with
      | none => rfl
      | some bottom =>
        rw [later]
        cases (hexPairs count rest).2 <;> simp

theorem keyHex_bytes (key : List UInt8) : (keyHex key).map Point.byte = hexText key ∧ isAscii (keyHex key) = true := by
  have all : ∀ n < 256, (hexPointOf ((UInt8.ofNat n).toNat / 16)).byte = hexDigit (UInt8.ofNat n >>> 4) ∧
      (hexPointOf ((UInt8.ofNat n).toNat % 16)).byte = hexDigit (UInt8.ofNat n &&& 15) ∧
      (hexPointOf ((UInt8.ofNat n).toNat / 16)).val < 0x80 ∧
      (hexPointOf ((UInt8.ofNat n).toNat % 16)).val < 0x80 := by decide +kernel
  induction key with
  | nil => exact ⟨rfl, rfl⟩
  | cons byte key ih =>
    have here := all byte.toNat byte.toNat_lt
    rw [UInt8.ofNat_toNat] at here
    obtain ⟨high, low, small, less⟩ := here
    constructor
    · rw [hexText_cons, ← ih.1]
      simp [keyHex, high, low]
    · have later := ih.2
      simp only [isAscii, keyHex, List.flatMap_cons, List.all_append, List.all_cons, List.all_nil, small, less,
        decide_true, Bool.and_self, Bool.true_and] at later ⊢
      exact later

theorem key_spelled (s : Text) (bytes key : List UInt8) (encoded : encode s = some bytes)
    (size : bytes.length = 64) (read : hexTag 32 bytes = some key) : s = keyHex key ∧ key.length = 32 := by
  have spelled := keyHex_bytes key
  have written := encode_of_ascii (keyHex key) spelled.2
  rw [spelled.1] at written
  obtain ⟨length, rest, split⟩ := hexTag_some 32 bytes key read
  have whole := congrArg List.length split
  rw [List.length_append, hexText_length, size, length] at whole
  obtain rfl : rest = [] := List.eq_nil_of_length_eq_zero (by omega)
  rw [List.append_nil] at split
  exact ⟨encode_injective s (keyHex key) _ encoded (split ▸ written), length⟩

theorem keyBytes_read (here : FieldRead fields items name tree) (key : List UInt8) :
    keyBytes (objectItem (some (.object items)) name) = some key ↔
      field fields name = .str (keyHex key) ∧ key.length = 32 := by
  have spelled := keyHex_bytes key
  have written := encode_of_ascii (keyHex key) spelled.2
  rw [spelled.1] at written
  rw [here.item, keyBytes]
  rcases string_tree _ here.regular here.value with ⟨s, text, same, rfl, encoded⟩ | ⟨other, none⟩
  · simp only [same, stringOf, Json.str.injEq]
    by_cases size : text.bytes.length = 64
    · have tag := hexPairs_tag 32 text.bytes (by omega)
      have found : (if (hexPairs 32 text.bytes).2 = true then some (hexPairs 32 text.bytes).1 else none) = some key ↔
          hexTag 32 text.bytes = some key := by rw [tag]
      simp only [size, ne_eq, not_true_eq_false, if_false]
      rw [found]
      constructor
      · exact key_spelled s text.bytes key encoded size
      · rintro ⟨rfl, length⟩
        have bytes : text.bytes = hexText key := Option.some.inj (encoded.symm.trans written)
        rw [bytes, ← length]
        simpa using hexTag_hexText key []
    · simp only [size, ne_eq, not_false_eq_true, if_true, reduceCtorEq, false_iff, not_and]
      rintro rfl length
      have bytes : text.bytes = hexText key := Option.some.inj (encoded.symm.trans written)
      rw [bytes, hexText_length, length] at size
      exact size rfl
  · simp [none, other]

theorem keyOf_hex (key : List UInt8) (exact_ : key.length = 32) : keyOf (.str (keyHex key)) = key := by
  have spelled := keyHex_bytes key
  have read := hexTag_hexText key []
  rw [List.append_nil, exact_] at read
  simp [keyOf, textBytes, encode_of_ascii _ spelled.2, spelled.1, read]

theorem section_cases (value : Json) (read : value.tree = some tree) :
    (value = .null ∧ tree = .null) ∨
      (∃ fields items, value = .dict fields ∧ tree = .object items ∧ entriesTree fields = some items) ∨
        (value ≠ .null ∧ (∀ fields, value ≠ .dict fields) ∧ isNull (some tree) = false ∧
          ∀ keys, exactKeys (some tree) keys = false) := by
  cases value with
  | null => cases read; exact .inl ⟨rfl, rfl⟩
  | bool value => cases read; exact .inr (.inr ⟨by simp, by simp, rfl, by simp [exactKeys]⟩)
  | int value => cases read; exact .inr (.inr ⟨by simp, by simp, rfl, by simp [exactKeys]⟩)
  | float value => cases read
  | str value =>
    obtain ⟨key, -, rfl⟩ := Option.map_eq_some_iff.mp read
    exact .inr (.inr ⟨by simp, by simp, rfl, by simp [exactKeys]⟩)
  | list values =>
    obtain ⟨trees, -, rfl⟩ := Option.map_eq_some_iff.mp read
    exact .inr (.inr ⟨by simp, by simp, rfl, by simp [exactKeys]⟩)
  | dict fields =>
    obtain ⟨items, inner, rfl⟩ := Option.map_eq_some_iff.mp read
    exact .inr (.inl ⟨fields, items, rfl, rfl, inner⟩)

/-- The host's check accepts a section exactly when the device reads it as a valid one, and what the device
reads is what the section says. -/
def Judged {β : Type} (validate : Json → Except String Unit) (read : Option CJson → Option β) (valid : β → Prop)
    (of : Json → β) : Prop :=
  ∀ (value : Json) (tree : CJson), value.Regular → value.tree = some tree →
    (validate value = .ok () ↔ ∃ w, read (some tree) = some w ∧ valid w) ∧
      ∀ w, read (some tree) = some w → w = of value

theorem judged_section {β : Type} (validate : Json → Except String Unit) (read : Option CJson → Option β)
    (valid : β → Prop) (of : Json → β) (names : List String) (checks : Entries → Bool)
    (ascii : ∀ name ∈ names, isAscii (text name) = true) (distinct : (names.map text).Nodup)
    (absent : validate .null = .ok ()) (cleared : read (some .null) = some (of .null)) (sound : valid (of .null))
    (accepts : ∀ fields,
      validate (.dict fields) = .ok () ↔ sameKeys fields (names.map text) = true ∧ checks fields = true)
    (dicts : ∀ fields items, entriesTree fields = some items → Json.Regular (.dict fields) →
      sameKeys fields (names.map text) = true →
        (checks fields = true ↔ ∃ w, read (some (.object items)) = some w ∧ valid w) ∧
          ∀ w, read (some (.object items)) = some w → w = of (.dict fields))
    (others : ∀ value, value ≠ .null → (∀ fields, value ≠ .dict fields) → validate value ≠ .ok ())
    (unread : ∀ tree, isNull (some tree) = false → exactKeys (some tree) names = false → read (some tree) = none) :
    Judged validate read valid of := by
  intro value tree regular made
  rcases section_cases value made with ⟨rfl, rfl⟩ | ⟨fields, items, rfl, rfl, inner⟩ | ⟨some, dict, null, keys⟩
  · simp [absent, cleared, sound]
  · rw [accepts]
    by_cases keys : sameKeys fields (names.map text) = true
    · simpa only [keys, true_and] using dicts fields items inner regular keys
    · have exact_ := exactKeys_tree fields items inner regular names ascii distinct
      have refused := unread (.object items) rfl (exact_.trans (Bool.eq_false_of_not_eq_true keys))
      simp [keys, refused]
  · simp [others value some dict, unread tree null (keys names)]

theorem wifiNames_distinct : (wifiNames.map text).Nodup := by decide

theorem mqttNames_distinct : (mqttNames.map text).Nodup := by decide

theorem frpNames_distinct : (frpNames.map text).Nodup := by decide

theorem configNames_distinct : (configNames.map text).Nodup := by decide

theorem ssidText_bounds : TextCheck 32 ssidText where
  other value other := by cases value <;> simp_all [ssidText]
  short s bytes encoded checked := by
    rw [ssidText_agree s bytes encoded] at checked
    simp at checked
    omega

theorem wifiPasswordText_bounds : TextCheck 64 wifiPasswordText where
  other value other := by cases value <;> simp_all [wifiPasswordText]
  short s bytes encoded checked := by
    rw [wifiPasswordText_agree s bytes encoded] at checked
    simp at checked
    omega

theorem wifi_values (ssid password : Json) (sb pb : List UInt8) (first : TextIs 32 ssid sb)
    (second : TextIs 64 password pb) :
    wifiConfigValid { configured := true, ssid := padded 33 sb, password := padded 65 pb } =
      (ssidText ssid && wifiPasswordText password) := by
  obtain ⟨ssidReads, ssidFits⟩ := first.array 33 (by decide)
  obtain ⟨passwordReads, passwordFits⟩ := second.array 65 (by decide)
  obtain ⟨s, rfl, encoded, -, -⟩ := first
  obtain ⟨p, rfl, written, -, -⟩ := second
  simp only [wifiConfigValid, ssidReads, ssidFits, passwordReads, passwordFits, Bool.true_and]
  exact wifi_agree s p sb pb encoded written

theorem wifi_fields (read : entriesTree fields = some items) (regular : Json.Regular (.dict fields))
    (keys : sameKeys fields (wifiNames.map text) = true) :
    ((ssidText (field fields "ssid") && wifiPasswordText (field fields "password")) = true ↔
      ∃ w, wifiFrom (some (.object items)) = some w ∧ wifiConfigValid w = true) ∧
      ∀ w, wifiFrom (some (.object items)) = some w → w = wifiOf (.dict fields) := by
  have exact_ := exactKeys_tree fields items read regular wifiKeys (by decide) wifiNames_distinct
  obtain ⟨_, ssid⟩ := field_read fields items read regular wifiNames keys "ssid" (by decide) (by decide)
  obtain ⟨_, password⟩ := field_read fields items read regular wifiNames keys "password" (by decide) (by decide)
  have whole : exactKeys (some (.object items)) wifiKeys = true := exact_.trans keys
  have reads (w : WifiConfig) : wifiFrom (some (.object items)) = some w ↔
      ∃ sb, TextIs 32 (field fields "ssid") sb ∧ ∃ pb, TextIs 64 (field fields "password") pb ∧
        { configured := true, ssid := padded 33 sb, password := padded 65 pb : WifiConfig } = w := by
    simp only [wifiFrom, isNull, Bool.false_eq_true, if_false, whole, Bool.not_true, Option.bind_eq_bind,
      Option.bind_eq_some_iff, boundedText_read ssid, boundedText_read password, Option.pure_def,
      Option.some.injEq]
  constructor
  · constructor
    · intro tests
      have both := Bool.and_eq_true_iff.mp tests
      obtain ⟨sb, first⟩ := ssidText_bounds.read ssid both.1
      obtain ⟨pb, second⟩ := wifiPasswordText_bounds.read password both.2
      exact ⟨_, (reads _).mpr ⟨sb, first, pb, second, rfl⟩, (wifi_values _ _ sb pb first second).trans tests⟩
    · rintro ⟨w, taken, valid⟩
      obtain ⟨sb, first, pb, second, rfl⟩ := (reads w).mp taken
      exact (wifi_values _ _ sb pb first second).symm.trans valid
  · intro w taken
    obtain ⟨sb, first, pb, second, rfl⟩ := (reads w).mp taken
    simp only [wifiOf, first.bytes, second.bytes]

theorem wifi_section : Judged validateWifi wifiFrom (fun w => wifiConfigValid w = true) wifiOf := by
  refine judged_section _ _ _ _ wifiNames _ (by decide) wifiNames_distinct (by decide) rfl (by decide) validateWifi_ok
    (fun _ _ read regular keys => wifi_fields read regular keys) ?_ ?_
  · intro value null dict
    cases value <;> simp_all [validateWifi, fieldsOf]
  · intro tree null keys
    have unknown : exactKeys (some tree) wifiKeys = false := keys
    simp [wifiFrom, null, unknown]

def MqttConfig.Valid (m : MqttConfig) : Prop :=
  (textLength m.hostname.toList).isSome ∧ (textLength m.username.toList).isSome ∧
    (textLength m.password.toList).isSome ∧ (textLength m.caPem.toList).isSome ∧ m.valuesValid = true

theorem hostnameText_bounds : TextCheck 253 hostnameText where
  other value other := by cases value <;> simp_all [hostnameText]
  short s bytes encoded checked := by
    rw [hostnameText_agree s bytes encoded] at checked
    by_contra long
    simp [hostnameValid, Nat.lt_of_not_le long] at checked

theorem credentialText_bounds (limit : Nat) : TextCheck limit (credentialText limit) where
  other value other := by cases value <;> simp_all [credentialText]
  short s bytes encoded checked := by
    rw [credentialText_agree limit s bytes encoded] at checked
    simp only [Bool.and_eq_true, decide_eq_true_eq] at checked
    exact checked.1.2

theorem certificateText_bounds (limit : Nat) : TextCheck limit (certificateText limit) where
  other value other := by cases value <;> simp_all [certificateText]
  short s bytes encoded checked := by
    rw [certificateText_agree limit s bytes encoded] at checked
    simp only [Bool.and_eq_true, decide_eq_true_eq] at checked
    exact checked.1.1.1.2

theorem checked_port (here : FieldRead fields items name tree) (checked : portNumber (field fields name) = true) :
    ∃ n : Nat, field fields name = .int n ∧ 1 ≤ n ∧ n ≤ 65535 := by
  rcases number_tree _ here.value with ⟨value, same, -⟩ | ⟨other, -⟩
  · rw [same] at checked ⊢
    simp only [portNumber, Bool.and_eq_true, decide_eq_true_eq] at checked
    exact ⟨value.toNat, by congr 1; omega, by omega, by omega⟩
  · cases value : field fields name <;> simp_all [portNumber]

theorem hexTag_reads (count : Nat) (digits : List UInt8) (enough : 2 * count ≤ digits.length)
    (all : ∀ c ∈ digits, (lowerHexDigit c).isSome) : (hexTag count digits).isSome := by
  induction count generalizing digits with
  | zero => rfl
  | succ count ih =>
    obtain ⟨high, rest, rfl⟩ : ∃ high rest, digits = high :: rest := List.exists_cons_of_length_pos (by omega)
    obtain ⟨low, rest, rfl⟩ : ∃ low more, rest = low :: more :=
      List.exists_cons_of_length_pos (by simp at enough; omega)
    have later := ih rest (by simp at enough; omega) (fun c member => all c (by simp [member]))
    obtain ⟨top, first⟩ := Option.isSome_iff_exists.mp (all high (by simp))
    obtain ⟨bottom, second⟩ := Option.isSome_iff_exists.mp (all low (by simp))
    obtain ⟨tag, read⟩ := Option.isSome_iff_exists.mp later
    simp [hexTag, first, second, read]

theorem hexPoint_digit (c : Point) (hex : hexPoint c = true) : c.val < 0x80 ∧ (lowerHexDigit c.byte).isSome := by
  simp only [hexPoint, Bool.or_eq_true, Bool.and_eq_true, decide_eq_true_eq] at hex
  have small : c.val < 0x80 := by omega
  refine ⟨small, ?_⟩
  simp only [lowerHexDigit, UInt8.le_iff_toNat_le, byte_toNat c small, UInt8.reduceToNat]
  rcases hex with digit | letter
  · rw [if_pos digit]
    rfl
  · rw [if_neg (by omega), if_pos letter]
    rfl

theorem checked_key (here : FieldRead fields items name tree) (checked : keyText (field fields name) = true) :
    ∃ key, field fields name = .str (keyHex key) ∧ key.length = 32 := by
  rcases string_tree _ here.regular here.value with ⟨s, text, same, -, encoded⟩ | ⟨other, -⟩
  · rw [same] at checked ⊢
    simp only [keyText, Bool.and_eq_true, beq_iff_eq, List.all_eq_true] at checked
    obtain ⟨⟨size, hex⟩, -⟩ := checked
    have ascii : isAscii s = true :=
      List.all_eq_true.mpr (fun c member => decide_eq_true (hexPoint_digit c (hex c member)).1)
    have bytes := encode_ascii s text.bytes encoded ascii
    have readable : (hexTag 32 text.bytes).isSome := by
      refine hexTag_reads 32 text.bytes (by simp [bytes, size]) (fun c member => ?_)
      rw [bytes] at member
      obtain ⟨point, inside, rfl⟩ := List.mem_map.mp member
      exact (hexPoint_digit point (hex point inside)).2
    obtain ⟨key, read⟩ := Option.isSome_iff_exists.mp readable
    exact ⟨key, congrArg Json.str (key_spelled s text.bytes key encoded (by simp [bytes, size]) read).1,
      (key_spelled s text.bytes key encoded (by simp [bytes, size]) read).2⟩
  · cases value : field fields name <;> simp_all [keyText]

theorem port_round (n : Nat) (most : n ≤ 65535) : ((UInt16.ofNat n).toNat : Int) = n := by
  simp
  omega

theorem mqtt_values (host user password ca : Json) (hb ub pb cb key : List UInt8) (n : Nat)
    (hosts : TextIs 253 host hb) (most : n ≤ 65535) (users : TextIs 128 user ub)
    (passwords : TextIs 256 password pb) (cas : TextIs 4096 ca cb) (exact_ : key.length = 32) :
    MqttConfig.Valid
        { configured := true
          hostname := padded 254 hb
          port := UInt16.ofNat n
          username := padded 129 ub
          password := padded 257 pb
          caPem := padded 4097 cb
          managementKey := padded 32 key } ↔
      (hostnameText host && portNumber (.int n) && credentialText 128 user && credentialText 256 password &&
        certificateText 4096 ca && keyText (.str (keyHex key))) = true := by
  obtain ⟨hostReads, hostFits⟩ := hosts.array 254 (by decide)
  obtain ⟨userReads, userFits⟩ := users.array 129 (by decide)
  obtain ⟨passwordReads, passwordFits⟩ := passwords.array 257 (by decide)
  obtain ⟨caReads, caFits⟩ := cas.array 4097 (by decide)
  obtain ⟨h, rfl, hostEncoded, -, -⟩ := hosts
  obtain ⟨u, rfl, userEncoded, -, -⟩ := users
  obtain ⟨p, rfl, passwordEncoded, -, -⟩ := passwords
  obtain ⟨c, rfl, caEncoded, -, -⟩ := cas
  have agree := mqtt_agree h u p c hb ub pb cb (UInt16.ofNat n) key hostEncoded userEncoded passwordEncoded
    caEncoded exact_
  have keys : (padded 32 key).toList = key := by
    rw [padded_toList 32 key (by omega), exact_]
    simp
  rw [port_round n most] at agree
  simp only [MqttConfig.Valid, MqttConfig.valuesValid, hostReads, hostFits, userReads, userFits, passwordReads,
    passwordFits, caReads, caFits, keys, true_and, agree]

theorem mqtt_fields (read : entriesTree fields = some items) (regular : Json.Regular (.dict fields))
    (keys : sameKeys fields (mqttNames.map text) = true) :
    ((hostnameText (field fields "hostname") && portNumber (field fields "port") &&
        credentialText 128 (field fields "username") && credentialText 256 (field fields "password") &&
        certificateText 4096 (field fields "ca_pem") && keyText (field fields "management_key_hex")) = true ↔
      ∃ m, mqttFrom (some (.object items)) = some m ∧ m.Valid) ∧
      ∀ m, mqttFrom (some (.object items)) = some m → m = mqttOf (.dict fields) := by
  have exact_ := exactKeys_tree fields items read regular mqttKeys (by decide) mqttNames_distinct
  have found := field_read fields items read regular mqttNames keys
  obtain ⟨_, host⟩ := found "hostname" (by decide) (by decide)
  obtain ⟨_, port⟩ := found "port" (by decide) (by decide)
  obtain ⟨_, user⟩ := found "username" (by decide) (by decide)
  obtain ⟨_, password⟩ := found "password" (by decide) (by decide)
  obtain ⟨_, ca⟩ := found "ca_pem" (by decide) (by decide)
  obtain ⟨_, management⟩ := found "management_key_hex" (by decide) (by decide)
  have whole : exactKeys (some (.object items)) mqttKeys = true := exact_.trans keys
  have reads (m : MqttConfig) : mqttFrom (some (.object items)) = some m ↔
      ∃ hb, TextIs 253 (field fields "hostname") hb ∧
        ∃ n : Nat, (field fields "port" = .int n ∧ 1 ≤ n ∧ n ≤ 65535) ∧
          ∃ ub, TextIs 128 (field fields "username") ub ∧ ∃ pb, TextIs 256 (field fields "password") pb ∧
            ∃ cb, TextIs 4096 (field fields "ca_pem") cb ∧
              ∃ key, (field fields "management_key_hex" = .str (keyHex key) ∧ key.length = 32) ∧
                { configured := true
                  hostname := padded 254 hb
                  port := UInt16.ofNat n
                  username := padded 129 ub
                  password := padded 257 pb
                  caPem := padded 4097 cb
                  managementKey := padded 32 key : MqttConfig } = m := by
    simp only [mqttFrom, isNull, Bool.false_eq_true, if_false, whole, Bool.not_true, Option.bind_eq_bind,
      Option.bind_eq_some_iff, boundedText_read host, wholeNumber_read port 65535 _ (by decide) 1,
      boundedText_read user, boundedText_read password, boundedText_read ca, keyBytes_read management,
      Option.pure_def, Option.some.injEq]
  constructor
  · constructor
    · intro tests
      have each := tests
      simp only [Bool.and_eq_true] at each
      obtain ⟨⟨⟨⟨⟨hosted, ported⟩, named⟩, secret⟩, certified⟩, keyed⟩ := each
      obtain ⟨hb, hosts⟩ := hostnameText_bounds.read host hosted
      obtain ⟨n, numbered, least, most⟩ := checked_port port ported
      obtain ⟨ub, users⟩ := (credentialText_bounds 128).read user named
      obtain ⟨pb, passwords⟩ := (credentialText_bounds 256).read password secret
      obtain ⟨cb, cas⟩ := (certificateText_bounds 4096).read ca certified
      obtain ⟨key, spelled, size⟩ := checked_key management keyed
      have judged := mqtt_values _ _ _ _ hb ub pb cb key n hosts most users passwords cas size
      rw [← numbered, ← spelled] at judged
      exact ⟨_, (reads _).mpr ⟨hb, hosts, n, ⟨numbered, least, most⟩, ub, users, pb, passwords, cb, cas, key,
        ⟨spelled, size⟩, rfl⟩, judged.mpr tests⟩
    · rintro ⟨m, taken, valid⟩
      obtain ⟨hb, hosts, n, ⟨numbered, -, most⟩, ub, users, pb, passwords, cb, cas, key, ⟨spelled, size⟩,
        rfl⟩ := (reads m).mp taken
      have judged := mqtt_values _ _ _ _ hb ub pb cb key n hosts most users passwords cas size
      rw [numbered, spelled]
      exact judged.mp valid
  · intro m taken
    obtain ⟨hb, hosts, n, ⟨numbered, -, most⟩, ub, users, pb, passwords, cb, cas, key, ⟨spelled, size⟩,
      rfl⟩ := (reads m).mp taken
    simp only [mqttOf, hosts.bytes, users.bytes, passwords.bytes, cas.bytes, numbered, spelled, keyOf_hex key size,
      portOf, Int.toNat_natCast]

theorem mqtt_cleared : MqttConfig.zero.Valid := by
  have host := text_cleared 254 (by decide)
  have user := text_cleared 129 (by decide)
  have password := text_cleared 257 (by decide)
  have ca := text_cleared 4097 (by decide)
  refine ⟨host.2, user.2, password.2, ca.2, ?_⟩
  simp only [MqttConfig.valuesValid, MqttConfig.zero, host.1, user.1, password.1, ca.1]
  decide

theorem mqtt_section : Judged validateMqtt mqttFrom MqttConfig.Valid mqttOf := by
  refine judged_section _ _ _ _ mqttNames _ (by decide) mqttNames_distinct (by decide) rfl mqtt_cleared validateMqtt_ok
    (fun _ _ read regular keys => mqtt_fields read regular keys) ?_ ?_
  · intro value null dict
    cases value <;> simp_all [validateMqtt, fieldsOf]
  · intro tree null keys
    have unknown : exactKeys (some tree) mqttKeys = false := keys
    simp [mqttFrom, null, unknown]

def FrpConfig.Valid (f : FrpConfig) : Prop :=
  (textLength f.serverHostname.toList).isSome ∧ (textLength f.token.toList).isSome ∧
    (textLength f.caPem.toList).isSome ∧ (textLength f.proxyName.toList).isSome ∧ f.valuesValid = true

theorem tokenText_bounds : TextCheck 256 tokenText where
  other value other := by cases value <;> simp_all [tokenText]
  short s bytes encoded checked := by
    rw [tokenText_agree s bytes encoded] at checked
    simp only [Bool.and_eq_true, decide_eq_true_eq] at checked
    exact checked.1.2

theorem proxyText_bounds : TextCheck 128 proxyText where
  other value other := by cases value <;> simp_all [proxyText]
  short s bytes encoded checked := by
    rw [proxyText_agree s bytes encoded] at checked
    simp only [Bool.and_eq_true, decide_eq_true_eq] at checked
    exact checked.1.2

theorem frp_values (host token ca proxy : Json) (hb tb cb pb key : List UInt8) (server remote near : Nat)
    (hosts : TextIs 253 host hb) (served : server ≤ 65535) (tokens : TextIs 256 token tb)
    (cas : TextIs 2048 ca cb) (proxies : TextIs 128 proxy pb) (far : remote ≤ 65535) (here : near ≤ 65535)
    (exact_ : key.length = 32) :
    FrpConfig.Valid
        { configured := true
          serverHostname := padded 254 hb
          serverPort := UInt16.ofNat server
          token := padded 257 tb
          caPem := padded 2049 cb
          proxyName := padded 129 pb
          remotePort := UInt16.ofNat remote
          localPort := UInt16.ofNat near
          managementKey := padded 32 key } ↔
      (hostnameText host && portNumber (.int server) && portNumber (.int remote) && portNumber (.int near) &&
        tokenText token && certificateText 2048 ca && proxyText proxy && keyText (.str (keyHex key))) = true := by
  obtain ⟨hostReads, hostFits⟩ := hosts.array 254 (by decide)
  obtain ⟨tokenReads, tokenFits⟩ := tokens.array 257 (by decide)
  obtain ⟨caReads, caFits⟩ := cas.array 2049 (by decide)
  obtain ⟨proxyReads, proxyFits⟩ := proxies.array 129 (by decide)
  obtain ⟨h, rfl, hostEncoded, -, -⟩ := hosts
  obtain ⟨t, rfl, tokenEncoded, -, -⟩ := tokens
  obtain ⟨c, rfl, caEncoded, -, -⟩ := cas
  obtain ⟨p, rfl, proxyEncoded, -, -⟩ := proxies
  have agree := frp_agree h t c p hb tb cb pb (UInt16.ofNat server) (UInt16.ofNat remote) (UInt16.ofNat near) key
    hostEncoded tokenEncoded caEncoded proxyEncoded exact_
  have keys : (padded 32 key).toList = key := by
    rw [padded_toList 32 key (by omega), exact_]
    simp
  rw [port_round server served, port_round remote far, port_round near here] at agree
  simp only [FrpConfig.Valid, FrpConfig.valuesValid, hostReads, hostFits, tokenReads, tokenFits, caReads, caFits,
    proxyReads, proxyFits, keys, true_and, agree]

theorem frp_fields (read : entriesTree fields = some items) (regular : Json.Regular (.dict fields))
    (keys : sameKeys fields (frpNames.map text) = true) :
    ((hostnameText (field fields "server_hostname") && portNumber (field fields "server_port") &&
        portNumber (field fields "remote_port") && portNumber (field fields "local_port") &&
        tokenText (field fields "token") && certificateText 2048 (field fields "ca_pem") &&
        proxyText (field fields "proxy_name") && keyText (field fields "management_key_hex")) = true ↔
      ∃ f, frpFrom (some (.object items)) = some f ∧ f.Valid) ∧
      ∀ f, frpFrom (some (.object items)) = some f → f = frpOf (.dict fields) := by
  have exact_ := exactKeys_tree fields items read regular frpKeys (by decide) frpNames_distinct
  have found := field_read fields items read regular frpNames keys
  obtain ⟨_, host⟩ := found "server_hostname" (by decide) (by decide)
  obtain ⟨_, server⟩ := found "server_port" (by decide) (by decide)
  obtain ⟨_, token⟩ := found "token" (by decide) (by decide)
  obtain ⟨_, ca⟩ := found "ca_pem" (by decide) (by decide)
  obtain ⟨_, proxy⟩ := found "proxy_name" (by decide) (by decide)
  obtain ⟨_, remote⟩ := found "remote_port" (by decide) (by decide)
  obtain ⟨_, near⟩ := found "local_port" (by decide) (by decide)
  obtain ⟨_, management⟩ := found "management_key_hex" (by decide) (by decide)
  have whole : exactKeys (some (.object items)) frpKeys = true := exact_.trans keys
  have reads (f : FrpConfig) : frpFrom (some (.object items)) = some f ↔
      ∃ hb, TextIs 253 (field fields "server_hostname") hb ∧
        ∃ sn : Nat, (field fields "server_port" = .int sn ∧ 1 ≤ sn ∧ sn ≤ 65535) ∧
          ∃ tb, TextIs 256 (field fields "token") tb ∧ ∃ cb, TextIs 2048 (field fields "ca_pem") cb ∧
            ∃ pb, TextIs 128 (field fields "proxy_name") pb ∧
              ∃ rn : Nat, (field fields "remote_port" = .int rn ∧ 1 ≤ rn ∧ rn ≤ 65535) ∧
                ∃ ln : Nat, (field fields "local_port" = .int ln ∧ 1 ≤ ln ∧ ln ≤ 65535) ∧
                  ∃ key, (field fields "management_key_hex" = .str (keyHex key) ∧ key.length = 32) ∧
                    { configured := true
                      serverHostname := padded 254 hb
                      serverPort := UInt16.ofNat sn
                      token := padded 257 tb
                      caPem := padded 2049 cb
                      proxyName := padded 129 pb
                      remotePort := UInt16.ofNat rn
                      localPort := UInt16.ofNat ln
                      managementKey := padded 32 key : FrpConfig } = f := by
    simp only [frpFrom, isNull, Bool.false_eq_true, if_false, whole, Bool.not_true, Option.bind_eq_bind,
      frpTokenMaxBytes, frpCaMaxBytes, Option.bind_eq_some_iff, boundedText_read host,
      wholeNumber_read server 65535 _ (by decide) 1, boundedText_read token, boundedText_read ca,
      boundedText_read proxy, wholeNumber_read remote 65535 _ (by decide) 1,
      wholeNumber_read near 65535 _ (by decide) 1, keyBytes_read management, Option.pure_def, Option.some.injEq]
  constructor
  · constructor
    · intro tests
      have each := tests
      simp only [Bool.and_eq_true] at each
      obtain ⟨⟨⟨⟨⟨⟨⟨hosted, served⟩, far⟩, close⟩, secret⟩, certified⟩, named⟩, keyed⟩ := each
      obtain ⟨hb, hosts⟩ := hostnameText_bounds.read host hosted
      obtain ⟨sn, server_is, serverLeast, serverMost⟩ := checked_port server served
      obtain ⟨tb, tokens⟩ := tokenText_bounds.read token secret
      obtain ⟨cb, cas⟩ := (certificateText_bounds 2048).read ca certified
      obtain ⟨pb, proxies⟩ := proxyText_bounds.read proxy named
      obtain ⟨rn, remote_is, remoteLeast, remoteMost⟩ := checked_port remote far
      obtain ⟨ln, near_is, nearLeast, nearMost⟩ := checked_port near close
      obtain ⟨key, spelled, size⟩ := checked_key management keyed
      have judged := frp_values _ _ _ _ hb tb cb pb key sn rn ln hosts serverMost tokens cas proxies remoteMost
        nearMost size
      rw [← server_is, ← remote_is, ← near_is, ← spelled] at judged
      exact ⟨_, (reads _).mpr ⟨hb, hosts, sn, ⟨server_is, serverLeast, serverMost⟩, tb, tokens, cb, cas, pb, proxies,
        rn, ⟨remote_is, remoteLeast, remoteMost⟩, ln, ⟨near_is, nearLeast, nearMost⟩, key, ⟨spelled, size⟩, rfl⟩,
        judged.mpr tests⟩
    · rintro ⟨f, taken, valid⟩
      obtain ⟨hb, hosts, sn, ⟨server_is, -, serverMost⟩, tb, tokens, cb, cas, pb, proxies, rn,
        ⟨remote_is, -, remoteMost⟩, ln, ⟨near_is, -, nearMost⟩, key, ⟨spelled, size⟩, rfl⟩ := (reads f).mp taken
      have judged := frp_values _ _ _ _ hb tb cb pb key sn rn ln hosts serverMost tokens cas proxies remoteMost
        nearMost size
      rw [server_is, remote_is, near_is, spelled]
      exact judged.mp valid
  · intro f taken
    obtain ⟨hb, hosts, sn, ⟨server_is, -, serverMost⟩, tb, tokens, cb, cas, pb, proxies, rn,
      ⟨remote_is, -, remoteMost⟩, ln, ⟨near_is, -, nearMost⟩, key, ⟨spelled, size⟩, rfl⟩ := (reads f).mp taken
    simp only [frpOf, hosts.bytes, tokens.bytes, cas.bytes, proxies.bytes, server_is, remote_is, near_is, spelled,
      keyOf_hex key size, portOf, Int.toNat_natCast]

theorem frp_cleared : FrpConfig.zero.Valid := by
  have host := text_cleared 254 (by decide)
  have token := text_cleared 257 (by decide)
  have ca := text_cleared 2049 (by decide)
  have proxy := text_cleared 129 (by decide)
  refine ⟨host.2, token.2, ca.2, proxy.2, ?_⟩
  simp only [FrpConfig.valuesValid, FrpConfig.zero, host.1, token.1, ca.1, proxy.1]
  decide

theorem frp_section : Judged validateFrp frpFrom FrpConfig.Valid frpOf := by
  refine judged_section _ _ _ _ frpNames _ (by decide) frpNames_distinct (by decide) rfl frp_cleared validateFrp_ok
    (fun _ _ read regular keys => frp_fields read regular keys) ?_ ?_
  · intro value null dict
    cases value <;> simp_all [validateFrp, fieldsOf]
  · intro tree null keys
    have unknown : exactKeys (some tree) frpKeys = false := keys
    simp [frpFrom, null, unknown]

theorem configValid_sections (c : RemoteConfig) :
    configValid c = true ↔ wifiConfigValid c.wifi = true ∧ c.mqtt.Valid ∧ c.frp.Valid := by
  simp only [configValid, MqttConfig.Valid, FrpConfig.Valid, Bool.and_eq_true, and_assoc]

end EspBase

import EspBase.Host.Sections

set_option autoImplicit false

/-!
# A validated configuration passes the scan

Its values are few, flat and short, and its texts are texts of cJSON.
-/

namespace EspBase

open Unicode

structure Json.Sendable (height cost : Nat) (j : Json) : Prop where
  tree : j.tree.isSome
  modest : j.modest = true
  scanned : ∀ depth members, depth + height ≤ 8 → members + cost ≤ 128 →
    ∃ counted, j.scanned depth members = some counted ∧ counted ≤ members + cost

theorem Json.Sendable.weaken {height cost higher more : Nat} {j : Json} (sendable : j.Sendable height cost)
    (deeper : height ≤ higher) (dearer : cost ≤ more) : j.Sendable higher more := by
  refine ⟨sendable.tree, sendable.modest, fun depth members shallow room => ?_⟩
  obtain ⟨counted, scanned, most⟩ := sendable.scanned depth members (by omega) (by omega)
  exact ⟨counted, scanned, by omega⟩

-- What the device finds in a text: no surrogates and no U+0000.
def Carried (s : Text) : Prop := joinSurrogates s = s ∧ ∃ bytes, encode s = some bytes ∧ 0 ∉ bytes

theorem encode_nulFree (s : Text) (bytes : List UInt8) (encoded : encode s = some bytes) (unbroken : 0 ∉ bytes) :
    nulFree s = true := by
  obtain ⟨chars, rfl, rfl⟩ := (encode_eq_some_iff s bytes).mp encoded
  simp only [nulFree, List.all_map, List.all_eq_true, Function.comp_apply, bne_iff_ne, ne_eq]
  intro c member zero
  have value : c.toNat = 0 := zero
  have written := utf8EncodeChar_ascii c (by omega)
  rw [value] at written
  exact unbroken (List.mem_flatMap.mpr ⟨c, member, by simp [written]⟩)

theorem Carried.key {s : Text} (carried : Carried s) : (stringTree s).isSome ∧ nulFree s = true := by
  obtain ⟨joined, bytes, encoded, unbroken⟩ := carried
  have read := (stringTree_encode s joined ⟨bytes, unbroken⟩).mpr encoded
  exact ⟨by simp [read], encode_nulFree s bytes encoded unbroken⟩

theorem ascii_carried (s : Text) (all : ∀ c ∈ s, 0 < c.val ∧ c.val < 0x80) :
    ∃ bytes, encode s = some bytes ∧ 0 ∉ bytes := by
  have ascii : isAscii s = true := List.all_eq_true.mpr (fun c member => decide_eq_true (all c member).2)
  refine ⟨s.map Point.byte, encode_of_ascii s ascii, ?_⟩
  intro zero
  obtain ⟨c, member, byte⟩ := List.mem_map.mp zero
  have value := byte_toNat c (all c member).2
  have least := (all c member).1
  rw [byte] at value
  simp only [UInt8.reduceToNat] at value
  omega

theorem plain_carried (s : Text) (plain : s.all plainPoint = true) : Carried s := by
  refine ⟨joinSurrogates_plain s plain, ascii_carried s (fun c member => ?_)⟩
  have here := List.all_eq_true.mp plain c member
  simp only [plainPoint, Bool.and_eq_true, decide_eq_true_eq] at here
  have low : 0x20 ≤ c.val := here.1.1.1
  have high : c.val < 0x7f := here.1.1.2
  omega

theorem text_sendable (s : Text) (carried : Carried s) : (Json.str s).Sendable 0 0 := by
  obtain ⟨read, free⟩ := carried.key
  obtain ⟨key, made⟩ := Option.isSome_iff_exists.mp read
  refine ⟨by simp [Json.tree, made], rfl, fun depth members _ _ => ⟨members, ?_, Nat.le_refl _⟩⟩
  simp [Json.scanned, free]

theorem null_sendable : Json.null.Sendable 0 0 :=
  ⟨rfl, rfl, fun _ members _ _ => ⟨members, rfl, Nat.le_refl _⟩⟩

theorem int_sendable (n : Nat) (small : n < 10 ^ 62) : (Json.int n).Sendable 0 0 := by
  have short := decimal_length n 62 (by decide) small
  refine ⟨rfl, ?_, fun _ members _ _ => ⟨members, rfl, Nat.le_refl _⟩⟩
  simpa [Json.modest] using short

theorem entries_sendable (entries : Entries) (height cost : Nat) (named : ∀ entry ∈ entries, Carried entry.1)
    (each : ∀ entry ∈ entries, entry.2.Sendable height cost) :
    (entriesTree entries).isSome ∧ entriesModest entries = true ∧
      ∀ depth members, depth + height ≤ 8 → members + entries.length * (cost + 2) ≤ 128 →
        ∃ counted, entriesScanned depth entries members = some counted ∧
          counted ≤ members + entries.length * (cost + 2) := by
  induction entries with
  | nil => exact ⟨rfl, rfl, fun _ members _ _ => ⟨members, rfl, by simp⟩⟩
  | cons entry entries ih =>
    obtain ⟨read, free⟩ := (named entry (by simp)).key
    have here := each entry (by simp)
    obtain ⟨trees, modest, scanned⟩ := ih (fun e member => named e (by simp [member]))
      (fun e member => each e (by simp [member]))
    obtain ⟨key, made⟩ := Option.isSome_iff_exists.mp read
    obtain ⟨tree, value⟩ := Option.isSome_iff_exists.mp here.tree
    obtain ⟨items, others⟩ := Option.isSome_iff_exists.mp trees
    refine ⟨by simp [entriesTree, made, value, others], by simp [entriesModest, here.modest, modest], ?_⟩
    intro depth members shallow room
    simp only [List.length_cons, Nat.add_mul, Nat.one_mul] at room ⊢
    obtain ⟨counted, first, most⟩ := here.scanned depth (members + 2) shallow (by omega)
    obtain ⟨total, rest, least⟩ := scanned depth counted shallow (by omega)
    refine ⟨total, ?_, by omega⟩
    have fits : ¬members + 2 > 128 := by omega
    simp [entriesScanned, free, fits, first, rest]

theorem dict_sendable (entries : Entries) (height cost : Nat) (named : ∀ entry ∈ entries, Carried entry.1)
    (each : ∀ entry ∈ entries, entry.2.Sendable height cost) :
    (Json.dict entries).Sendable (height + 1) (entries.length * (cost + 2)) := by
  obtain ⟨trees, modest, -⟩ := entries_sendable entries height cost named each
  obtain ⟨items, read⟩ := Option.isSome_iff_exists.mp trees
  refine ⟨by simp [Json.tree, read], by simpa [Json.modest] using modest, ?_⟩
  intro depth members shallow room
  cases entries with
  | nil =>
    have fits : ¬depth + 1 > 8 := by omega
    exact ⟨members, by simp [Json.scanned, fits], by simp⟩
  | cons entry entries =>
    have free := (named entry (by simp)).key.2
    obtain ⟨-, -, scanned⟩ := entries_sendable entries height cost (fun e member => named e (by simp [member]))
      (fun e member => each e (by simp [member]))
    simp only [List.length_cons, Nat.add_mul, Nat.one_mul] at room ⊢
    obtain ⟨counted, first, most⟩ := (each entry (by simp)).scanned (depth + 1) (members + 1) (by omega) (by omega)
    obtain ⟨total, rest, least⟩ := scanned (depth + 1) counted (by omega) (by omega)
    refine ⟨total, ?_, by omega⟩
    have deep : ¬depth + 1 > 8 := by omega
    have fits : ¬members + 1 > 128 := by omega
    simp [Json.scanned, deep, fits, free, first, rest]

theorem lookup_entry (entries : Entries) (distinct : (entries.map Prod.fst).Nodup) (entry : Text × Json)
    (member : entry ∈ entries) : entries.lookup entry.1 = some entry.2 := by
  induction entries with
  | nil => cases member
  | cons first entries ih =>
    obtain ⟨key, value⟩ := first
    rw [List.map_cons, List.nodup_cons] at distinct
    rcases List.mem_cons.mp member with rfl | later
    · exact List.lookup_cons_self
    · have apart : (entry.1 == key) = false := by
        rw [beq_eq_false_iff_ne]
        intro same
        exact distinct.1 (same ▸ List.mem_map.mpr ⟨entry, later, rfl⟩)
      simp [List.lookup_cons, apart, ih distinct.2 later]

theorem fields_sendable (fields : Entries) (regular : Json.Regular (.dict fields)) (names : List String)
    (keys : sameKeys fields (names.map text) = true) (distinct : (names.map text).Nodup)
    (plain : ∀ name ∈ names, (text name).all plainPoint = true) (height cost : Nat)
    (each : ∀ name ∈ names, (field fields name).Sendable height cost) :
    (Json.dict fields).Sendable (height + 1) (names.length * (cost + 2)) := by
  have both := keys
  simp only [sameKeys, Bool.and_eq_true, List.all_eq_true, List.contains_iff_mem, List.any_eq_true,
    List.forall_mem_map, beq_iff_eq] at both
  have members := (sameMembers (fields.map Prod.fst) (names.map text) regular.1 distinct).mpr
  simp only [List.length_map, List.forall_mem_map] at members
  have size := (members ⟨both.1, fun name member => List.mem_map.mpr (both.2 name member)⟩).1
  have named (entry : Text × Json) (member : entry ∈ fields) :
      ∃ name ∈ names, entry.1 = text name ∧ entry.2 = field fields name := by
    obtain ⟨name, known, same⟩ := List.mem_map.mp (both.1 entry member)
    have found := lookup_entry fields regular.1 entry member
    exact ⟨name, known, same.symm, by rw [field, same, found]; rfl⟩
  rw [← size]
  refine dict_sendable fields height cost (fun entry member => ?_) (fun entry member => ?_)
  · obtain ⟨name, known, same, -⟩ := named entry member
    exact same ▸ plain_carried (text name) (plain name known)
  · obtain ⟨name, known, -, same⟩ := named entry member
    exact same ▸ each name known

theorem checked_sendable (value : Json) (regular : value.Regular) (check : Json → Bool)
    (other : ∀ value, (∀ s, value ≠ .str s) → check value = false)
    (carried : ∀ s, check (.str s) = true → ∃ bytes, encode s = some bytes ∧ 0 ∉ bytes)
    (checked : check value = true) : value.Sendable 0 0 := by
  by_cases is : ∃ s, value = .str s
  · obtain ⟨s, rfl⟩ := is
    exact text_sendable s ⟨regular, carried s checked⟩
  · rw [other value (fun s same => is ⟨s, same⟩)] at checked
    cases checked

theorem port_sendable (value : Json) (checked : portNumber value = true) : value.Sendable 0 0 := by
  cases value with
  | int port =>
    simp only [portNumber, Bool.and_eq_true, decide_eq_true_eq] at checked
    have whole : port = (port.toNat : Int) := by omega
    have small : port.toNat < 10 ^ 62 := lt_of_le_of_lt (by omega : port.toNat ≤ 65535) (by norm_num)
    exact whole ▸ int_sendable port.toNat small
  | _ => cases checked

theorem ssidText_carried (s : Text) (checked : ssidText (.str s) = true) :
    ∃ bytes, encode s = some bytes ∧ 0 ∉ bytes := by
  cases encoded : encode s with
  | none => simp [ssidText, encoded] at checked
  | some bytes =>
    rw [ssidText_agree s bytes encoded, Bool.and_eq_true] at checked
    exact ⟨bytes, rfl, utf8Loop_unbroken true bytes.length bytes checked.2⟩

theorem credentialText_carried (limit : Nat) (s : Text) (checked : credentialText limit (.str s) = true) :
    ∃ bytes, encode s = some bytes ∧ 0 ∉ bytes := by
  cases encoded : encode s with
  | none => simp [credentialText, encoded] at checked
  | some bytes =>
    rw [credentialText_agree limit s bytes encoded, Bool.and_eq_true] at checked
    exact ⟨bytes, rfl, utf8Loop_unbroken false bytes.length bytes checked.2⟩

theorem wifiPasswordText_carried (s : Text) (checked : wifiPasswordText (.str s) = true) :
    ∃ bytes, encode s = some bytes ∧ 0 ∉ bytes := by
  refine ascii_carried s (fun c member => ?_)
  simp only [wifiPasswordText, Bool.or_eq_true, Bool.and_eq_true, List.all_eq_true] at checked
  rcases checked with ⟨-, plain⟩ | ⟨-, hex⟩
  · have here := plain c member
    simp only [printable, Bool.and_eq_true, decide_eq_true_eq] at here
    omega
  · have here := hex c member
    simp only [hexPoint, upperHexPoint, Bool.or_eq_true, Bool.and_eq_true, decide_eq_true_eq] at here
    omega

theorem hostnameText_carried (s : Text) (checked : hostnameText (.str s) = true) :
    ∃ bytes, encode s = some bytes ∧ 0 ∉ bytes := by
  have parts := checked
  simp only [hostnameText, Bool.and_eq_true] at parts
  have encoded := encode_of_ascii s parts.1.2
  rw [hostnameText_agree s _ encoded] at checked
  exact ⟨_, encoded, hostnameValid_unbroken _ checked⟩

theorem certificateText_carried (limit : Nat) (s : Text) (checked : certificateText limit (.str s) = true) :
    ∃ bytes, encode s = some bytes ∧ 0 ∉ bytes := by
  refine ascii_carried s (fun c member => ?_)
  simp only [certificateText, Bool.and_eq_true, List.all_eq_true] at checked
  have here := checked.1.1.2 c member
  simp only [printable, Bool.or_eq_true, Bool.and_eq_true, decide_eq_true_eq, beq_iff_eq] at here
  omega

theorem keyText_carried (s : Text) (checked : keyText (.str s) = true) :
    ∃ bytes, encode s = some bytes ∧ 0 ∉ bytes := by
  refine ascii_carried s (fun c member => ?_)
  simp only [keyText, Bool.and_eq_true, List.all_eq_true] at checked
  have here := checked.1.2 c member
  simp only [hexPoint, Bool.or_eq_true, Bool.and_eq_true, decide_eq_true_eq] at here
  omega

theorem tokenText_carried (s : Text) (checked : tokenText (.str s) = true) :
    ∃ bytes, encode s = some bytes ∧ 0 ∉ bytes := by
  refine ascii_carried s (fun c member => ?_)
  simp only [tokenText, Bool.and_eq_true, List.all_eq_true, decide_eq_true_eq] at checked
  have here := checked.2 c member
  omega

theorem proxyText_carried (s : Text) (checked : proxyText (.str s) = true) :
    ∃ bytes, encode s = some bytes ∧ 0 ∉ bytes := by
  refine ascii_carried s (fun c member => ?_)
  simp only [proxyText, Bool.and_eq_true, Bool.not_eq_true', List.any_eq_false] at checked
  have here := checked.2 c member
  simp only [Bool.or_eq_true, decide_eq_true_eq, beq_iff_eq, not_or] at here
  omega

theorem keyText_other (value : Json) (other : ∀ s, value ≠ .str s) : keyText value = false := by
  cases value <;> simp_all [keyText]

theorem field_regular (fields : Entries) (regular : Json.Regular (.dict fields)) (name : String) :
    (field fields name).Regular := by
  cases found : fields.lookup (text name) with
  | none => simp [field, found, Json.Regular]
  | some value =>
    have whole := entriesRegular_lookup fields regular.2 (text name) value found
    simpa [field, found] using whole

theorem wifi_sendable (network : Json) (regular : network.Regular) (valid : validateWifi network = .ok ()) :
    network.Sendable 1 16 := by
  cases network with
  | null => exact null_sendable.weaken (by decide) (by decide)
  | dict fields =>
    obtain ⟨keys, tests⟩ := (validateWifi_ok fields).mp valid
    have whole (name : String) := field_regular fields regular name
    simp only [Bool.and_eq_true] at tests
    refine (fields_sendable fields regular wifiNames keys wifiNames_distinct (by decide) 0 0 ?_).weaken (by decide)
      (by decide)
    intro name member
    simp only [wifiNames, List.mem_cons, List.not_mem_nil, or_false] at member
    rcases member with rfl | rfl
    · exact checked_sendable _ (whole _) ssidText ssidText_bounds.other ssidText_carried tests.1
    · exact checked_sendable _ (whole _) wifiPasswordText wifiPasswordText_bounds.other wifiPasswordText_carried tests.2
  | _ => simp [validateWifi, fieldsOf] at valid

theorem mqtt_sendable (mqtt : Json) (regular : mqtt.Regular) (valid : validateMqtt mqtt = .ok ()) :
    mqtt.Sendable 1 16 := by
  cases mqtt with
  | null => exact null_sendable.weaken (by decide) (by decide)
  | dict fields =>
    obtain ⟨keys, tests⟩ := (validateMqtt_ok fields).mp valid
    have whole (name : String) := field_regular fields regular name
    simp only [Bool.and_eq_true] at tests
    obtain ⟨⟨⟨⟨⟨host, port⟩, user⟩, password⟩, ca⟩, key⟩ := tests
    refine (fields_sendable fields regular mqttNames keys mqttNames_distinct (by decide) 0 0 ?_).weaken (by decide)
      (by decide)
    intro name member
    simp only [mqttNames, List.mem_cons, List.not_mem_nil, or_false] at member
    rcases member with rfl | rfl | rfl | rfl | rfl | rfl
    · exact checked_sendable _ (whole _) hostnameText hostnameText_bounds.other hostnameText_carried host
    · exact port_sendable _ port
    · exact checked_sendable _ (whole _) _ (credentialText_bounds 128).other (credentialText_carried 128) user
    · exact checked_sendable _ (whole _) _ (credentialText_bounds 256).other (credentialText_carried 256) password
    · exact checked_sendable _ (whole _) _ (certificateText_bounds 4096).other (certificateText_carried 4096) ca
    · exact checked_sendable _ (whole _) keyText keyText_other keyText_carried key
  | _ => simp [validateMqtt, fieldsOf] at valid

theorem frp_sendable (frp : Json) (regular : frp.Regular) (valid : validateFrp frp = .ok ()) :
    frp.Sendable 1 16 := by
  cases frp with
  | null => exact null_sendable.weaken (by decide) (by decide)
  | dict fields =>
    obtain ⟨keys, tests⟩ := (validateFrp_ok fields).mp valid
    have whole (name : String) := field_regular fields regular name
    simp only [Bool.and_eq_true] at tests
    obtain ⟨⟨⟨⟨⟨⟨⟨host, server⟩, remote⟩, near⟩, token⟩, ca⟩, proxy⟩, key⟩ := tests
    refine (fields_sendable fields regular frpNames keys frpNames_distinct (by decide) 0 0 ?_).weaken (by decide)
      (by decide)
    intro name member
    simp only [frpNames, List.mem_cons, List.not_mem_nil, or_false] at member
    rcases member with rfl | rfl | rfl | rfl | rfl | rfl | rfl | rfl
    · exact checked_sendable _ (whole _) hostnameText hostnameText_bounds.other hostnameText_carried host
    · exact port_sendable _ server
    · exact checked_sendable _ (whole _) tokenText tokenText_bounds.other tokenText_carried token
    · exact checked_sendable _ (whole _) _ (certificateText_bounds 2048).other (certificateText_carried 2048) ca
    · exact checked_sendable _ (whole _) proxyText proxyText_bounds.other proxyText_carried proxy
    · exact port_sendable _ remote
    · exact port_sendable _ near
    · exact checked_sendable _ (whole _) keyText keyText_other keyText_carried key
  | _ => simp [validateFrp, fieldsOf] at valid

theorem supported_iff (fields : Entries) :
    supported fields = true ↔ field fields "schema_version" = .int 3 ∧ field fields "business" = .null := by
  unfold supported
  cases schema : field fields "schema_version" with
  | int version =>
    cases field fields "business" <;> simp
  | _ => simp

theorem config_sendable (config : Json) (regular : config.Regular) (valid : validateConfiguration config = .ok ()) :
    config.Sendable 2 90 := by
  cases config with
  | dict fields =>
    obtain ⟨keys, supports, wifi, mqtt, frp⟩ := (validateConfiguration_ok fields).mp valid
    obtain ⟨schema, business⟩ := (supported_iff fields).mp supports
    have whole (name : String) := field_regular fields regular name
    refine (fields_sendable fields regular configNames keys configNames_distinct (by decide) 1 16 ?_).weaken
      (by decide) (by decide)
    intro name member
    simp only [configNames, List.mem_cons, List.not_mem_nil, or_false] at member
    rcases member with rfl | rfl | rfl | rfl | rfl
    · rw [schema]
      exact (int_sendable 3 (by norm_num)).weaken (by decide) (by decide)
    · exact wifi_sendable _ (whole _) wifi
    · exact mqtt_sendable _ (whole _) mqtt
    · exact frp_sendable _ (whole _) frp
    · rw [business]
      exact null_sendable.weaken (by decide) (by decide)
  | _ => simp [validateConfiguration, fieldsOf] at valid

end EspBase

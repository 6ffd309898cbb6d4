import EspBase.Host.Agreement
import EspBase.Host.Prescan

set_option autoImplicit false

/-!
# The trees of dumped values

What cJSON makes of a dumped value, and the same fields read from the value and
from its tree.
-/

namespace EspBase

open Unicode

-- A lone surrogate has no UTF-8.
def stringTree (s : Text) : Option CString :=
  match encode (joinSurrogates s) with
  | some bytes => if unbroken : 0 ∉ bytes then some ⟨bytes, unbroken⟩ else none
  | none => none

mutual
def Json.tree : Json → Option CJson
  | .null => some .null
  | .bool value => some (.bool value)
  | .int value => some (.number (Double.ofInt value))
  | .float _ => none
  | .str value => (stringTree value).map CJson.string
  | .list items => (itemsTree items).map CJson.array
  | .dict entries => (entriesTree entries).map CJson.object
def itemsTree : List Json → Option (List CJson)
  | [] => some []
  | item :: rest => item.tree.bind (fun first => (itemsTree rest).map (fun others => first :: others))
def entriesTree : Entries → Option (List (CString × CJson))
  | [] => some []
  | (name, value) :: rest =>
    (stringTree name).bind (fun key => value.tree.bind (fun first =>
      (entriesTree rest).map (fun others => (key, first) :: others)))
end

-- Every number fits the buffer in which cJSON copies it.
mutual
def Json.modest : Json → Bool
  | .int value => (decimal value.natAbs).length ≤ 62
  | .list items => itemsModest items
  | .dict entries => entriesModest entries
  | _ => true
def itemsModest : List Json → Bool
  | [] => true
  | item :: rest => item.modest && itemsModest rest
def entriesModest : Entries → Bool
  | [] => true
  | (_, value) :: rest => value.modest && entriesModest rest
end

/-- cJSON on a scanned text: it yields the tree that the text denotes or none, and none only where there is
no tree or a number too long for it. -/
structure CJsonDenotes (cjson : List UInt8 → Option (CJson × Nat)) (value : Json) : Prop where
  sound : validBytes value.dumps = true → ∀ tree finish, cjson value.dumps = some (tree, finish) →
    value.tree = some tree ∧ finish = value.dumps.length
  complete : validBytes value.dumps = true → value.tree.isSome → value.modest = true →
    (cjson value.dumps).isSome

theorem stringTree_encode (s : Text) (regular : joinSurrogates s = s) (key : CString) :
    stringTree s = some key ↔ encode s = some key.bytes := by
  unfold stringTree
  rw [regular]
  cases encoded : encode s with
  | none => simp
  | some bytes =>
    by_cases unbroken : 0 ∉ bytes
    · simp only [unbroken, not_false_eq_true, dite_true, Option.some.injEq]
      constructor
      · rintro rfl
        rfl
      · intro same
        exact CString.ext same
    · simp only [unbroken, dite_false, Option.some.injEq]
      constructor
      · intro none
        cases none
      · intro same
        exact absurd (same ▸ key.unbroken) unbroken

theorem encode_text (name : String) (ascii : isAscii (text name) = true) :
    encode (text name) = some (bytesOf name) := by
  have plain : name.toList.all (fun c => decide (c.toNat < 0x80)) = true := by
    rwa [isAscii, text, List.all_map] at ascii
  rw [encode_of_ascii _ ascii, bytesOf_ascii name plain, text, List.map_map]
  rfl

theorem key_agrees (s : Text) (regular : joinSurrogates s = s) (key : CString) (read : stringTree s = some key)
    (name : String) (ascii : isAscii (text name) = true) :
    (key.bytes == bytesOf name) = (s == text name) := by
  have encoded := (stringTree_encode s regular key).mp read
  rw [Bool.eq_iff_iff, beq_iff_eq, beq_iff_eq]
  constructor
  · intro same
    exact encode_injective s (text name) key.bytes encoded (same ▸ encode_text name ascii)
  · intro same
    rw [same, encode_text name ascii] at encoded
    exact (Option.some.inj encoded).symm

theorem entriesTree_cons (name : Text) (value : Json) (rest : Entries) (items : List (CString × CJson)) :
    entriesTree ((name, value) :: rest) = some items ↔
      ∃ key first others, stringTree name = some key ∧ value.tree = some first ∧
        entriesTree rest = some others ∧ items = (key, first) :: others := by
  simp only [entriesTree, Option.bind_eq_some_iff, Option.map_eq_some_iff]
  constructor
  · rintro ⟨key, named, first, read, others, later, rfl⟩
    exact ⟨key, first, others, named, read, later, rfl⟩
  · rintro ⟨key, first, others, named, read, later, rfl⟩
    exact ⟨key, named, first, read, others, later, rfl⟩

theorem objectItem_tree (entries : Entries) (items : List (CString × CJson))
    (read : entriesTree entries = some items) (regular : EntriesRegular entries) (name : String)
    (ascii : isAscii (text name) = true) :
    (∀ value, entries.lookup (text name) = some value →
      ∃ tree, value.tree = some tree ∧ objectItem (some (.object items)) name = some tree) ∧
    (entries.lookup (text name) = none → objectItem (some (.object items)) name = none) := by
  induction entries generalizing items with
  | nil =>
    obtain rfl : items = [] := by simpa [entriesTree] using read.symm
    simp [objectItem]
  | cons entry entries ih =>
    obtain ⟨field, value⟩ := entry
    obtain ⟨key, first, others, named, here, later, rfl⟩ := (entriesTree_cons _ _ _ _).mp read
    obtain ⟨joined, -, rest⟩ := regular
    have agrees := key_agrees field joined key named name ascii
    have found := ih others later rest
    by_cases same : field = text name
    · have asked : (text name == field) = true := by simpa using same.symm
      have matched : (key.bytes == bytesOf name) = true := by simpa [same] using agrees
      simp [objectItem, List.lookup_cons, asked, matched, here]
    · have asked : (text name == field) = false := by simpa using fun equal => same equal.symm
      have other : (key.bytes == bytesOf name) = false := by simpa [same] using agrees
      simpa [objectItem, List.lookup_cons, asked, other] using found

theorem keys_counted (entries : Entries) (items : List (CString × CJson))
    (read : entriesTree entries = some items) (regular : EntriesRegular entries) (name : String)
    (ascii : isAscii (text name) = true) :
    items.countP (fun item => item.1.bytes == bytesOf name) = (entries.map Prod.fst).count (text name) := by
  induction entries generalizing items with
  | nil =>
    obtain rfl : items = [] := by simpa [entriesTree] using read.symm
    rfl
  | cons entry entries ih =>
    obtain ⟨key, first, others, named, -, later, rfl⟩ := (entriesTree_cons _ _ _ _).mp read
    obtain ⟨joined, -, rest⟩ := regular
    rw [List.countP_cons, List.map_cons, List.count_cons, ih others later rest,
      key_agrees entry.1 joined key named name ascii]

theorem entriesTree_length (entries : Entries) (items : List (CString × CJson))
    (read : entriesTree entries = some items) : items.length = entries.length := by
  induction entries generalizing items with
  | nil =>
    obtain rfl : items = [] := by simpa [entriesTree] using read.symm
    rfl
  | cons entry entries ih =>
    obtain ⟨key, first, others, -, -, later, rfl⟩ := (entriesTree_cons _ _ _ _).mp read
    simp [ih others later]

theorem sameMembers {α : Type} [BEq α] [LawfulBEq α] (first second : List α) (apart : first.Nodup)
    (distinct : second.Nodup) :
    (first.length = second.length ∧ ∀ x ∈ second, first.count x = 1) ↔
      (∀ x ∈ first, x ∈ second) ∧ ∀ x ∈ second, x ∈ first := by
  constructor
  · rintro ⟨size, counts⟩
    have held (x : α) (member : x ∈ second) : x ∈ first := by
      have once := counts x member
      exact List.count_pos_iff.mp (by omega)
    have permuted := (distinct.subperm held).perm_of_length_le (by omega)
    exact ⟨fun x member => permuted.mem_iff.mpr member, held⟩
  · rintro ⟨kept, held⟩
    have permuted := (List.perm_ext_iff_of_nodup apart distinct).mpr (fun x => ⟨kept x, held x⟩)
    exact ⟨permuted.length_eq, fun x member => List.count_eq_one_of_mem apart (held x member)⟩

theorem exactKeys_tree (entries : Entries) (items : List (CString × CJson))
    (read : entriesTree entries = some items) (regular : Json.Regular (.dict entries)) (names : List String)
    (ascii : ∀ name ∈ names, isAscii (text name) = true) (distinct : (names.map text).Nodup) :
    exactKeys (some (.object items)) names = sameKeys entries (names.map text) := by
  obtain ⟨apart, each⟩ := regular
  have members := sameMembers (entries.map Prod.fst) (names.map text) apart distinct
  simp only [List.length_map, List.forall_mem_map] at members
  have counted (name : String) (member : name ∈ names) :=
    keys_counted entries items read each name (ascii name member)
  rw [Bool.eq_iff_iff]
  simp only [exactKeys, sameKeys, entriesTree_length entries items read, Bool.and_eq_true, beq_iff_eq,
    List.all_eq_true, List.contains_iff_mem, List.any_eq_true, List.forall_mem_map]
  constructor
  · rintro ⟨size, counts⟩
    have both := members.mp ⟨size, fun name member => (counted name member).symm.trans (counts name member)⟩
    exact ⟨both.1, fun name member => List.mem_map.mp (both.2 name member)⟩
  · rintro ⟨kept, held⟩
    have both := members.mpr ⟨kept, fun name member => List.mem_map.mpr (held name member)⟩
    exact ⟨both.1, fun name member => (counted name member).trans (both.2 name member)⟩

end EspBase

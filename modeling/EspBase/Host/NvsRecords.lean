import EspBase.Host.Configuration
import EspBase.Shared.Bytes
import EspBase.Shared.Dict

set_option autoImplicit false

/-!
# The records of an NVS partition

The pages are what the SDK's parser makes of the partition.
-/

namespace EspBase

open Dict

-- `entry.data`, whose keys depend on the type.
structure NvsData where
  value : Option Int := none
  size : Option Nat := none
  chunkCount : Option Nat := none
  chunkStart : Option Nat := none
deriving DecidableEq

structure NvsItem where
  namespaceId : Nat
  type : String
  span : Nat
  chunkIndex : Nat
  key : String
  data : NvsData
  children : List (List UInt8)
deriving DecidableEq

structure NvsChild where
  index : Nat
  state : String
  raw : List UInt8
deriving DecidableEq

structure NvsCrc where
  original : Nat
  computed : Nat
  dataOriginal : Nat
  dataComputed : Nat
deriving DecidableEq

structure NvsEntry where
  index : Nat
  state : String
  isEmpty : Bool
  raw : List UInt8
  namespaceId : Nat
  type : String
  span : Nat
  chunkIndex : Nat
  crc : NvsCrc
  key : String
  data : NvsData
  children : List NvsChild
deriving DecidableEq

def NvsEntry.item (entry : NvsEntry) : NvsItem :=
  { namespaceId := entry.namespaceId
    type := entry.type
    span := entry.span
    chunkIndex := entry.chunkIndex
    key := entry.key
    data := entry.data
    children := entry.children.map NvsChild.raw }

structure NvsPage where
  status : String
  version : Nat
  crcOriginal : Nat
  crcComputed : Nat
  rawHeader : List UInt8
  rawEntryStateBitmap : List UInt8
  entries : List NvsEntry
deriving DecidableEq

def nvsRawKey (entry : NvsEntry) : List UInt8 := Bytes.slice entry.raw 8 16

def validateEntry (partitionName : String) (entry : NvsEntry) : Except String Unit := do
  require (["Empty", "Erased", "Written"].contains entry.state) (partitionName ++ " NVS 条目状态无效")
  if entry.state == "Empty" then
    require entry.isEmpty (partitionName ++ " NVS 空条目含非空字节")
  else
    require (!entry.isEmpty && 1 ≤ entry.span && entry.index + entry.span ≤ 126)
      (partitionName ++ " NVS 已写条目跨度无效")
    require (entry.children.length + 1 == entry.span && entry.children.all (·.state == entry.state))
      (partitionName ++ " NVS 已写条目跨页或子条目状态无效")
    if entry.state != "Erased" then
      require (entry.crc.original == entry.crc.computed) (partitionName ++ " NVS 已写条目 CRC 不符")
      if 1 < entry.span then
        require (entry.crc.dataOriginal == entry.crc.dataComputed) (partitionName ++ " NVS 数据 CRC 不符")
      require ((nvsRawKey entry).contains 0 && ((nvsRawKey entry).dropWhile (· != 0)).all (· == 0))
        (partitionName ++ " NVS 键编码无效")
      match Unicode.decodeAscii ((nvsRawKey entry).takeWhile (· != 0)) with
      | none => .error (partitionName ++ " NVS 键不是 ASCII")
      | some key => require (!key.isEmpty) (partitionName ++ " NVS 键为空")

def coveredIndices (page : NvsPage) : List Nat :=
  page.entries.flatMap (fun entry => entry.index :: entry.children.map NvsChild.index)

def validatePage (partitionName : String) (page : NvsPage) : Except String Unit := do
  require (["Empty", "Active", "Full"].contains page.status) (partitionName ++ " 含无法安全审计的 NVS 页状态")
  if page.status == "Empty" then
    require (page.rawHeader == List.replicate 32 0xff && page.rawEntryStateBitmap == List.replicate 32 0xff &&
        page.entries.all (fun entry => entry.state == "Empty" && entry.isEmpty))
      (partitionName ++ " 空白 NVS 页含非空字节")
  else
    require ([1, 2].contains page.version) (partitionName ++ " 含未知 NVS 页版本")
    require (page.crcOriginal == page.crcComputed) (partitionName ++ " NVS 页头 CRC 不符")
    page.entries.forM (validateEntry partitionName)
    require ((coveredIndices page).mergeSort == List.range 126) (partitionName ++ " NVS 页条目覆盖不完整")

-- A key that is not in the dictionary.
def dataField {α : Type} (value : Option α) : Except String α :=
  match value with
  | some value => .ok value
  | none => .error "KeyError"

def readNamespaces (name : String) : List NvsItem → List (Int × String) → Except String (List (Int × String))
  | [], namespaces => .ok namespaces
  | item :: rest, namespaces =>
    if item.namespaceId ≠ 0 then readNamespaces name rest namespaces
    else do
      require (item.type == "uint8_t" && item.span == 1) (name ++ " namespace 声明无效或重复")
      let value ← dataField item.data.value
      require (0 < value && value < 255 && !(keys namespaces).contains value) (name ++ " namespace 声明无效或重复")
      readNamespaces name rest (namespaces ++ [(value, item.key)])

abbrev NvsKey := String × String

def nvsKey (namespaces : List (Int × String)) (item : NvsItem) : Option NvsKey :=
  if item.namespaceId = 0 then none
  else (namespaces.lookup (item.namespaceId : Int)).map (·, item.key)

def readGroups (name : String) (namespaces : List (Int × String)) :
    List NvsItem → List (NvsKey × List NvsItem) → Except String (List (NvsKey × List NvsItem))
  | [], groups => .ok groups
  | item :: rest, groups =>
    if item.namespaceId = 0 then readGroups name namespaces rest groups
    else
      match namespaces.lookup (item.namespaceId : Int) with
      | none => .error (name ++ " 条目引用未知 namespace")
      | some space => readGroups name namespaces rest (addTo (space, item.key) item groups)

abbrev NvsRecord := String × List UInt8

def itemBytes (item : NvsItem) : Option (List UInt8) := item.data.size.map item.children.flatten.take

def stringRecord (name : String) (item : NvsItem) : Except String NvsRecord := do
  let size ← dataField item.data.size
  require (0 < size) (name ++ " 字符串长度无效")
  let value := item.children.flatten.take size
  require (value.length == size && value.getLast? == some 0) (name ++ " 字符串不完整")
  return ("string", value)

def blobRecord (name : String) (item : NvsItem) : Except String NvsRecord := do
  let size ← dataField item.data.size
  let value := item.children.flatten.take size
  require (value.length == size) (name ++ " 旧式 blob 不完整")
  return ("blob", value)

def chunkNumber (start : Nat) (chunk : NvsItem) : Nat := (((chunk.chunkIndex : Int) - start) % 256).toNat

def orderChunks (start : Nat) (chunks : List NvsItem) : List NvsItem :=
  chunks.mergeSort (fun first second => chunkNumber start first ≤ chunkNumber start second)

def chunkedRecord (name : String) (group : List NvsItem) : Except String NvsRecord :=
  match group.filter (·.type == "blob_index") with
  | [index] =>
    let chunks := group.filter (·.type == "blob_data")
    if chunks.length + 1 ≠ group.length then .error (name ++ " 含未知或重复的 NVS 记录类型")
    else do
      require (index.span == 1) (name ++ " blob 索引与分块不一致")
      let count ← dataField index.data.chunkCount
      require (count == chunks.length && 0 < chunks.length) (name ++ " blob 索引与分块不一致")
      let start ← dataField index.data.chunkStart
      let ordered := orderChunks start chunks
      require (ordered.map (chunkNumber start) == List.range chunks.length) (name ++ " blob 分块序号不连续")
      let parts ← dataField (ordered.mapM itemBytes)
      let size ← dataField index.data.size
      require (parts.flatten.length == size) (name ++ " blob 总长度不符")
      return ("blob", parts.flatten)
  | _ => .error (name ++ " 含未知或重复的 NVS 记录类型")

def groupRecord (name : String) (group : List NvsItem) : Except String NvsRecord :=
  match group with
  | [item] =>
    if item.type = "string" then stringRecord name item
    else if item.type = "blob" then blobRecord name item
    else chunkedRecord name group
  | _ => chunkedRecord name group

def readRecords (name : String) : List (NvsKey × List NvsItem) → Except String (List (NvsKey × NvsRecord))
  | [] => .ok []
  | (key, group) :: rest => do
    let record ← groupRecord name group
    let records ← readRecords name rest
    return (key, record) :: records

def writtenItems (pages : List NvsPage) : List NvsItem :=
  ((pages.flatMap NvsPage.entries).filter (·.state == "Written")).map NvsEntry.item

def itemRecords (name : String) (allowed : List NvsKey) (items : List NvsItem) :
    Except String (List (NvsKey × NvsRecord)) := do
  let namespaces ← readNamespaces name items []
  let names := namespaces.map Prod.snd
  require (namespaces.length == names.dedup.length) (name ++ " namespace 名称重复")
  let groups ← readGroups name namespaces items []
  require ((keys groups).all allowed.contains) (name ++ " 含非预期记录；停止迁移并人工确认事实")
  let records ← readRecords name groups
  require (names.all ((keys records).map Prod.fst).contains && ((keys records).map Prod.fst).all names.contains)
    (name ++ " 含未使用或未知的 NVS namespace")
  return records

def nvsRecords (name : String) (allowed : List NvsKey) (pages : List NvsPage) :
    Except String (List (NvsKey × NvsRecord)) := do
  require (pages.any (·.status == "Empty")) (name ++ " 没有 NVS 空白页")
  pages.forM (validatePage name)
  itemRecords name allowed (writtenItems pages)

theorem dataField_ok {α : Type} (value : Option α) (result : α) :
    dataField value = .ok result ↔ value = some result := by
  cases value <;> simp [dataField]

structure Declares (item : NvsItem) : Prop where
  type : item.type = "uint8_t"
  span : item.span = 1
  value : ∃ value, item.data.value = some value ∧ 0 < value ∧ value < 255

def declared (item : NvsItem) : Option (Int × String) :=
  if item.namespaceId ≠ 0 then none else item.data.value.map (·, item.key)

theorem readNamespaces_ok (name : String) (items : List NvsItem) (namespaces result : List (Int × String))
    (distinct : (keys namespaces).Nodup) :
    readNamespaces name items namespaces = .ok result ↔
      (∀ item ∈ items, item.namespaceId = 0 → Declares item) ∧
        (keys (namespaces ++ items.filterMap declared)).Nodup ∧
        result = namespaces ++ items.filterMap declared := by
  induction items generalizing namespaces with
  | nil => simp [readNamespaces, distinct, eq_comm]
  | cons item rest ih =>
    rw [readNamespaces]
    by_cases plain : item.namespaceId ≠ 0
    · rw [if_pos plain, ih namespaces distinct]
      have skipped : declared item = none := if_pos plain
      simp [skipped, plain]
    · have declaration : item.namespaceId = 0 := not_not.mp plain
      rw [if_neg plain]
      simp only [bind_ok, require_ok, dataField_ok, Bool.and_eq_true, beq_iff_eq, decide_eq_true_eq,
        Bool.not_eq_true', ← Bool.not_eq_true, List.contains_iff_mem]
      have kept (value : Int) (held : item.data.value = some value) :
          namespaces ++ (item :: rest).filterMap declared =
            (namespaces ++ [(value, item.key)]) ++ rest.filterMap declared := by
        have made : declared item = some (value, item.key) := by
          rw [declared, if_neg plain, held]
          rfl
        rw [List.filterMap_cons_some made, List.append_assoc, List.singleton_append]
      constructor
      · rintro ⟨_, ⟨type, span⟩, value, held, _, ⟨⟨low, high⟩, fresh⟩, later⟩
        have added : (keys (namespaces ++ [(value, item.key)])).Nodup := by
          rw [keys_append, List.nodup_append]
          refine ⟨distinct, by simp [keys], fun other member last => ?_⟩
          rintro more rfl
          obtain rfl : other = value := by simpa [keys] using more
          exact fresh member
        obtain ⟨others, nodup, same⟩ := (ih _ added).mp later
        rw [kept value held]
        refine ⟨?_, nodup, same⟩
        rw [List.forall_mem_cons]
        exact ⟨fun _ => ⟨type, span, value, held, low, high⟩, others⟩
      · rintro ⟨all, nodup, same⟩
        obtain ⟨first, others⟩ := List.forall_mem_cons.mp all
        obtain ⟨type, span, value, held, low, high⟩ := first declaration
        rw [kept value held] at nodup same
        have added : (keys (namespaces ++ [(value, item.key)])).Nodup := by
          rw [keys_append] at nodup
          exact (List.nodup_append.mp nodup).1
        have fresh : value ∉ keys namespaces := by
          rw [keys_append, List.nodup_append] at added
          intro member
          exact added.2.2 value member value (by simp [keys]) rfl
        exact ⟨(), ⟨type, span⟩, value, held, (), ⟨⟨low, high⟩, fresh⟩, (ih _ added).mpr ⟨others, nodup, same⟩⟩

theorem readGroups_ok (name : String) (namespaces : List (Int × String)) (items : List NvsItem)
    (groups result : List (NvsKey × List NvsItem)) :
    readGroups name namespaces items groups = .ok result ↔
      (∀ item ∈ items, item.namespaceId ≠ 0 → nvsKey namespaces item ≠ none) ∧
        result = grouped (nvsKey namespaces) items groups := by
  induction items generalizing groups with
  | nil => simp [readGroups, grouped, eq_comm]
  | cons item rest ih =>
    rw [readGroups, grouped, List.forall_mem_cons]
    by_cases declaration : item.namespaceId = 0
    · have skipped : nvsKey namespaces item = none := if_pos declaration
      simp [declaration, skipped, ih]
    · rw [if_neg declaration]
      cases found : namespaces.lookup (item.namespaceId : Int) with
      | none =>
        have unknown : nvsKey namespaces item = none := by
          rw [nvsKey, if_neg declaration, found]
          rfl
        simp [unknown, declaration]
      | some space =>
        have known : nvsKey namespaces item = some (space, item.key) := by
          rw [nvsKey, if_neg declaration, found]
          rfl
        simp [known, ih]

theorem readRecords_ok (name : String) (groups : List (NvsKey × List NvsItem))
    (records : List (NvsKey × NvsRecord)) :
    readRecords name groups = .ok records ↔
      List.Forall₂ (fun group record => group.1 = record.1 ∧ groupRecord name group.2 = .ok record.2)
        groups records := by
  induction groups generalizing records with
  | nil => simp [readRecords, eq_comm]
  | cons group rest ih =>
    obtain ⟨key, members⟩ := group
    simp only [readRecords, bind_ok, ih, List.forall₂_cons_left_iff]
    constructor
    · rintro ⟨record, first, others, later, done⟩
      exact ⟨(key, record), others, ⟨rfl, first⟩, later, (Except.ok.inj done).symm⟩
    · rintro ⟨⟨_, record⟩, others, ⟨rfl, first⟩, later, rfl⟩
      exact ⟨record, first, others, later, rfl⟩

structure Assembled (group : List NvsItem) (index : NvsItem) (ordered : List NvsItem) (value : List UInt8) :
    Prop where
  all : (index :: ordered).Perm group
  indexed : index.type = "blob_index" ∧ index.span = 1
  chunks : ∀ chunk ∈ ordered, chunk.type = "blob_data"
  count : index.data.chunkCount = some ordered.length
  nonempty : ordered ≠ []
  numbered : ordered.length ≤ 256 ∧ ∃ start, index.data.chunkStart = some start ∧
    ∀ i (inside : i < ordered.length), ordered[i].chunkIndex % 256 = (start + i) % 256
  joined : ∃ parts : List (List UInt8), ordered.map itemBytes = parts.map some ∧ value = parts.flatten
  size : index.data.size = some value.length

theorem chunkNumber_iff (start i : Nat) (chunk : NvsItem) :
    chunkNumber start chunk = i ↔ i < 256 ∧ chunk.chunkIndex % 256 = (start + i) % 256 := by
  unfold chunkNumber
  omega

theorem numbered_iff (start : Nat) (ordered : List NvsItem) :
    ordered.map (chunkNumber start) = List.range ordered.length ↔
      ordered.length ≤ 256 ∧
        ∀ i (inside : i < ordered.length), ordered[i].chunkIndex % 256 = (start + i) % 256 := by
  have each : ordered.map (chunkNumber start) = List.range ordered.length ↔
      ∀ i (inside : i < ordered.length), chunkNumber start ordered[i] = i := by
    rw [List.ext_getElem_iff]
    simp
  simp only [each, chunkNumber_iff]
  constructor
  · intro all
    refine ⟨?_, fun i inside => (all i inside).2⟩
    by_contra long
    have last := (all 256 (by omega)).1
    omega
  · rintro ⟨short, all⟩ i inside
    exact ⟨by omega, all i inside⟩

theorem mapM_some_iff {α β : Type} (f : α → Option β) (items : List α) (parts : List β) :
    items.mapM f = some parts ↔ items.map f = parts.map some := by
  induction items generalizing parts with
  | nil => cases parts <;> simp
  | cons item rest ih =>
    rw [List.mapM_cons, List.map_cons]
    cases first : f item with
    | none => cases parts <;> simp
    | some part =>
      cases parts with
      | nil => simp [Option.bind_eq_some_iff]
      | cons head tail => simp [Option.bind_eq_some_iff, ih, and_comm]

theorem sorted_unique (start : Nat) (chunks ordered : List NvsItem) (perm : chunks.Perm ordered)
    (numbered : ordered.map (chunkNumber start) = List.range ordered.length) :
    orderChunks start chunks = ordered := by
  unfold orderChunks
  have same := (List.mergeSort_perm chunks
    (fun first second => decide (chunkNumber start first ≤ chunkNumber start second))).trans perm
  have increasing : ordered.Pairwise (fun first second => chunkNumber start first < chunkNumber start second) := by
    rw [← List.pairwise_map, numbered]
    exact List.pairwise_lt_range
  have injective : ∀ first ∈ ordered, ∀ second ∈ ordered,
      chunkNumber start first = chunkNumber start second → first = second := by
    have distinct : (ordered.map (chunkNumber start)).Nodup := by
      rw [numbered]
      exact List.nodup_range
    exact fun first here second there => List.inj_on_of_nodup_map distinct here there
  have sorted := @List.pairwise_mergeSort NvsItem
    (fun first second => decide (chunkNumber start first ≤ chunkNumber start second))
    (fun first second third => by simp only [decide_eq_true_eq]; omega)
    (fun first second => by simp only [Bool.or_eq_true, decide_eq_true_eq]; omega) chunks
  apply same.eq_of_pairwise _ sorted (increasing.imp (fun {first second} less => decide_eq_true (Nat.le_of_lt less)))
  intro first second here there le ge
  simp only [decide_eq_true_eq] at le ge
  exact injective first (same.mem_iff.mp here) second there (Nat.le_antisymm le ge)

theorem indexed_group (group ordered : List NvsItem) (index : NvsItem) (all : (index :: ordered).Perm group)
    (indexed : index.type = "blob_index") (chunks : ∀ chunk ∈ ordered, chunk.type = "blob_data") :
    group.filter (·.type == "blob_index") = [index] ∧ (group.filter (·.type == "blob_data")).Perm ordered := by
  have first : (index :: ordered).filter (·.type == "blob_index") = [index] := by
    rw [List.filter_cons_of_pos (by simp [indexed]), List.filter_eq_nil_iff.mpr]
    intro chunk member
    simp [chunks chunk member]
  have second : (index :: ordered).filter (·.type == "blob_data") = ordered := by
    rw [List.filter_cons_of_neg (by simp [indexed]), List.filter_eq_self.mpr]
    intro chunk member
    simp [chunks chunk member]
  constructor
  · have perm := all.filter (·.type == "blob_index")
    rw [first] at perm
    exact List.perm_singleton.mp perm.symm
  · have perm := all.filter (·.type == "blob_data")
    rw [second] at perm
    exact perm.symm

theorem group_indexed (group : List NvsItem) (index : NvsItem)
    (one : group.filter (·.type == "blob_index") = [index])
    (count : (group.filter (·.type == "blob_data")).length + 1 = group.length) :
    (index :: group.filter (·.type == "blob_data")).Perm group := by
  have split := List.filter_append_perm (·.type == "blob_index") group
  rw [one] at split
  have others : group.filter (·.type == "blob_data") = group.filter (fun item => !(item.type == "blob_index")) := by
    have within : (group.filter (·.type == "blob_data")).Sublist
        (group.filter (fun item => !(item.type == "blob_index"))) := by
      apply List.monotone_filter_right
      intro item data
      simp_all
    apply within.eq_of_length
    have lengths := split.length_eq
    simp only [List.length_append, List.length_singleton] at lengths
    omega
  rw [others]
  exact split

theorem chunkedRecord_ok (name : String) (group : List NvsItem) (record : NvsRecord) :
    chunkedRecord name group = .ok record ↔
      record.1 = "blob" ∧ ∃ index ordered, Assembled group index ordered record.2 := by
  obtain ⟨kind, value⟩ := record
  constructor
  · intro accepted
    unfold chunkedRecord at accepted
    split at accepted
    next index one =>
      dsimp only at accepted
      split at accepted
      · cases accepted
      next whole =>
        simp only [bind_ok, require_ok, dataField_ok, Bool.and_eq_true, beq_iff_eq, decide_eq_true_eq,
          mapM_some_iff] at accepted
        obtain ⟨_, span, count, counted, _, ⟨rfl, filled⟩, start, started, _, ordered, parts, made, size, sized, _,
          total, done⟩ := accepted
        have perm : (orderChunks start (group.filter (·.type == "blob_data"))).Perm _ := List.mergeSort_perm _ _
        have length := perm.length_eq
        rw [← length] at ordered
        obtain ⟨rfl, rfl⟩ := Prod.mk.inj (Except.ok.inj done)
        refine ⟨rfl, index, orderChunks start (group.filter (·.type == "blob_data")), ?_⟩
        have indexed : index ∈ group.filter (·.type == "blob_index") := by simp [one]
        constructor
        case all => exact (perm.cons index).trans (group_indexed group index one (not_not.mp whole))
        case indexed => exact ⟨by simpa using (List.mem_filter.mp indexed).2, span⟩
        case chunks =>
          intro chunk member
          simpa using (List.mem_filter.mp (perm.mem_iff.mp member)).2
        case count => rw [counted, length]
        case nonempty =>
          rintro none
          rw [none] at length
          exact absurd filled (by rw [← length]; simp)
        case numbered =>
          obtain ⟨short, each⟩ := (numbered_iff start _).mp ordered
          exact ⟨short, start, started, each⟩
        case joined => exact ⟨parts, made, rfl⟩
        case size => rw [sized, total]
    next => cases accepted
  · rintro ⟨rfl, index, ordered, assembled⟩
    obtain ⟨short, start, started, each⟩ := assembled.numbered
    obtain ⟨parts, made, rfl⟩ := assembled.joined
    obtain ⟨one, perm⟩ := indexed_group group ordered index assembled.all assembled.indexed.1 assembled.chunks
    have numbered := (numbered_iff start ordered).mpr ⟨short, each⟩
    have sorted := sorted_unique start _ ordered perm numbered
    have lengths := assembled.all.length_eq
    have whole : (group.filter (·.type == "blob_data")).length + 1 = group.length := by
      rw [perm.length_eq, ← lengths, List.length_cons]
    unfold chunkedRecord
    rw [one]
    dsimp only
    rw [if_neg (not_not.mpr whole)]
    simp only [bind_ok, require_ok, dataField_ok, Bool.and_eq_true, beq_iff_eq, decide_eq_true_eq,
      mapM_some_iff, perm.length_eq]
    refine ⟨(), assembled.indexed.2, _, assembled.count, (), ⟨rfl, List.length_pos_of_ne_nil assembled.nonempty⟩,
      start, started, (), ?_, parts, ?_, _, assembled.size, (), rfl, rfl⟩
    · rw [sorted, numbered]
    · rw [sorted, made]

theorem groupRecord_chunked (name : String) (group : List NvsItem) (item : NvsItem) (member : item ∈ group)
    (indexed : item.type = "blob_index") : groupRecord name group = chunkedRecord name group := by
  unfold groupRecord
  split
  next only =>
    obtain rfl := List.mem_singleton.mp member
    simp [indexed]
  · rfl

theorem groupRecord_perm (name : String) (group others : List NvsItem) (perm : group.Perm others)
    (record : NvsRecord) (accepted : groupRecord name group = .ok record) :
    groupRecord name others = .ok record := by
  by_cases single : ∃ item, group = [item]
  · obtain ⟨item, rfl⟩ := single
    rw [← List.perm_singleton.mp perm.symm] at accepted
    exact accepted
  · have several : ¬∃ item, others = [item] := by
      rintro ⟨item, rfl⟩
      exact single ⟨item, List.perm_singleton.mp perm⟩
    have chunked (items : List NvsItem) (some : ¬∃ item, items = [item]) :
        groupRecord name items = chunkedRecord name items := by
      unfold groupRecord
      split
      next item => exact absurd ⟨item, rfl⟩ some
      · rfl
    rw [chunked group single, chunkedRecord_ok] at accepted
    rw [chunked others several, chunkedRecord_ok]
    obtain ⟨kind, index, ordered, assembled⟩ := accepted
    exact ⟨kind, index, ordered, { assembled with all := assembled.all.trans perm }⟩

def groupOf (items : List NvsItem) (key : NvsKey) : List NvsItem :=
  members (nvsKey (items.filterMap declared)) items key

structure Recorded (name : String) (allowed : List NvsKey) (items : List NvsItem)
    (record : NvsKey → Option NvsRecord) : Prop where
  declarations : ∀ item ∈ items, item.namespaceId = 0 → Declares item
  ids : (keys (items.filterMap declared)).Nodup
  names : ((items.filterMap declared).map Prod.snd).Nodup
  known : ∀ item ∈ items, item.namespaceId ≠ 0 → nvsKey (items.filterMap declared) item ≠ none
  expected : ∀ key, groupOf items key ≠ [] → key ∈ allowed
  absent : ∀ key, groupOf items key = [] → record key = none
  present : ∀ key, groupOf items key ≠ [] →
    ∃ value, groupRecord name (groupOf items key) = .ok value ∧ record key = some value
  used : ∀ space, space ∈ (items.filterMap declared).map Prod.snd ↔ ∃ key, record (space, key) ≠ none

abbrev RecordOf (name : String) (group : NvsKey × List NvsItem) (record : NvsKey × NvsRecord) : Prop :=
  group.1 = record.1 ∧ groupRecord name group.2 = .ok record.2

theorem records_keys (name : String) (groups : List (NvsKey × List NvsItem))
    (records : List (NvsKey × NvsRecord)) (each : List.Forall₂ (RecordOf name) groups records) :
    keys records = keys groups := by
  induction each with
  | nil => rfl
  | cons head _ ih => rw [keys_cons, keys_cons, ih, head.1]

theorem records_mem (name : String) (groups : List (NvsKey × List NvsItem))
    (records : List (NvsKey × NvsRecord)) (each : List.Forall₂ (RecordOf name) groups records)
    (key : NvsKey) (group : List NvsItem) (member : (key, group) ∈ groups) :
    ∃ value, groupRecord name group = .ok value ∧ (key, value) ∈ records := by
  induction each with
  | nil => cases member
  | cons head _ ih =>
    rcases List.mem_cons.mp member with rfl | later
    · exact ⟨_, head.2, List.mem_cons.mpr (.inl (Prod.ext head.1 rfl))⟩
    · obtain ⟨value, accepted, held⟩ := ih later
      exact ⟨value, accepted, List.mem_cons_of_mem _ held⟩

theorem records_exist (name : String) (groups : List (NvsKey × List NvsItem))
    (each : ∀ group ∈ groups, ∃ value, groupRecord name group.2 = .ok value) :
    ∃ records, List.Forall₂ (RecordOf name) groups records := by
  induction groups with
  | nil => exact ⟨[], .nil⟩
  | cons group rest ih =>
    obtain ⟨⟨value, accepted⟩, later⟩ := List.forall_mem_cons.mp each
    obtain ⟨records, others⟩ := ih later
    exact ⟨(group.1, value) :: records, .cons ⟨rfl, accepted⟩ others⟩

theorem dedup_length_iff (namespaces : List (Int × String)) :
    namespaces.length = (namespaces.map Prod.snd).dedup.length ↔ (namespaces.map Prod.snd).Nodup := by
  rw [← List.length_map Prod.snd]
  constructor
  · intro same
    rw [← (List.dedup_sublist (namespaces.map Prod.snd)).eq_of_length same.symm]
    exact List.nodup_dedup _
  · intro distinct
    rw [distinct.dedup]

theorem itemRecords_iff (name : String) (allowed : List NvsKey) (items : List NvsItem)
    (records : List (NvsKey × NvsRecord)) :
    itemRecords name allowed items = .ok records ↔
      (∀ item ∈ items, item.namespaceId = 0 → Declares item) ∧
        (keys (items.filterMap declared)).Nodup ∧
        ((items.filterMap declared).map Prod.snd).Nodup ∧
        (∀ item ∈ items, item.namespaceId ≠ 0 → nvsKey (items.filterMap declared) item ≠ none) ∧
        (∀ key ∈ keys (grouped (nvsKey (items.filterMap declared)) items []), key ∈ allowed) ∧
        List.Forall₂ (RecordOf name) (grouped (nvsKey (items.filterMap declared)) items []) records ∧
        (∀ space ∈ (items.filterMap declared).map Prod.snd, space ∈ (keys records).map Prod.fst) ∧
        ∀ space ∈ (keys records).map Prod.fst, space ∈ (items.filterMap declared).map Prod.snd := by
  unfold itemRecords
  simp only [bind_ok, require_ok, readNamespaces_ok name items [] _ List.nodup_nil, readGroups_ok, readRecords_ok,
    List.nil_append, Bool.and_eq_true, beq_iff_eq, dedup_length_iff, List.all_eq_true, List.contains_iff_mem]
  constructor
  · rintro ⟨_, ⟨declarations, ids, rfl⟩, _, names, _, ⟨known, rfl⟩, _, expected, _, each, _, ⟨used, spaces⟩, done⟩
    cases done
    exact ⟨declarations, ids, names, known, expected, each, used, spaces⟩
  · rintro ⟨declarations, ids, names, known, expected, each, used, spaces⟩
    exact ⟨_, ⟨declarations, ids, rfl⟩, (), names, _, ⟨known, rfl⟩, (), expected, records, each, (),
      ⟨used, spaces⟩, rfl⟩

theorem groupOf_mem (items : List NvsItem) (key : NvsKey) :
    (key, groupOf items key) ∈ grouped (nvsKey (items.filterMap declared)) items [] ↔ groupOf items key ≠ [] := by
  rw [mem_grouped, groupOf]
  simp

theorem groupOf_key (items : List NvsItem) (key : NvsKey) :
    key ∈ keys (grouped (nvsKey (items.filterMap declared)) items []) ↔ groupOf items key ≠ [] := by
  rw [← groupOf_mem]
  constructor
  · intro member
    obtain ⟨⟨_, group⟩, held, rfl⟩ := List.mem_map.mp member
    have same := ((mem_grouped _ items _ group).mp held).1
    rw [same] at held
    exact held
  · intro member
    exact List.mem_map.mpr ⟨_, member, rfl⟩

theorem spaces_iff (records : List (NvsKey × NvsRecord)) (space : String) :
    space ∈ (keys records).map Prod.fst ↔ ∃ key, records.lookup (space, key) ≠ none := by
  simp only [lookup_ne_none_iff, List.mem_map, Prod.exists]
  constructor
  · rintro ⟨_, key, member, rfl⟩
    exact ⟨key, member⟩
  · rintro ⟨key, member⟩
    exact ⟨space, key, member, rfl⟩

theorem itemRecords_recorded (name : String) (allowed : List NvsKey) (items : List NvsItem)
    (records : List (NvsKey × NvsRecord)) (accepted : itemRecords name allowed items = .ok records) :
    Recorded name allowed items (fun key => records.lookup key) := by
  obtain ⟨declarations, ids, names, known, expected, each, used, spaces⟩ := (itemRecords_iff _ _ _ _).mp accepted
  have same := records_keys name _ _ each
  have distinct : (keys records).Nodup := by
    rw [same]
    exact grouped_distinct _ items [] List.nodup_nil
  constructor
  case declarations => exact declarations
  case ids => exact ids
  case names => exact names
  case known => exact known
  case expected => exact fun key filled => expected key ((groupOf_key items key).mpr filled)
  case absent =>
    intro key empty
    by_contra found
    rw [← ne_eq, lookup_ne_none_iff, same, groupOf_key] at found
    exact found empty
  case present =>
    intro key filled
    obtain ⟨value, accepted, held⟩ := records_mem name _ _ each key _ ((groupOf_mem items key).mpr filled)
    exact ⟨value, accepted, (lookup_eq_some_iff records distinct key value).mpr held⟩
  case used =>
    intro space
    rw [← spaces_iff]
    exact ⟨used space, spaces space⟩

theorem recorded_itemRecords (name : String) (allowed : List NvsKey) (items : List NvsItem)
    (record : NvsKey → Option NvsRecord) (recorded : Recorded name allowed items record) :
    ∃ records, itemRecords name allowed items = .ok records ∧ ∀ key, records.lookup key = record key := by
  have made : ∀ group ∈ grouped (nvsKey (items.filterMap declared)) items [],
      ∃ value, groupRecord name group.2 = .ok value := by
    rintro ⟨key, group⟩ member
    obtain ⟨same, filled⟩ := (mem_grouped _ items key group).mp member
    rw [same] at filled
    obtain ⟨value, accepted, _⟩ := recorded.present key filled
    rw [same]
    exact ⟨value, accepted⟩
  obtain ⟨records, each⟩ := records_exist name _ made
  have same := records_keys name _ _ each
  have distinct : (keys records).Nodup := by
    rw [same]
    exact grouped_distinct _ items [] List.nodup_nil
  have lookup (key : NvsKey) : records.lookup key = record key := by
    by_cases filled : groupOf items key = []
    · rw [recorded.absent key filled]
      by_contra found
      rw [← ne_eq, lookup_ne_none_iff, same, groupOf_key] at found
      exact found filled
    · obtain ⟨value, accepted, held⟩ := records_mem name _ _ each key _ ((groupOf_mem items key).mpr filled)
      obtain ⟨value', accepted', found⟩ := recorded.present key filled
      obtain rfl : value' = value := by
        have equal := accepted'.symm.trans accepted
        exact Except.ok.inj equal
      rw [found, lookup_eq_some_iff records distinct]
      exact held
  refine ⟨records, (itemRecords_iff _ _ _ _).mpr ?_, lookup⟩
  refine ⟨recorded.declarations, recorded.ids, recorded.names, recorded.known, ?_, each, ?_, ?_⟩
  · intro key member
    exact recorded.expected key ((groupOf_key items key).mp member)
  · intro space member
    rw [spaces_iff]
    simpa only [lookup] using (recorded.used space).mp member
  · intro space member
    rw [spaces_iff] at member
    exact (recorded.used space).mpr (by simpa only [lookup] using member)

theorem nvsKey_perm (items others : List NvsItem) (perm : items.Perm others)
    (ids : (keys (items.filterMap declared)).Nodup) :
    nvsKey (items.filterMap declared) = nvsKey (others.filterMap declared) := by
  funext item
  rw [nvsKey, nvsKey, lookup_perm _ _ (perm.filterMap declared) ids]

theorem groupOf_perm (items others : List NvsItem) (perm : items.Perm others)
    (ids : (keys (items.filterMap declared)).Nodup) (key : NvsKey) :
    (groupOf items key).Perm (groupOf others key) := by
  rw [groupOf, groupOf, nvsKey_perm items others perm ids]
  exact members_perm _ items others perm key

theorem recorded_perm (name : String) (allowed : List NvsKey) (items others : List NvsItem)
    (record : NvsKey → Option NvsRecord) (perm : items.Perm others)
    (recorded : Recorded name allowed items record) : Recorded name allowed others record := by
  have spaces := perm.filterMap declared
  have groups := groupOf_perm items others perm recorded.ids
  have empty (key : NvsKey) : groupOf others key = [] ↔ groupOf items key = [] := by
    constructor
    · intro none
      exact List.perm_nil.mp (none ▸ groups key)
    · intro none
      exact List.perm_nil.mp (none ▸ (groups key).symm)
  constructor
  case declarations => exact fun item member => recorded.declarations item (perm.mem_iff.mpr member)
  case ids => exact ((spaces.map Prod.fst).nodup_iff).mp recorded.ids
  case names => exact ((spaces.map Prod.snd).nodup_iff).mp recorded.names
  case known =>
    intro item member
    rw [← nvsKey_perm items others perm recorded.ids]
    exact recorded.known item (perm.mem_iff.mpr member)
  case expected =>
    intro key filled
    rw [ne_eq, empty] at filled
    exact recorded.expected key filled
  case absent =>
    intro key none
    exact recorded.absent key ((empty key).mp none)
  case present =>
    intro key filled
    rw [ne_eq, empty] at filled
    obtain ⟨value, accepted, held⟩ := recorded.present key filled
    exact ⟨value, groupRecord_perm name _ _ (groups key) value accepted, held⟩
  case used =>
    intro space
    rw [← recorded.used, (spaces.map Prod.snd).mem_iff]

theorem itemRecords_perm (name : String) (allowed : List NvsKey) (items others : List NvsItem)
    (records : List (NvsKey × NvsRecord)) (perm : items.Perm others)
    (accepted : itemRecords name allowed items = .ok records) :
    ∃ records', itemRecords name allowed others = .ok records' ∧
      ∀ key, records'.lookup key = records.lookup key :=
  recorded_itemRecords name allowed others _
    (recorded_perm name allowed items others _ perm (itemRecords_recorded name allowed items records accepted))

def chunkPlace (index : NvsItem) (i : Nat) : Nat := ((index.data.chunkStart.getD 0) + i) % 256

def chunkCount (index : NvsItem) : Nat := index.data.chunkCount.getD 0

-- No chunk has one of the numbers that the index announces.
def MissingChunk (group : List NvsItem) (index : NvsItem) : Prop :=
  ∃ i < chunkCount index, ∀ chunk ∈ group, chunk.type = "blob_data" → chunk.chunkIndex % 256 ≠ chunkPlace index i

def DuplicatedChunk (group : List NvsItem) : Prop :=
  ∃ first second rest, group.Perm (first :: second :: rest) ∧ first.type = "blob_data" ∧
    second.type = "blob_data" ∧ first.chunkIndex % 256 = second.chunkIndex % 256

-- An entry beside the index that is no chunk or has none of the announced numbers.
def ForeignChunk (group : List NvsItem) (index : NvsItem) : Prop :=
  ∃ item rest, group.Perm (index :: item :: rest) ∧
    (item.type ≠ "blob_data" ∨ ∀ i < chunkCount index, item.chunkIndex % 256 ≠ chunkPlace index i)

theorem assembled_place (group ordered : List NvsItem) (index : NvsItem) (value : List UInt8)
    (assembled : Assembled group index ordered value) :
    chunkCount index = ordered.length ∧
      ordered.map (·.chunkIndex % 256) = (List.range ordered.length).map (chunkPlace index) := by
  obtain ⟨_, start, started, each⟩ := assembled.numbered
  constructor
  · rw [chunkCount, assembled.count, Option.getD_some]
  · rw [List.ext_getElem_iff]
    simp only [List.length_map, List.length_range, List.getElem_map, List.getElem_range, true_and]
    intro i inside _
    rw [each i inside, chunkPlace, started, Option.getD_some]

theorem assembled_only (group ordered : List NvsItem) (index : NvsItem) (value : List UInt8)
    (assembled : Assembled group index ordered value) (other : NvsItem) (member : other ∈ group)
    (indexed : other.type = "blob_index") : other = index := by
  rcases List.mem_cons.mp (assembled.all.mem_iff.mpr member) with same | chunk
  · exact same
  · rw [assembled.chunks other chunk] at indexed
    simp at indexed

theorem assembled_whole (group ordered : List NvsItem) (index : NvsItem) (value : List UInt8)
    (assembled : Assembled group index ordered value) : ¬MissingChunk group index := by
  obtain ⟨count, places⟩ := assembled_place group ordered index value assembled
  rintro ⟨i, inside, absent⟩
  rw [count] at inside
  have member : ordered[i] ∈ ordered := List.getElem_mem inside
  have place : ordered[i].chunkIndex % 256 = chunkPlace index i := by
    have at_ := congrArg (fun list => list[i]?) places
    simpa [inside] using at_
  exact absent _ (assembled.all.mem_iff.mp (List.mem_cons_of_mem _ member)) (assembled.chunks _ member) place

theorem assembled_distinct (group ordered : List NvsItem) (index : NvsItem) (value : List UInt8)
    (assembled : Assembled group index ordered value) : ¬DuplicatedChunk group := by
  obtain ⟨count, places⟩ := assembled_place group ordered index value assembled
  have distinct : (ordered.map (·.chunkIndex % 256)).Nodup := by
    rw [places]
    apply List.Nodup.map_on _ List.nodup_range
    intro i below j within equal
    have short := assembled.numbered.1
    rw [List.mem_range] at below within
    unfold chunkPlace at equal
    omega
  rintro ⟨first, second, rest, all, data, data', same⟩
  obtain ⟨_, chunks⟩ := indexed_group group ordered index assembled.all assembled.indexed.1 assembled.chunks
  have both := ((all.filter (·.type == "blob_data")).symm.trans chunks).map (·.chunkIndex % 256)
  rw [List.filter_cons_of_pos (by simp [data]), List.filter_cons_of_pos (by simp [data'])] at both
  have twice := both.nodup_iff.mpr distinct
  simp [same] at twice

theorem assembled_own (group ordered : List NvsItem) (index : NvsItem) (value : List UInt8)
    (assembled : Assembled group index ordered value) : ¬ForeignChunk group index := by
  obtain ⟨count, places⟩ := assembled_place group ordered index value assembled
  rintro ⟨item, rest, all, foreign⟩
  have others : (item :: rest).Perm ordered := (List.perm_cons index).mp (all.symm.trans assembled.all.symm)
  have member : item ∈ ordered := others.mem_iff.mp List.mem_cons_self
  rcases foreign with other | apart
  · exact other (assembled.chunks item member)
  · have placed : item.chunkIndex % 256 ∈ ordered.map (·.chunkIndex % 256) :=
      List.mem_map.mpr ⟨item, member, rfl⟩
    rw [places] at placed
    obtain ⟨i, inside, place⟩ := List.mem_map.mp placed
    rw [List.mem_range, ← count] at inside
    exact apart i inside place.symm

theorem forM_accepts {α : Type} (check : α → Except String Unit) (items : List α) (value : Unit) :
    items.forM check = .ok value ↔ ∀ item ∈ items, check item = .ok () := by
  induction items with
  | nil => simp [pure, Except.pure]
  | cons item rest ih =>
    change (check item >>= fun _ => rest.forM check) = .ok value ↔ _
    rw [bind_ok, List.forall_mem_cons, ← ih]
    constructor
    · rintro ⟨_, first, later⟩
      exact ⟨first, later⟩
    · rintro ⟨first, later⟩
      exact ⟨(), first, later⟩

theorem nvsRecords_ok (name : String) (allowed : List NvsKey) (pages : List NvsPage)
    (records : List (NvsKey × NvsRecord)) :
    nvsRecords name allowed pages = .ok records ↔
      pages.any (·.status == "Empty") ∧ (∀ page ∈ pages, validatePage name page = .ok ()) ∧
        itemRecords name allowed (writtenItems pages) = .ok records := by
  simp only [nvsRecords, bind_ok, require_ok, forM_accepts]
  constructor
  · rintro ⟨_, spare, _, valid, accepted⟩
    exact ⟨spare, valid, accepted⟩
  · rintro ⟨spare, valid, accepted⟩
    exact ⟨(), spare, (), valid, accepted⟩

theorem nvsRecords_perm (name : String) (allowed : List NvsKey) (pages others : List NvsPage)
    (records : List (NvsKey × NvsRecord))
    (valid : ∀ page ∈ others, validatePage name page = .ok ())
    (spare : pages.any (·.status == "Empty") = others.any (·.status == "Empty"))
    (perm : (writtenItems pages).Perm (writtenItems others))
    (accepted : nvsRecords name allowed pages = .ok records) :
    ∃ records', nvsRecords name allowed others = .ok records' ∧
      ∀ key, records'.lookup key = records.lookup key := by
  obtain ⟨free, _, made⟩ := (nvsRecords_ok _ _ _ _).mp accepted
  obtain ⟨records', made', same⟩ := itemRecords_perm name allowed _ _ records perm made
  rw [spare] at free
  exact ⟨records', (nvsRecords_ok _ _ _ _).mpr ⟨free, valid, made'⟩, same⟩

theorem nvsRecords_blob (name : String) (allowed : List NvsKey) (pages : List NvsPage)
    (records : List (NvsKey × NvsRecord)) (accepted : nvsRecords name allowed pages = .ok records)
    (key : NvsKey) (index : NvsItem) (member : index ∈ groupOf (writtenItems pages) key)
    (indexed : index.type = "blob_index") :
    ∃ ordered value, Assembled (groupOf (writtenItems pages) key) index ordered value ∧
      records.lookup key = some ("blob", value) := by
  have recorded := itemRecords_recorded name allowed _ records ((nvsRecords_ok _ _ _ _).mp accepted).2.2
  obtain ⟨⟨kind, value⟩, made, found⟩ := recorded.present key (List.ne_nil_of_mem member)
  rw [groupRecord_chunked name _ index member indexed, chunkedRecord_ok] at made
  obtain ⟨rfl, first, ordered, assembled⟩ := made
  obtain rfl := assembled_only _ ordered first value assembled index member indexed
  exact ⟨ordered, value, assembled, found⟩

/-- The written entries decide what a partition holds, wherever they lie in its pages. -/
theorem records_by_content (name : String) (allowed : List NvsKey) (pages : List NvsPage)
    (valid : ∀ page ∈ pages, validatePage name page = .ok ()) :
    (∀ others : List NvsPage, (∀ page ∈ others, validatePage name page = .ok ()) →
        pages.any (·.status == "Empty") = others.any (·.status == "Empty") →
        (writtenItems pages).Perm (writtenItems others) →
        ((∃ message, nvsRecords name allowed pages = .error message) ∧
            ∃ message, nvsRecords name allowed others = .error message) ∨
          ∃ records records', nvsRecords name allowed pages = .ok records ∧
            nvsRecords name allowed others = .ok records' ∧
            ∀ key, records.lookup key = records'.lookup key) ∧
      ∀ key, ∀ index ∈ groupOf (writtenItems pages) key, index.type = "blob_index" →
        (∀ records, nvsRecords name allowed pages = .ok records →
          ∃ ordered value, Assembled (groupOf (writtenItems pages) key) index ordered value ∧
            records.lookup key = some ("blob", value)) ∧
        (MissingChunk (groupOf (writtenItems pages) key) index ∨
            DuplicatedChunk (groupOf (writtenItems pages) key) ∨
            ForeignChunk (groupOf (writtenItems pages) key) index →
          ∃ message, nvsRecords name allowed pages = .error message) := by
  constructor
  · intro others valid' spare perm
    cases first : nvsRecords name allowed pages with
    | ok records =>
      obtain ⟨records', accepted, same⟩ := nvsRecords_perm name allowed pages others records valid' spare perm first
      exact .inr ⟨records, records', rfl, accepted, fun key => (same key).symm⟩
    | error message =>
      cases second : nvsRecords name allowed others with
      | error message' => exact .inl ⟨⟨message, rfl⟩, message', rfl⟩
      | ok records =>
        obtain ⟨_, accepted, _⟩ :=
          nvsRecords_perm name allowed others pages records valid spare.symm perm.symm second
        rw [first] at accepted
        cases accepted
  · intro key index member indexed
    have blob (records : List (NvsKey × NvsRecord)) (accepted : nvsRecords name allowed pages = .ok records) :=
      nvsRecords_blob name allowed pages records accepted key index member indexed
    refine ⟨blob, fun wrong => ?_⟩
    cases result : nvsRecords name allowed pages with
    | error message => exact ⟨message, rfl⟩
    | ok records =>
      obtain ⟨ordered, value, assembled, _⟩ := blob records result
      rcases wrong with missing | duplicated | foreign
      · exact absurd missing (assembled_whole _ ordered index value assembled)
      · exact absurd duplicated (assembled_distinct _ ordered index value assembled)
      · exact absurd foreign (assembled_own _ ordered index value assembled)

def emptyEntry (index : Nat) : NvsEntry :=
  { index, state := "Empty", isEmpty := true, raw := [], namespaceId := 0, type := "", span := 0, chunkIndex := 0
    crc := ⟨0, 0, 0, 0⟩, key := "", data := {}, children := [] }

-- The items one after the other, then empty entries to the end of the page.
def placedEntries : Nat → List NvsItem → List NvsEntry
  | next, [] => (List.range' next (126 - next)).map emptyEntry
  | next, item :: rest =>
    { index := next, state := "Written", isEmpty := false, namespaceId := item.namespaceId, type := item.type
      raw := List.replicate 8 0 ++ bytesOf item.key ++ List.replicate (24 - item.key.length) 0
      span := item.span, chunkIndex := item.chunkIndex, crc := ⟨0, 0, 0, 0⟩, key := item.key, data := item.data
      children := item.children.zipIdx.map (fun child => ⟨next + 1 + child.2, "Written", child.1⟩) } ::
      placedEntries (next + item.span) rest

def samplePage (items : List NvsItem) : NvsPage :=
  { status := "Active", version := 2, crcOriginal := 0, crcComputed := 0, rawHeader := [], rawEntryStateBitmap := []
    entries := placedEntries 0 items }

def sparePage : NvsPage :=
  { status := "Empty", version := 0, crcOriginal := 0, crcComputed := 0, rawHeader := List.replicate 32 0xff
    rawEntryStateBitmap := List.replicate 32 0xff, entries := (List.range 126).map emptyEntry }

def sampleDeclaration : NvsItem := ⟨0, "uint8_t", 1, 255, "frp", { value := some 1 }, []⟩

def sampleChunk (index : Nat) (bytes : List UInt8) : NvsItem :=
  ⟨1, "blob_data", 2, index, "cfg", { size := some bytes.length }, [bytes ++ List.replicate (32 - bytes.length) 0xff]⟩

def sampleIndex : NvsItem :=
  ⟨1, "blob_index", 1, 255, "cfg", { size := some 5, chunkCount := some 2, chunkStart := some 128 }, []⟩

def samplePages : List NvsPage :=
  [sparePage, samplePage [sampleDeclaration, sampleChunk 128 [1, 2, 3], sampleChunk 129 [4, 5], sampleIndex]]

def sampleOthers : List NvsPage :=
  [samplePage [sampleChunk 129 [4, 5], sampleIndex], samplePage [sampleChunk 128 [1, 2, 3], sampleDeclaration], sparePage]

theorem samplePage_valid (name : String) (page : NvsPage) (status : page.status = "Active")
    (version : page.version = 2) (crc : page.crcOriginal = page.crcComputed)
    (entries : ∀ entry ∈ page.entries, validateEntry name entry = .ok ())
    (covered : coveredIndices page = List.range 126) : validatePage name page = .ok () := by
  have sorted : (List.range 126).mergeSort = List.range 126 := by
    apply List.mergeSort_of_pairwise
    exact List.pairwise_lt_range.imp (fun less => decide_eq_true (Nat.le_of_lt less))
  simp [validatePage, status, version, crc, covered, sorted, require, bind, Except.bind, (forM_accepts _ _ ()).mpr entries]

theorem samplePages_valid : ∀ page ∈ samplePages ++ sampleOthers, validatePage "nvs" page = .ok () := by
  have spare : validatePage "nvs" sparePage = .ok () := by decide +kernel
  have filled (items : List NvsItem)
      (entries : ∀ entry ∈ (samplePage items).entries, validateEntry "nvs" entry = .ok ())
      (covered : coveredIndices (samplePage items) = List.range 126) :
      validatePage "nvs" (samplePage items) = .ok () := samplePage_valid "nvs" _ rfl rfl rfl entries covered
  simp only [samplePages, sampleOthers, List.cons_append, List.nil_append, List.forall_mem_cons, spare, true_and]
  refine ⟨filled _ ?_ ?_, filled _ ?_ ?_, filled _ ?_ ?_, by simp⟩ <;> decide +kernel

theorem samplePages_records :
    nvsRecords "nvs" [("frp", "cfg")] samplePages = .ok [(("frp", "cfg"), ("blob", [1, 2, 3, 4, 5]))] := by
  have assembled : Assembled [sampleChunk 128 [1, 2, 3], sampleChunk 129 [4, 5], sampleIndex] sampleIndex
      [sampleChunk 128 [1, 2, 3], sampleChunk 129 [4, 5]] [1, 2, 3, 4, 5] := by
    constructor
    case joined => exact ⟨[[1, 2, 3], [4, 5]], by decide, by decide⟩
    case numbered => exact ⟨by decide, 128, rfl, by decide⟩
    all_goals decide
  rw [nvsRecords_ok]
  refine ⟨by decide +kernel, fun page member => samplePages_valid page (List.mem_append_left _ member), ?_⟩
  rw [itemRecords_iff]
  have groups : grouped (nvsKey ((writtenItems samplePages).filterMap declared)) (writtenItems samplePages) [] =
      [(("frp", "cfg"), [sampleChunk 128 [1, 2, 3], sampleChunk 129 [4, 5], sampleIndex])] := by
    decide +kernel
  have declarations : (writtenItems samplePages).filterMap declared = [(1, "frp")] := by decide +kernel
  have known : ∀ item ∈ writtenItems samplePages, item.namespaceId ≠ 0 →
      nvsKey ((writtenItems samplePages).filterMap declared) item ≠ none := by
    decide +kernel
  have declares : ∀ item ∈ writtenItems samplePages, item.namespaceId = 0 → item = sampleDeclaration := by
    decide +kernel
  refine ⟨fun item member zero => ?_, by simp [declarations, keys], by simp [declarations], known, ?_, ?_, ?_, ?_⟩
  · rw [declares item member zero]
    exact ⟨rfl, rfl, 1, rfl, by decide, by decide⟩
  · simp [groups, keys]
  · have made : groupRecord "nvs" [sampleChunk 128 [1, 2, 3], sampleChunk 129 [4, 5], sampleIndex] =
        .ok ("blob", [1, 2, 3, 4, 5]) := by
      rw [groupRecord_chunked _ _ sampleIndex (by simp) rfl, chunkedRecord_ok]
      exact ⟨rfl, _, _, assembled⟩
    rw [groups]
    exact .cons ⟨rfl, made⟩ .nil
  · simp [declarations, keys]
  · simp [declarations, keys]

theorem records_by_content_sample :
    ∃ records, nvsRecords "nvs" [("frp", "cfg")] sampleOthers = .ok records ∧
      records.lookup ("frp", "cfg") = some ("blob", [1, 2, 3, 4, 5]) := by
  have valid := samplePages_valid
  rw [List.forall_mem_append] at valid
  have same := (records_by_content "nvs" [("frp", "cfg")] samplePages valid.1).1 sampleOthers valid.2
    (by decide +kernel) (by decide +kernel)
  rw [samplePages_records] at same
  rcases same with ⟨⟨_, rejected⟩, _⟩ | ⟨_, records, accepted, others, equal⟩
  · cases rejected
  · cases accepted
    exact ⟨records, others, (equal _).symm⟩

end EspBase

import Mathlib.Data.List.Perm.Basic
import Mathlib.Data.List.Dedup

set_option autoImplicit false

/-!
# Dictionaries in insertion order

A dictionary is a list of pairs; no key occurs twice in it.
-/

namespace Dict

variable {κ α β : Type}

def keys (entries : List (κ × β)) : List κ := entries.map Prod.fst

theorem keys_cons (entry : κ × β) (rest : List (κ × β)) : keys (entry :: rest) = entry.1 :: keys rest := rfl

theorem keys_append (first second : List (κ × β)) : keys (first ++ second) = keys first ++ keys second :=
  List.map_append

variable [DecidableEq κ] [BEq κ] [LawfulBEq κ]

theorem lookup_pair (head k : κ) (held : β) (rest : List (κ × β)) :
    ((head, held) :: rest).lookup k = if k = head then some held else rest.lookup k := by
  rw [List.lookup_cons]
  by_cases same : k = head
  · simp [same]
  · have differ : (k == head) = false := beq_false_of_ne same
    simp [same, differ]

theorem lookup_eq_some_iff (entries : List (κ × β)) (distinct : (keys entries).Nodup) (k : κ) (value : β) :
    entries.lookup k = some value ↔ (k, value) ∈ entries := by
  induction entries with
  | nil => simp
  | cons entry rest ih =>
    obtain ⟨head, held⟩ := entry
    rw [keys_cons, List.nodup_cons] at distinct
    rw [lookup_pair, List.mem_cons]
    split
    next same =>
      subst same
      have absent : (k, value) ∉ rest := fun member => distinct.1 (List.mem_map.mpr ⟨_, member, rfl⟩)
      simp [absent, eq_comm]
    next differ => simp [differ, ih distinct.2]

theorem lookup_ne_none_iff (entries : List (κ × β)) (k : κ) : entries.lookup k ≠ none ↔ k ∈ keys entries := by
  induction entries with
  | nil => simp [keys]
  | cons entry rest ih =>
    obtain ⟨head, held⟩ := entry
    rw [lookup_pair, keys_cons, List.mem_cons]
    split
    next same => simp [same]
    next differ => simp [differ, ih]

theorem lookup_perm (entries others : List (κ × β)) (perm : entries.Perm others)
    (distinct : (keys entries).Nodup) (k : κ) : entries.lookup k = others.lookup k := by
  have also : (keys others).Nodup := ((perm.map Prod.fst).nodup_iff).mp distinct
  apply Option.ext
  intro value
  rw [lookup_eq_some_iff entries distinct, lookup_eq_some_iff others also, perm.mem_iff]

-- The item is appended to the list of its key, which is started where it is missing.
def addTo (k : κ) (item : α) : List (κ × List α) → List (κ × List α)
  | [] => [(k, [item])]
  | (head, members) :: rest =>
    if head = k then (head, members ++ [item]) :: rest else (head, members) :: addTo k item rest

def grouped (key : α → Option κ) : List α → List (κ × List α) → List (κ × List α)
  | [], groups => groups
  | item :: rest, groups =>
    match key item with
    | none => grouped key rest groups
    | some k => grouped key rest (addTo k item groups)

def members (key : α → Option κ) (items : List α) (k : κ) : List α := items.filter (fun item => key item = some k)

theorem addTo_keys (k : κ) (item : α) (groups : List (κ × List α)) :
    keys (addTo k item groups) = if k ∈ keys groups then keys groups else keys groups ++ [k] := by
  induction groups with
  | nil => simp [addTo, keys]
  | cons group rest ih =>
    obtain ⟨head, held⟩ := group
    rw [addTo]
    by_cases same : head = k
    · simp [same, keys]
    · have other : ¬k = head := fun equal => same equal.symm
      rw [if_neg same, keys_cons, keys_cons, ih]
      simp only [List.mem_cons, other, false_or]
      split <;> rfl

theorem addTo_distinct (k : κ) (item : α) (groups : List (κ × List α)) (distinct : (keys groups).Nodup) :
    (keys (addTo k item groups)).Nodup := by
  rw [addTo_keys]
  split
  · exact distinct
  next absent =>
    rw [List.nodup_append]
    refine ⟨distinct, by simp, fun other member last => ?_⟩
    rw [List.mem_singleton]
    rintro rfl rfl
    exact absent member

theorem addTo_lookup (k : κ) (item : α) (groups : List (κ × List α)) (other : κ) :
    (addTo k item groups).lookup other =
      if other = k then some ((groups.lookup k).getD [] ++ [item]) else groups.lookup other := by
  induction groups with
  | nil => rw [addTo, lookup_pair, List.lookup_nil, List.lookup_nil, Option.getD_none, List.nil_append]
  | cons group rest ih =>
    obtain ⟨head, held⟩ := group
    rw [addTo, lookup_pair, lookup_pair]
    by_cases here : head = k
    · subst here
      rw [if_pos rfl, lookup_pair, if_pos rfl]
      by_cases same : other = head <;> simp [same]
    · have apart : ¬k = head := fun equal => here equal.symm
      rw [if_neg here, lookup_pair, ih, if_neg apart]
      by_cases first : other = head
      · subst first
        simp [here]
      · simp [first]

theorem grouped_distinct (key : α → Option κ) (items : List α) (groups : List (κ × List α))
    (distinct : (keys groups).Nodup) : (keys (grouped key items groups)).Nodup := by
  induction items generalizing groups with
  | nil => exact distinct
  | cons item rest ih =>
    rw [grouped]
    split
    · exact ih groups distinct
    next k found => exact ih _ (addTo_distinct k item groups distinct)

theorem grouped_lookup_getD (key : α → Option κ) (items : List α) (groups : List (κ × List α)) (k : κ) :
    ((grouped key items groups).lookup k).getD [] = (groups.lookup k).getD [] ++ members key items k := by
  induction items generalizing groups with
  | nil => simp [grouped, members]
  | cons item rest ih =>
    rw [grouped, members, List.filter_cons]
    split
    next skipped => simp [ih groups, skipped, members]
    next other found =>
      rw [ih, addTo_lookup, found]
      by_cases same : k = other
      · subst same
        simp [members]
      · have differ : ¬other = k := fun equal => same equal.symm
        simp [same, differ, members]

omit [BEq κ] [LawfulBEq κ] in
theorem addTo_filled (k : κ) (item : α) (groups : List (κ × List α))
    (filled : ∀ group ∈ groups, group.2 ≠ []) : ∀ group ∈ addTo k item groups, group.2 ≠ [] := by
  induction groups with
  | nil => simp [addTo]
  | cons first rest ih =>
    rw [List.forall_mem_cons] at filled
    rw [addTo]
    split
    · rw [List.forall_mem_cons]
      exact ⟨by simp, filled.2⟩
    · rw [List.forall_mem_cons]
      exact ⟨filled.1, ih filled.2⟩

omit [BEq κ] [LawfulBEq κ] in
theorem grouped_filled (key : α → Option κ) (items : List α) (groups : List (κ × List α))
    (filled : ∀ group ∈ groups, group.2 ≠ []) : ∀ group ∈ grouped key items groups, group.2 ≠ [] := by
  induction items generalizing groups with
  | nil => exact filled
  | cons item rest ih =>
    rw [grouped]
    split
    · exact ih groups filled
    next k found => exact ih _ (addTo_filled k item groups filled)

theorem mem_grouped (key : α → Option κ) (items : List α) (k : κ) (group : List α) :
    (k, group) ∈ grouped key items [] ↔ group = members key items k ∧ group ≠ [] := by
  have distinct := grouped_distinct key items [] (by simp [keys])
  have all := grouped_lookup_getD key items [] k
  rw [List.lookup_nil, Option.getD_none, List.nil_append] at all
  rw [← lookup_eq_some_iff _ distinct]
  constructor
  · intro found
    rw [found, Option.getD_some] at all
    have filled := grouped_filled key items [] (by simp) _ ((lookup_eq_some_iff _ distinct k group).mp found)
    exact ⟨all, filled⟩
  · rintro ⟨rfl, filled⟩
    cases found : (grouped key items []).lookup k with
    | none =>
      rw [found] at all
      exact absurd all.symm filled
    | some group =>
      rw [found, Option.getD_some] at all
      rw [all]

omit [BEq κ] [LawfulBEq κ] in
theorem members_perm (key : α → Option κ) (items others : List α) (perm : items.Perm others) (k : κ) :
    (members key items k).Perm (members key others k) := perm.filter _

end Dict

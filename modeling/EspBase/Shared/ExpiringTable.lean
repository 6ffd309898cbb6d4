import Mathlib.Data.List.Basic

set_option autoImplicit false

/-!
# Tables of keyed entries that lapse at a deadline

Time only grows. A slot is reused once its entry has lapsed.
-/

namespace ExpiringTable

variable {α κ : Type} (key : α → κ) (deadline : α → Nat)

def live (now : Nat) (table : List α) : List α := table.filter (now < deadline ·)

def Distinct (now : Nat) (table : List α) : Prop :=
  ∀ i j : Nat, ∀ first ∈ table[i]?, ∀ second ∈ table[j]?, now < deadline first → now < deadline second →
    key first = key second → i = j

variable {key deadline} {now : Nat} {table : List α}

theorem mem_live {entry : α} : entry ∈ live deadline now table ↔ entry ∈ table ∧ now < deadline entry := by
  simp [live]

theorem live_length_le : (live deadline now table).length ≤ table.length :=
  List.length_filter_le _ _

theorem distinct_lapsed (lapsed : ∀ entry ∈ table, deadline entry ≤ now) :
    Distinct key deadline now table := by
  intro i j first here second there unexpired
  have late := lapsed first (List.mem_of_getElem? here)
  omega

theorem Distinct.later (distinct : Distinct key deadline now table) {later : Nat}
    (grown : now ≤ later) : Distinct key deadline later table := by
  intro i j first here second there early late
  exact distinct i j first here second there (by omega) (by omega)

theorem Distinct.same (distinct : Distinct key deadline now table) {first second : α}
    (here : first ∈ live deadline now table) (there : second ∈ live deadline now table)
    (same : key first = key second) : first = second := by
  obtain ⟨member, early⟩ := mem_live.mp here
  obtain ⟨other, late⟩ := mem_live.mp there
  obtain ⟨i, first_at⟩ := List.mem_iff_getElem?.mp member
  obtain ⟨j, second_at⟩ := List.mem_iff_getElem?.mp other
  obtain rfl := distinct i j first first_at second second_at early late same
  exact Option.some.inj (first_at.symm.trans second_at)

theorem Distinct.stored (distinct : Distinct key deadline now table) (slot : Nat) (new : α)
    (fresh : ∀ entry ∈ live deadline now table, key entry ≠ key new) :
    Distinct key deadline now (table.set slot new) := by
  have other (i : Nat) (entry : α) (here : (table.set slot new)[i]? = some entry) :
      (i = slot ∧ entry = new) ∨ table[i]? = some entry := by
    rw [List.getElem?_set] at here
    split at here
    next same =>
      split at here
      · exact .inl ⟨same.symm, (Option.some.inj here).symm⟩
      · cases here
    · exact .inr here
  intro i j first here second there early late same
  rcases other i first here with ⟨rfl, rfl⟩ | first_at <;>
    rcases other j second there with ⟨rfl, rfl⟩ | second_at
  · rfl
  · exact absurd same.symm (fresh second (mem_live.mpr ⟨List.mem_of_getElem? second_at, late⟩))
  · exact absurd same (fresh first (mem_live.mpr ⟨List.mem_of_getElem? first_at, early⟩))
  · exact distinct i j first first_at second second_at early late same

-- A lapsed entry is the only one that a store replaces.
theorem stored_kept {slot : Nat} {old : α} (new : α) (here : table[slot]? = some old)
    (lapsed : deadline old ≤ now) {i : Nat} {entry : α} (there : table[i]? = some entry)
    (unexpired : now < deadline entry) : (table.set slot new)[i]? = some entry := by
  rw [List.getElem?_set_ne, there]
  rintro rfl
  obtain rfl := Option.some.inj (here.symm.trans there)
  omega

end ExpiringTable

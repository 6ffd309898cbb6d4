import Mathlib.Data.List.Basic

set_option autoImplicit false

namespace Trace

variable {α : Type} {good other reset : α → Prop} {trace : List α}

/-- A good event has happened, and no resetting one after it. -/
def Since (good reset : α → Prop) (trace : List α) : Prop :=
  ∃ before event after, trace = before ++ event :: after ∧ good event ∧ ∀ later ∈ after, ¬reset later

theorem Since.happened {event : α} (now : good event) : Since good reset (trace ++ [event]) :=
  ⟨trace, event, [], rfl, now, nofun⟩

theorem Since.kept (since : Since good reset trace) {new : List α}
    (quiet : ∀ event ∈ new, ¬reset event) : Since good reset (trace ++ new) := by
  obtain ⟨before, event, after, split, now, still⟩ := since
  refine ⟨before, event, after ++ new, by simp [split], now, fun later member => ?_⟩
  rcases List.mem_append.mp member with early | late
  · exact still later early
  · exact quiet later late

theorem since_concat (event : α) :
    Since good reset (trace ++ [event]) ↔ good event ∨ (Since good reset trace ∧ ¬reset event) := by
  constructor
  · rintro ⟨before, mark, after, split, now, still⟩
    rcases List.eq_nil_or_concat after with rfl | ⟨earlier, last, rfl⟩
    · obtain ⟨-, rfl⟩ := List.append_singleton_inj.mp split
      exact .inl now
    · rw [List.concat_eq_append, ← List.cons_append, ← List.append_assoc] at split
      obtain ⟨same, rfl⟩ := List.append_singleton_inj.mp split
      refine .inr ⟨⟨before, mark, earlier, same, now, fun later member => ?_⟩, still event (by simp)⟩
      exact still later (by simp [member])
  · rintro (now | ⟨since, quiet⟩)
    · exact .happened now
    · exact since.kept (by simpa using quiet)

theorem Since.imp (since : Since good reset trace) (weaker : ∀ event, good event → other event) :
    Since other reset trace := by
  obtain ⟨before, event, after, split, now, still⟩ := since
  exact ⟨before, event, after, split, weaker event now, still⟩

end Trace

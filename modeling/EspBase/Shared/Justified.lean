import Mathlib.Data.List.Basic

set_option autoImplicit false

namespace Trace

variable {α : Type} {allowed : List α → α → Prop} {trace : List α}

def Justified (allowed : List α → α → Prop) (trace : List α) : Prop :=
  ∀ before event after, trace = before ++ event :: after → allowed before event

theorem justified_nil : Justified allowed [] := by
  intro before event after split
  simp at split

theorem justified_concat (event : α) :
    Justified allowed (trace ++ [event]) ↔ Justified allowed trace ∧ allowed trace event := by
  constructor
  · intro each
    refine ⟨?_, each trace event [] rfl⟩
    intro before earlier after split
    exact each before earlier (after ++ [event]) (by simp [split])
  · rintro ⟨earlier, now⟩ before last after split
    rcases List.eq_nil_or_concat after with rfl | ⟨between, final, rfl⟩
    · obtain ⟨rfl, same⟩ := List.append_singleton_inj.mp split
      exact same ▸ now
    · rw [List.concat_eq_append, ← List.cons_append, ← List.append_assoc] at split
      exact earlier before last between (List.append_singleton_inj.mp split).1

theorem Justified.append (justified : Justified allowed trace) (new : List α)
    (free : ∀ event ∈ new, ∀ before, allowed before event) : Justified allowed (trace ++ new) := by
  induction new generalizing trace with
  | nil => simpa using justified
  | cons event new ih =>
    rw [← List.singleton_append, ← List.append_assoc]
    refine ih ?_ (fun later member => free later (List.mem_cons_of_mem event member))
    exact (justified_concat event).mpr ⟨justified, free event List.mem_cons_self trace⟩

end Trace

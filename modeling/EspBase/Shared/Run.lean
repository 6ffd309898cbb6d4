import Mathlib.Data.List.Induction

set_option autoImplicit false

/-!
# Runs of labelled transition systems

A system is a total `step`; a label carries whatever the environment answers
in that step.
-/

namespace Transition

variable {σ ℓ : Type} (step : ℓ → σ → σ)

def run : List ℓ → σ → σ
  | [], s => s
  | label :: rest, s => run rest (step label s)

@[simp] theorem run_nil (s : σ) : run step [] s = s := rfl

@[simp] theorem run_cons (label : ℓ) (rest : List ℓ) (s : σ) :
    run step (label :: rest) s = run step rest (step label s) := rfl

theorem run_append (earlier later : List ℓ) (s : σ) :
    run step (earlier ++ later) s = run step later (run step earlier s) := by
  induction earlier generalizing s with
  | nil => rfl
  | cons label rest ih => exact ih (step label s)

theorem run_concat (labels : List ℓ) (label : ℓ) (s : σ) :
    run step (labels ++ [label]) s = step label (run step labels s) := by
  rw [run_append]
  rfl

variable {step}

theorem run_invariant_of {Inv : σ → Prop} {Allowed : ℓ → Prop}
    (kept : ∀ label s, Allowed label → Inv s → Inv (step label s))
    (labels : List ℓ) (allowed : ∀ label ∈ labels, Allowed label) (s : σ) (initial : Inv s) :
    Inv (run step labels s) := by
  induction labels generalizing s with
  | nil => exact initial
  | cons label rest ih =>
    refine ih (fun later member => allowed later (List.mem_cons_of_mem _ member)) _ ?_
    exact kept label s (allowed label List.mem_cons_self) initial

theorem run_invariant {Inv : σ → Prop} (kept : ∀ label s, Inv s → Inv (step label s))
    (labels : List ℓ) (s : σ) (initial : Inv s) : Inv (run step labels s) :=
  @run_invariant_of _ _ _ Inv (fun _ => True) (fun label s _ => kept label s) labels
    (fun _ _ => trivial) s initial

theorem run_relates {Inv : σ → Prop} {R : σ → σ → Prop}
    (kept : ∀ label s, Inv s → Inv (step label s))
    (refl : ∀ s, R s s) (trans : ∀ s t u, R s t → R t u → R s u)
    (each : ∀ label s, Inv s → R s (step label s))
    (labels : List ℓ) (s : σ) (initial : Inv s) : R s (run step labels s) := by
  induction labels generalizing s with
  | nil => exact refl s
  | cons label rest ih =>
    exact trans _ _ _ (each label s initial) (ih _ (kept label s initial))

theorem run_invariant_at {Inv : σ → Prop} (labels : List ℓ) (s : σ)
    (kept : ∀ earlier label later, labels = earlier ++ label :: later →
      Inv (run step earlier s) → Inv (step label (run step earlier s)))
    (initial : Inv s) : Inv (run step labels s) := by
  induction labels using List.reverseRecOn with
  | nil => exact initial
  | append_singleton earlier label ih =>
    rw [run_concat]
    refine kept earlier label [] rfl (ih ?_)
    intro first middle rest split
    exact kept first middle (rest ++ [label]) (by rw [split, List.append_assoc, List.cons_append])

variable (step)

/-- Every step of a run meets a condition on its label and the state before it. -/
def Along (Meets : ℓ → σ → Prop) : List ℓ → σ → Prop
  | [], _ => True
  | label :: rest, s => Meets label s ∧ Along Meets rest (step label s)

instance decidableAlong {Meets : ℓ → σ → Prop} [∀ label s, Decidable (Meets label s)] :
    ∀ labels s, Decidable (Along step Meets labels s)
  | [], _ => .isTrue trivial
  | label :: rest, s =>
    have := @decidableAlong Meets _ rest (step label s)
    inferInstanceAs (Decidable (Meets label s ∧ Along step Meets rest (step label s)))

theorem along_append {Meets : ℓ → σ → Prop} (earlier later : List ℓ) (s : σ) :
    Along step Meets (earlier ++ later) s ↔
      Along step Meets earlier s ∧ Along step Meets later (run step earlier s) := by
  induction earlier generalizing s with
  | nil => simp [Along]
  | cons label rest ih => simp [Along, ih, and_assoc]

variable {step}

theorem run_invariant_along {Inv : σ → Prop} {Meets : ℓ → σ → Prop}
    (kept : ∀ label s, Meets label s → Inv s → Inv (step label s)) (labels : List ℓ) (s : σ)
    (along : Along step Meets labels s) (initial : Inv s) : Inv (run step labels s) := by
  induction labels generalizing s with
  | nil => exact initial
  | cons label rest ih => exact ih _ along.2 (kept label s along.1 initial)

variable (step)

def occurrences (Happens : ℓ → σ → Bool) : List ℓ → σ → Nat
  | [], _ => 0
  | label :: rest, s => (Happens label s).toNat + occurrences Happens rest (step label s)

theorem occurrences_append (Happens : ℓ → σ → Bool) (earlier later : List ℓ) (s : σ) :
    occurrences step Happens (earlier ++ later) s =
      occurrences step Happens earlier s + occurrences step Happens later (run step earlier s) := by
  induction earlier generalizing s with
  | nil => simp [occurrences]
  | cons label rest ih => simp [occurrences, ih, Nat.add_assoc]

variable {step}

/-- What leaves a `mark` when it happens, and never happens once marked, happens at most once. -/
theorem occurrences_le_one {Happens : ℓ → σ → Bool} (Mark : List ℓ → Prop) (labels : List ℓ) (s : σ)
    (marks : ∀ earlier label later, labels = earlier ++ label :: later →
      Happens label (run step earlier s) → Mark (earlier ++ [label]))
    (lasts : ∀ earlier label later, labels = earlier ++ label :: later →
      Mark earlier → Mark (earlier ++ [label]))
    (once : ∀ earlier label later, labels = earlier ++ label :: later →
      Mark earlier → ¬ Happens label (run step earlier s)) :
    occurrences step Happens labels s ≤ 1 := by
  have counted : occurrences step Happens labels s = 0 ∨
      (occurrences step Happens labels s = 1 ∧ Mark labels) := by
    induction labels using List.reverseRecOn with
    | nil => exact .inl rfl
    | append_singleton earlier label ih =>
      have shorter {first middle rest} (split : earlier = first ++ middle :: rest) :
          earlier ++ [label] = first ++ middle :: (rest ++ [label]) := by
        rw [split, List.append_assoc, List.cons_append]
      have before := ih (fun _ _ _ split => marks _ _ _ (shorter split))
        (fun _ _ _ split => lasts _ _ _ (shorter split))
        (fun _ _ _ split => once _ _ _ (shorter split))
      rw [occurrences_append]
      by_cases happens : Happens label (run step earlier s) = true
      · rcases before with none | ⟨-, marked⟩
        · exact .inr ⟨by simp [occurrences, none, happens], marks earlier label [] rfl happens⟩
        · exact absurd happens (once earlier label [] rfl marked)
      · rcases before with none | ⟨one, marked⟩
        · exact .inl (by simp [occurrences, none, happens])
        · exact .inr ⟨by simp [occurrences, one, happens], lasts earlier label [] rfl marked⟩
  omega

end Transition

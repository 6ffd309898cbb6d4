import Mathlib.Order.Basic

set_option autoImplicit false

/-!
# Copies of a value that is replaced under growing versions

A holder keeps a copy together with the version at which it was taken, and
compares versions to learn whether the copy is still the value.
-/

namespace VersionedCache

variable {σ α ν : Type} [Preorder ν]

def Advances (read : σ → α) (version : σ → ν) (source later : σ) : Prop :=
  (read later = read source ∧ version later = version source) ∨ version source < version later

/-- A usable copy was taken at some version, and is the value for as long as that version lasts. -/
structure Trusted (read : σ → α) (version : σ → ν) (source : σ) (usable : Prop) (taken : Option ν)
    (copy : α) : Prop where
  dated : usable → taken.isSome
  past : ∀ moment ∈ taken, moment ≤ version source
  current : usable → taken = some (version source) → copy = read source

variable {read : σ → α} {version : σ → ν} {source later : σ} {usable : Prop} {taken : Option ν}
  {copy : α}

theorem Trusted.kept (trusted : Trusted read version source usable taken copy)
    (advances : Advances read version source later) :
    Trusted read version later usable taken copy := by
  rcases advances with ⟨same, lasting⟩ | grown
  · constructor
    · exact trusted.dated
    · simpa only [lasting] using trusted.past
    · simpa only [same, lasting] using trusted.current
  · have earlier : ∀ moment ∈ taken, moment < version later :=
      fun moment member => (trusted.past moment member).trans_lt grown
    constructor
    · exact trusted.dated
    · exact fun moment member => (earlier moment member).le
    · intro _ now
      exact absurd (earlier (version later) now) (lt_irrefl _)

-- A holder that gives its copy up may keep or change anything else.
theorem Trusted.revoked (trusted : Trusted read version source usable taken copy) {rest : Prop}
    (other : α) (unusable : ¬rest) : Trusted read version source rest taken other :=
  ⟨fun use => absurd use unusable, trusted.past, fun use => absurd use unusable⟩

theorem Trusted.refreshed (same : usable → copy = read source) :
    Trusted read version source usable (some (version source)) copy := by
  constructor
  · exact fun _ => rfl
  · rintro moment ⟨⟩
    exact le_rfl
  · exact fun use _ => same use

theorem Trusted.untaken (unusable : ¬usable) : Trusted read version source usable none copy := by
  constructor
  · exact fun use => absurd use unusable
  · exact nofun
  · exact fun use => absurd use unusable

end VersionedCache

import Mathlib.Data.Nat.Log
import Mathlib.Data.Rat.Floor
import Mathlib.Tactic.Linarith
import Mathlib.Tactic.Positivity

set_option autoImplicit false

/-!
# Binary64 values of integers

An integer of more than 53 bits is rounded to the nearest multiple of its last
place, a tie to the even one.
-/

inductive Double where
  | finite (value : Rat)
  | infinite (negative : Bool)
  | nan
deriving DecidableEq

namespace Double

def isFinite : Double → Bool
  | .finite _ => true
  | _ => false

def less (d : Double) (bound : Rat) : Bool :=
  match d with
  | .finite value => value < bound
  | .infinite negative => negative
  | .nan => false

def exceeds (d : Double) (bound : Rat) : Bool :=
  match d with
  | .finite value => bound < value
  | .infinite negative => !negative
  | .nan => false

def equals (d : Double) (value : Rat) : Bool := d == .finite value

def isWhole : Double → Bool
  | .finite value => value.floor == value
  | .infinite _ => true
  | .nan => false

def toNat : Double → Nat
  | .finite value => value.floor.toNat
  | _ => 0

def roundNat (n : Nat) : Nat :=
  let place := 2 ^ (n.log2 - 52)
  let quotient := n / place
  let rest := n % place
  if place < 2 * rest ∨ (2 * rest = place ∧ quotient % 2 = 1) then (quotient + 1) * place
  else quotient * place

def ofInt (n : Int) : Double :=
  let magnitude := roundNat n.natAbs
  if 2 ^ 1024 ≤ magnitude then .infinite (n < 0)
  else .finite (if n < 0 then -magnitude else magnitude)

theorem roundNat_exact (n : Nat) (small : n ≤ 2 ^ 53) : roundNat n = n := by
  rcases Nat.lt_or_eq_of_le small with short | top
  · have none : n.log2 - 52 = 0 := by
      by_cases zero : n = 0
      · simp [zero]
      · have bits := (Nat.log2_lt zero).mpr short
        omega
    simp [roundNat, none, Nat.mod_one]
  · subst top
    decide +kernel

theorem roundNat_large (n : Nat) (large : 2 ^ 53 ≤ n) : 2 ^ 53 ≤ roundNat n := by
  have nonzero : n ≠ 0 := by
    intro zero
    subst zero
    norm_num at large
  have bits : 53 ≤ n.log2 := (Nat.le_log2 nonzero).mpr large
  have least : 2 ^ n.log2 ≤ n := (Nat.le_log2 nonzero).mp (Nat.le_refl _)
  have split : 2 ^ n.log2 = 2 ^ 52 * 2 ^ (n.log2 - 52) := by
    rw [← Nat.pow_add]
    congr 1
    omega
  have quotient : 2 ^ 52 ≤ n / 2 ^ (n.log2 - 52) := by
    rw [Nat.le_div_iff_mul_le (Nat.two_pow_pos _), ← split]
    exact least
  have place : 2 ≤ 2 ^ (n.log2 - 52) :=
    calc 2 = 2 ^ 1 := rfl
      _ ≤ 2 ^ (n.log2 - 52) := Nat.pow_le_pow_right (by decide) (by omega)
  have below : 2 ^ 53 ≤ n / 2 ^ (n.log2 - 52) * 2 ^ (n.log2 - 52) :=
    calc 2 ^ 53 = 2 ^ 52 * 2 := by norm_num
      _ ≤ n / 2 ^ (n.log2 - 52) * 2 ^ (n.log2 - 52) := Nat.mul_le_mul quotient place
  simp only [roundNat]
  split
  · exact below.trans (Nat.mul_le_mul_right _ (Nat.le_succ _))
  · exact below

theorem ofInt_cases (n : Int) :
    (n.natAbs ≤ 2 ^ 53 ∧ ofInt n = .finite n) ∨
      (2 ^ 53 < n.natAbs ∧ ∃ magnitude : Nat, 2 ^ 53 ≤ magnitude ∧
        ofInt n = if 2 ^ 1024 ≤ magnitude then .infinite (n < 0)
          else .finite (if n < 0 then -magnitude else magnitude)) := by
  by_cases small : n.natAbs ≤ 2 ^ 53
  · refine .inl ⟨small, ?_⟩
    have climb : 2 ^ 53 < 2 ^ 1024 := by
      apply Nat.pow_lt_pow_right <;> decide
    have fits : ¬2 ^ 1024 ≤ n.natAbs := Nat.not_le.mpr (small.trans_lt climb)
    simp only [ofInt, roundNat_exact _ small, if_neg fits]
    congr 1
    split
    next negative =>
      have same : n = -(n.natAbs : Int) := by omega
      conv_rhs => rw [same]
      simp
    next positive =>
      have same : n = (n.natAbs : Int) := by omega
      conv_rhs => rw [same]
      simp
  · exact .inr ⟨by omega, roundNat n.natAbs, roundNat_large _ (by omega), rfl⟩

theorem ofInt_exact (n : Int) (small : n.natAbs ≤ 2 ^ 53) : ofInt n = .finite n := by
  rcases ofInt_cases n with ⟨-, exact⟩ | ⟨large, -⟩
  · exact exact
  · omega

theorem ofInt_between (n : Int) (least most : Nat) (small : most < 2 ^ 53) :
    ((ofInt n).less least = false ∧ (ofInt n).exceeds most = false) ↔ (least ≤ n ∧ n ≤ most) := by
  rcases ofInt_cases n with ⟨-, exact⟩ | ⟨large, magnitude, kept, rounded⟩
  · simp only [exact, less, exceeds, decide_eq_false_iff_not, not_lt]
    exact_mod_cast Iff.rfl
  · have outside : ¬((least : Int) ≤ n ∧ n ≤ most) := by omega
    simp only [outside, iff_false]
    rw [rounded]
    split
    · by_cases negative : n < 0
      · simp [less, negative]
      · simp [exceeds, negative]
    · by_cases negative : n < 0
      · have below : -(magnitude : Rat) < least := by
          have positive : (0 : Rat) < magnitude := by
            exact_mod_cast (Nat.two_pow_pos 53).trans_le kept
          have natural : (0 : Rat) ≤ least := by positivity
          linarith
        simp [less, negative, below]
      · have above : (most : Rat) < magnitude := by exact_mod_cast small.trans_le kept
        simp [exceeds, negative, above]

theorem ofInt_equals (n : Int) (value : Nat) (small : value < 2 ^ 53) :
    (ofInt n).equals value = true ↔ n = value := by
  constructor
  · intro same
    have found : ofInt n = .finite value := by simpa [equals] using same
    have between := (ofInt_between n value value small).mp (by simp [found, less, exceeds])
    omega
  · intro same
    subst same
    rw [ofInt_exact _ (by simpa using small.le)]
    simp [equals]

end Double

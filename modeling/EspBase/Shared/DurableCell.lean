import Mathlib.Data.Option.Basic

set_option autoImplicit false

/-!
# One key of a durable store under faults

Every call takes the fault the device answers, or none. A write that was
attempted has taken effect or has not, whatever its calls reported.
-/

namespace DurableCell

variable {α ε : Type}

inductive Cell (α : Type) where
  | absent
  | vacant
  | holds (value : α)
deriving DecidableEq

def Cell.value : Cell α → Option α
  | .holds value => some value
  | _ => none

inductive Lookup (α ε : Type) where
  | found (value : α)
  | missing
  | failed (error : ε)
deriving DecidableEq

def Cell.openRead (cell : Cell α) : Option ε → Lookup Unit ε
  | some error => .failed error
  | none =>
    match cell with
    | .absent => .missing
    | _ => .found ()

def Cell.get (cell : Cell α) : Option ε → Lookup α ε
  | some error => .failed error
  | none =>
    match cell with
    | .holds value => .found value
    | _ => .missing

-- Opening for writing creates the namespace.
def Cell.created : Cell α → Cell α
  | .absent => .vacant
  | cell => cell

structure WriteFaults (ε : Type) where
  set : Option ε
  commit : Option ε
  effective : Bool
deriving DecidableEq

def Cell.write (cell : Cell α) (faults : WriteFaults ε) (value : α) : Option ε × Cell α :=
  (faults.set.or faults.commit, if faults.effective then .holds value else cell)

@[simp] theorem created_value (cell : Cell α) : cell.created.value = cell.value := by
  cases cell <;> rfl

theorem get_found (cell : Cell α) (fault : Option ε) (value : α)
    (found : cell.get fault = .found value) : cell.value = some value := by
  cases fault <;> cases cell <;> simp_all [Cell.get, Cell.value]

theorem get_missing (cell : Cell α) (fault : Option ε) (missing : cell.get fault = .missing) :
    cell.value = none := by
  cases fault <;> cases cell <;> simp_all [Cell.get, Cell.value]

theorem openRead_missing (cell : Cell α) (fault : Option ε)
    (missing : cell.openRead fault = .missing) : cell.value = none := by
  cases fault <;> cases cell <;> simp_all [Cell.openRead, Cell.value]

theorem write_value (cell : Cell α) (faults : WriteFaults ε) (value : α) :
    (cell.write faults value).2.value = some value ∨
      (cell.write faults value).2.value = cell.value := by
  unfold Cell.write
  cases faults.effective with
  | true => exact .inl rfl
  | false => exact .inr rfl

end DurableCell

import PodPlacement.Validation.Fault

/-!
# Checked values

The outcome of reading a document: a value, or all of its faults in order.  Parts are read
independently of one another, and the faults of the parts are collected.

    (valid f).apply (valid a) = valid (f a)                       (apply_valid)
    f.apply x = valid b ↔ ∃ g a, f = valid g ∧ x = valid a ∧ g a = b
                                                            (apply_eq_valid_iff)
-/

namespace PodPlacement

/-- A value, or the faults that keep it from being one. -/
inductive Checked (α : Type) where
  | valid (value : α)
  | faulty (faults : List Fault)

namespace Checked

variable {α β : Type}

def map (f : α → β) : Checked α → Checked β
  | valid a => valid (f a)
  | faulty faults => faulty faults

/-- A function that was read, at an argument that was read. -/
def apply : Checked (α → β) → Checked α → Checked β
  | valid f, valid a => valid (f a)
  | valid _, faulty faults => faulty faults
  | faulty faults, valid _ => faulty faults
  | faulty faults, faulty more => faulty (faults ++ more)

/-- The outcome seen from one step further out. -/
def within (step : PathStep) : Checked α → Checked α
  | valid a => valid a
  | faulty faults => faulty (faults.map (Fault.within step))

/-- The outcome of a value with one fault. -/
def fail (cause : Cause) (input : Json) : Checked α := faulty [⟨[], cause, input⟩]

@[simp] theorem map_valid (f : α → β) (a : α) : (valid a).map f = valid (f a) := rfl

@[simp] theorem apply_valid (f : α → β) (a : α) : (valid f).apply (valid a) = valid (f a) := rfl

@[simp] theorem within_valid (step : PathStep) (a : α) : (valid a).within step = valid a := rfl

theorem apply_eq_valid_iff {f : Checked (α → β)} {x : Checked α} {b : β} :
    f.apply x = valid b ↔ ∃ g a, f = valid g ∧ x = valid a ∧ g a = b := by
  cases f <;> cases x <;> simp [apply]

theorem within_eq_valid_iff {step : PathStep} {x : Checked α} {a : α} :
    x.within step = valid a ↔ x = valid a := by
  cases x <;> simp [within]

end Checked

end PodPlacement

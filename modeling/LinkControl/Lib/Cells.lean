import Mathlib.Logic.Function.Basic
import Mathlib.Logic.Function.Conjugate

/-!
# Cells

A family of cells, and changes of one cell at a time. Changes of different cells commute
(`modify_comm_of_ne`), and so do changes of the same cell that commute as functions
(`modify_comm_of_commute`).
-/

namespace Cells

variable {ι α : Type*} [DecidableEq ι] {i j : ι} {f g : α → α} {u v : ι → α}

/-- Change one cell. -/
def modify (i : ι) (f : α → α) (v : ι → α) : ι → α :=
  Function.update v i (f (v i))

@[simp] theorem modify_self : modify i f v i = f (v i) :=
  Function.update_self ..

/-- The other cells stay. -/
theorem modify_of_ne (h : j ≠ i) : modify i f v j = v j :=
  Function.update_of_ne h ..

/-- A change that leaves the cell as it is. -/
theorem modify_eq_self (h : f (v i) = v i) : modify i f v = v := by
  unfold modify
  rw [h, Function.update_eq_self]

/-- A family that differs in one cell. -/
theorem eq_modify (hSelf : u i = f (v i)) (hOther : ∀ j, j ≠ i → u j = v j) :
    u = modify i f v := by
  funext j
  rcases eq_or_ne j i with rfl | hNe
  · rw [hSelf, modify_self]
  · rw [hOther j hNe, modify_of_ne hNe]

/-- Changes of two cells commute, -/
theorem modify_comm_of_ne (h : i ≠ j) (f g : α → α) (v : ι → α) :
    modify i f (modify j g v) = modify j g (modify i f v) := by
  unfold modify
  rw [Function.update_of_ne h, Function.update_of_ne h.symm, Function.update_comm h]

/-- and so do changes of one cell that commute with each other. -/
theorem modify_comm_of_commute (h : Function.Commute f g) (i : ι) (v : ι → α) :
    modify i f (modify i g v) = modify i g (modify i f v) := by
  unfold modify
  rw [Function.update_self, Function.update_self, Function.update_idem, Function.update_idem,
    h.eq]

end Cells

import Mathlib.Data.Set.Insert

/-!
# Edits of a relation

A relation between `α` and `β` is given as the set of its pairs. An `Edit` is one
elementary change of it: a pair comes or goes, or all pairs of one element go. `edited`
makes a list of edits, in order.

The lemmas say when an edit changes nothing, and that going through all possible partners
of an element one by one comes to the same as dropping the element.
-/

namespace Edits

variable {α β : Type*}

/-- An elementary change of a relation. -/
inductive Edit (α β : Type*) where
  | add (a : α) (b : β)
  | erase (a : α) (b : β)
  | dropLeft (a : α)
  | dropRight (b : β)

/-- The relation after an edit. -/
def Edit.apply : Edit α β → Set (α × β) → Set (α × β)
  | .add a b, R => insert (a, b) R
  | .erase a b, R => {p ∈ R | p ≠ (a, b)}
  | .dropLeft a, R => {p ∈ R | p.1 ≠ a}
  | .dropRight b, R => {p ∈ R | p.2 ≠ b}

/-- The relation after a list of edits. -/
def edited (es : List (Edit α β)) (R : Set (α × β)) : Set (α × β) :=
  es.foldl (fun R e => e.apply R) R

variable {R : Set (α × β)} {a : α} {b : β}

@[simp] theorem edited_nil : edited [] R = R := rfl

@[simp] theorem edited_cons (e : Edit α β) (es : List (Edit α β)) :
    edited (e :: es) R = edited es (e.apply R) := rfl

/-- Erasing a pair that is not there changes nothing. -/
theorem apply_erase_of_not_mem (h : (a, b) ∉ R) : (Edit.erase a b).apply R = R := by
  refine Set.Subset.antisymm (fun p hp => hp.1) fun p hp => ⟨hp, ?_⟩
  intro hEq
  obtain rfl := hEq
  exact h hp

/-- Neither does dropping what nobody is related to. -/
theorem apply_dropRight_of_not_mem (h : ∀ a, (a, b) ∉ R) : (Edit.dropRight b).apply R = R := by
  refine Set.Subset.antisymm (fun p hp => hp.1) fun p hp => ⟨hp, ?_⟩
  intro hEq
  obtain rfl := hEq
  exact h p.1 hp

/-- Erasing several pairs of one left side. -/
theorem mem_edited_erase (bs : List β) (p : α × β) :
    p ∈ edited (bs.map (.erase a)) R ↔ p ∈ R ∧ (p.1 = a → p.2 ∉ bs) := by
  induction bs generalizing R with
  | nil => simp
  | cons b bs ih =>
    rw [List.map_cons, edited_cons, ih]
    constructor
    · intro h
      obtain ⟨⟨hp, hNe⟩, hRest⟩ := h
      refine ⟨hp, fun hLeft hMem => ?_⟩
      rcases List.mem_cons.mp hMem with hRight | hMem
      · exact hNe (Prod.ext hLeft hRight)
      · exact hRest hLeft hMem
    · intro h
      obtain ⟨hp, hNone⟩ := h
      refine ⟨⟨hp, ?_⟩, fun hLeft hMem => hNone hLeft (List.mem_cons_of_mem _ hMem)⟩
      intro hEq
      obtain rfl := hEq
      exact hNone rfl (List.mem_cons_self ..)

/-- Erasing an element's pairs one by one drops the element. -/
theorem edited_erase_all {bs : List β} (h : ∀ b, (a, b) ∈ R → b ∈ bs) :
    edited (bs.map (.erase a)) R = (Edit.dropLeft a).apply R := by
  ext p
  rw [mem_edited_erase]
  constructor
  · intro hMem
    obtain ⟨hp, hNone⟩ := hMem
    refine ⟨hp, fun hLeft => hNone hLeft (h p.2 ?_)⟩
    rwa [← hLeft]
  · intro hMem
    obtain ⟨hp, hNe⟩ := hMem
    exact ⟨hp, fun hLeft => absurd hLeft hNe⟩

end Edits

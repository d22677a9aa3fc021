import Mathlib.Data.List.Basic
import Mathlib.Data.List.Chain
import Mathlib.Data.List.Nodup

/-!
# Live enumerations

A loop over a list by index, the index going up by one each time, while the body of the loop
may take the element it is at out of the list. What comes behind a removed element moves to
the place of this element, and the loop never looks at it.

* `enumerate_eq_foldl` — the loop runs its body once for each element of `examined`, in order.
* `forall_mem_examined_iff` — when everything of interest is examined.
-/

namespace Enumeration

variable {α σ : Type*}

-- ---------------------------------------------------------------------------
-- The loop
-- ---------------------------------------------------------------------------

/-- `while (hasMoreElements ()) body (nextElement ())`, from index `count` on; `none` if it
takes more than `fuel` tests. -/
def enumerate (elements : σ → List α) (body : α → σ → σ) : Nat → Nat → σ → Option σ
  | 0, _, _ => none
  | fuel + 1, count, s =>
    match (elements s)[count]? with
    | none => some s
    | some x => enumerate elements body fuel (count + 1) (body x s)

/-- The elements that the loop looks at, if it takes out those that `removes` says. -/
def examined (removes : α → Bool) : List α → List α
  | [] => []
  | [x] => [x]
  | x :: next :: rest =>
    if removes x then x :: examined removes rest else x :: examined removes (next :: rest)

variable {elements : σ → List α} {body : α → σ → σ} {removes : α → Bool} {keep : α → α}

theorem enumerate_end {s : σ} {count : Nat} (h : (elements s).length ≤ count) (fuel : Nat) :
    enumerate elements body (fuel + 1) count s = some s := by
  rw [enumerate, List.getElem?_eq_none h]

theorem enumerate_step {s : σ} {done rest : List α} {x : α} (h : elements s = done ++ x :: rest)
    (fuel : Nat) : enumerate elements body (fuel + 1) done.length s =
      enumerate elements body fuel (done.length + 1) (body x s) := by
  rw [enumerate, h, List.getElem?_append_right (Nat.le_refl _), Nat.sub_self,
    List.getElem?_cons_zero]

/-- **The loop** runs its body for the examined elements. -/
theorem enumerate_eq_foldl
    (hBody : ∀ s done x rest, elements s = done ++ x :: rest →
      elements (body x s) = done ++ (if removes x then rest else keep x :: rest))
    {rest done : List α} {s : σ} (hElements : elements s = done ++ rest) {fuel : Nat}
    (hFuel : rest.length < fuel) :
    enumerate elements body fuel done.length s =
      some ((examined removes rest).foldl (fun s x => body x s) s) := by
  induction rest using examined.induct removes generalizing done s fuel with
  | case1 =>
    obtain ⟨fuel, rfl⟩ := Nat.exists_eq_add_one.mpr hFuel
    rw [enumerate_end (by simp [hElements])]
    rfl
  | case2 x =>
    obtain ⟨fuel, rfl⟩ := Nat.exists_eq_add_of_le' hFuel
    have hEnd : (elements (body x s)).length ≤ done.length + 1 := by
      rw [hBody s done x [] hElements]
      split <;> simp
    rw [List.length_singleton, enumerate_step hElements, enumerate_end hEnd]
    rfl
  | case3 x next rest hRemoves ih =>
    obtain ⟨fuel, rfl⟩ := Nat.exists_eq_add_one.mpr (Nat.zero_lt_of_lt hFuel)
    -- `next` is where `x` was
    have hNext : elements (body x s) = (done ++ [next]) ++ rest := by
      rw [hBody s done x _ hElements, if_pos hRemoves]
      simp
    rw [enumerate_step hElements, show done.length + 1 = (done ++ [next]).length by simp,
      ih hNext (by simp only [List.length_cons] at hFuel; omega), examined, if_pos hRemoves]
    rfl
  | case4 x next rest hKeeps ih =>
    obtain ⟨fuel, rfl⟩ := Nat.exists_eq_add_one.mpr (Nat.zero_lt_of_lt hFuel)
    have hNext : elements (body x s) = (done ++ [keep x]) ++ next :: rest := by
      rw [hBody s done x _ hElements, if_neg hKeeps]
      simp
    rw [enumerate_step hElements, show done.length + 1 = (done ++ [keep x]).length by simp,
      ih hNext (by simp only [List.length_cons] at hFuel ⊢; omega), examined, if_neg hKeeps]
    rfl

-- ---------------------------------------------------------------------------
-- What is examined
-- ---------------------------------------------------------------------------

theorem examined_sublist (removes : α → Bool) (l : List α) : (examined removes l).Sublist l := by
  induction l using examined.induct removes with
  | case1 => exact List.Sublist.refl _
  | case2 x => exact List.Sublist.refl _
  | case3 x next rest hRemoves ih =>
    rw [examined, if_pos hRemoves]
    exact (ih.cons next).cons_cons x
  | case4 x next rest hKeeps ih =>
    rw [examined, if_neg hKeeps]
    exact ih.cons_cons x

/-- Everything of interest is examined, what is removed being of interest, exactly if nothing
of interest stands directly behind an element that is to be removed. -/
theorem forall_mem_examined_iff {Q : α → Prop} (hRemoves : ∀ x, removes x → Q x) {l : List α}
    (hNodup : l.Nodup) :
    (∀ x ∈ l, Q x → x ∈ examined removes l) ↔ l.IsChain fun x next => removes x → ¬ Q next := by
  induction l using examined.induct removes with
  | case1 => simp [examined]
  | case2 x => simp [examined]
  | case3 x next rest hx ih =>
    obtain ⟨hNotX, hNotNext, hRest⟩ : x ∉ next :: rest ∧ next ∉ rest ∧ rest.Nodup := by
      simpa using hNodup
    have hSkipped : next ∉ x :: examined removes rest := by
      rw [List.mem_cons, not_or]
      exact ⟨fun hEq => hNotX (hEq ▸ List.mem_cons_self ..),
        fun hMem => hNotNext ((examined_sublist removes rest).subset hMem)⟩
    have hOthers : (∀ y ∈ rest, Q y → y ∈ x :: examined removes rest) ↔
        ∀ y ∈ rest, Q y → y ∈ examined removes rest := by
      refine forall₂_congr fun y hy => ?_
      have hNe : y ≠ x := fun hEq => hNotX (hEq ▸ List.mem_cons_of_mem _ hy)
      simp [hNe]
    rw [examined, if_pos hx, List.forall_mem_cons, List.forall_mem_cons, hOthers, ih hRest,
      List.isChain_cons_cons]
    have hChain : ¬ Q next → (rest.IsChain (fun x next => removes x → ¬ Q next) ↔
        (next :: rest).IsChain fun x next => removes x → ¬ Q next) := by
      intro hNot
      cases rest with
      | nil => simp
      | cons y rest =>
        rw [List.isChain_cons_cons]
        exact (and_iff_right fun hNext => absurd (hRemoves next hNext) hNot).symm
    constructor
    · intro ⟨_, hNext, hTail⟩
      have hNot : ¬ Q next := fun hq => hSkipped (hNext hq)
      exact ⟨fun _ => hNot, (hChain hNot).mp hTail⟩
    · intro ⟨hNext, hTail⟩
      exact ⟨fun _ => List.mem_cons_self .., fun hq => absurd hq (hNext hx),
        (hChain (hNext hx)).mpr hTail⟩
  | case4 x next rest hx ih =>
    obtain ⟨hNotX, hRest⟩ : x ∉ next :: rest ∧ (next :: rest).Nodup := by
      simpa using hNodup
    have hOthers : (∀ y ∈ next :: rest, Q y → y ∈ x :: examined removes (next :: rest)) ↔
        ∀ y ∈ next :: rest, Q y → y ∈ examined removes (next :: rest) := by
      refine forall₂_congr fun y hy => ?_
      have hNe : y ≠ x := fun hEq => hNotX (hEq ▸ hy)
      simp [hNe]
    rw [examined, if_neg hx, List.forall_mem_cons, hOthers, ih hRest, List.isChain_cons_cons]
    exact and_congr (iff_of_true (fun _ => List.mem_cons_self ..) fun h => absurd h hx) Iff.rfl

end Enumeration

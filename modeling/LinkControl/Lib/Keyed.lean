import Mathlib.Data.List.Nodup

/-!
# Tables with a key

A table is a list whose entries are told apart by a key. `place` is what a program does
when it looks an entry up by its key, overwrites it if it is there, and appends it if not;
`placeAll` does so for a list of entries.

The lemmas say that keys stay distinct and entries stay where they are (`keys_placeAll`,
`nodup_placeAll`), that what was placed is there (`mem_placeAll`), and that entries with
other keys are as they were (`getElem?_placeAll`). A table that has the same keys is
replaced (`placeAll_eq`).
-/

namespace Keyed

variable {α κ : Type*} [DecidableEq κ]

/-- `x` in the place of the first entry with its key, or at the end. -/
def place (key : α → κ) (x : α) : List α → List α
  | [] => [x]
  | y :: table => if key y = key x then x :: table else y :: place key x table

/-- All of `xs`, one after the other. -/
def placeAll (key : α → κ) (xs table : List α) : List α :=
  xs.foldl (fun table x => place key x table) table

variable {key : α → κ} {x : α} {xs table : List α}

/-- An entry that is found by its key is overwritten. -/
theorem place_of_findIdx? {i : Nat} (h : table.findIdx? (fun y => key y = key x) = some i) :
    place key x table = table.set i x := by
  induction table generalizing i with
  | nil => simp at h
  | cons y table ih =>
    rw [List.findIdx?_cons] at h
    rw [place]
    by_cases hKey : key y = key x
    · rw [if_pos (by simpa using hKey)] at h
      obtain rfl := Option.some.inj h
      rw [if_pos hKey, List.set_cons_zero]
    · rw [if_neg (by simpa using hKey)] at h
      obtain ⟨j, hj, rfl⟩ := Option.map_eq_some_iff.mp h
      rw [if_neg hKey, ih hj, List.set_cons_succ]

/-- An entry that is not found is appended. -/
theorem place_of_findIdx?_none (h : table.findIdx? (fun y => key y = key x) = none) :
    place key x table = table ++ [x] := by
  induction table with
  | nil => rfl
  | cons y table ih =>
    rw [List.findIdx?_cons] at h
    rw [place]
    by_cases hKey : key y = key x
    · rw [if_pos (by simpa using hKey)] at h
      exact absurd h (by simp)
    · rw [if_neg (by simpa using hKey)] at h
      rw [if_neg hKey, ih (Option.map_eq_none_iff.mp h), List.cons_append]

/-- Placing a record adds its key to the end, unless it is there. -/
theorem keys_place (key : α → κ) (x : α) (table : List α) : (place key x table).map key =
    if key x ∈ table.map key then table.map key else table.map key ++ [key x] := by
  induction table with
  | nil => simp [place]
  | cons y table ih =>
    rw [place]
    by_cases hKey : key y = key x
    · simp [hKey]
    · rw [if_neg hKey, List.map_cons, ih]
      by_cases hMem : key x ∈ table.map key
      · rw [if_pos hMem, if_pos (by simpa using Or.inr (by simpa using hMem)), List.map_cons]
      · rw [if_neg hMem, if_neg (by simpa [Ne.symm hKey] using hMem)]
        simp

/-- The keys that were there stay in front. -/
theorem keys_place_extends (key : α → κ) (x : α) (table : List α) :
    table.map key <+: (place key x table).map key := by
  rw [keys_place]
  split
  · exact List.prefix_refl _
  · exact List.prefix_append _ _

/-- No key comes twice. -/
theorem nodup_place (h : (table.map key).Nodup) : ((place key x table).map key).Nodup := by
  rw [keys_place]
  split
  · exact h
  · rename_i hNew
    refine h.append (List.nodup_singleton _) fun k hk hk' => hNew ?_
    rwa [← List.mem_singleton.mp hk']

/-- The record is in the table. -/
theorem mem_place (key : α → κ) (x : α) (table : List α) : x ∈ place key x table := by
  induction table with
  | nil => simp [place]
  | cons y table ih =>
    rw [place]
    split
    · exact List.mem_cons_self ..
    · exact List.mem_cons_of_mem _ ih

/-- An entry with another key stays where it is. -/
theorem getElem?_place {y : α} (hKey : key y ≠ key x) {i : Nat} (h : table[i]? = some y) :
    (place key x table)[i]? = some y := by
  induction table generalizing i with
  | nil => simp at h
  | cons z table ih =>
    rw [place]
    cases i with
    | zero =>
      obtain rfl : z = y := by simpa using h
      rw [if_neg hKey, List.getElem?_cons_zero]
    | succ i =>
      rw [List.getElem?_cons_succ] at h
      split
      · rwa [List.getElem?_cons_succ]
      · rw [List.getElem?_cons_succ]
        exact ih h

/-- Placing several records leaves the keys that were there in front. -/
theorem keys_placeAll (key : α → κ) (xs table : List α) :
    table.map key <+: (placeAll key xs table).map key := by
  induction xs generalizing table with
  | nil => exact List.prefix_refl _
  | cons x xs ih => exact (keys_place_extends key x table).trans (ih (place key x table))

/-- No key comes twice then either. -/
theorem nodup_placeAll (h : (table.map key).Nodup) : ((placeAll key xs table).map key).Nodup := by
  induction xs generalizing table with
  | nil => exact h
  | cons x xs ih => exact ih (nodup_place h)

/-- An entry that is not placed again stays where it is. -/
theorem getElem?_placeAll {y : α} (hKeys : key y ∉ xs.map key) {i : Nat}
    (h : table[i]? = some y) : (placeAll key xs table)[i]? = some y := by
  induction xs generalizing table with
  | nil => exact h
  | cons x xs ih =>
    rw [List.map_cons, List.mem_cons, not_or] at hKeys
    exact ih hKeys.2 (getElem?_place hKeys.1 h)

/-- What was placed under keys of its own is there. -/
theorem mem_placeAll (h : (xs.map key).Nodup) (hMem : x ∈ xs) : x ∈ placeAll key xs table := by
  induction xs generalizing table with
  | nil => exact absurd hMem List.not_mem_nil
  | cons y xs ih =>
    rw [List.map_cons, List.nodup_cons] at h
    rcases List.mem_cons.mp hMem with rfl | hMem
    · obtain ⟨i, hi⟩ := List.getElem?_of_mem (mem_place key x table)
      exact List.mem_of_getElem? (getElem?_placeAll h.1 hi)
    · exact ih h.2 hMem

/-- The other records were there before. -/
theorem mem_place_cases {y : α} (h : y ∈ place key x table) : y = x ∨ y ∈ table := by
  induction table with
  | nil => exact Or.inl (List.mem_singleton.mp h)
  | cons z table ih =>
    rw [place] at h
    split at h
    · exact (List.mem_cons.mp h).imp_right (List.mem_cons_of_mem _)
    · rcases List.mem_cons.mp h with rfl | h
      · exact Or.inr (List.mem_cons_self ..)
      · exact (ih h).imp_right (List.mem_cons_of_mem _)

/-- Whatever is in the table was there before, or has been placed. -/
theorem mem_placeAll_cases {y : α} (h : y ∈ placeAll key xs table) : y ∈ xs ∨ y ∈ table := by
  induction xs generalizing table with
  | nil => exact Or.inr h
  | cons x xs ih =>
    rcases ih h with hNew | hOld
    · exact Or.inl (List.mem_cons_of_mem _ hNew)
    · rcases mem_place_cases hOld with rfl | hOld
      · exact Or.inl (List.mem_cons_self ..)
      · exact Or.inr hOld

/-- An entry with a key of its own stays in front. -/
theorem placeAll_cons {y : α} (h : key y ∉ xs.map key) (table : List α) :
    placeAll key xs (y :: table) = y :: placeAll key xs table := by
  induction xs generalizing table with
  | nil => rfl
  | cons x xs ih =>
    rw [List.map_cons, List.mem_cons, not_or] at h
    have hFirst : place key x (y :: table) = y :: place key x table := by rw [place, if_neg h.1]
    show placeAll key xs (place key x (y :: table)) = y :: placeAll key xs (place key x table)
    rw [hFirst, ih h.2]

/-- **A table that has no keys but those that are placed** is replaced by what is placed. -/
theorem placeAll_eq (hNodup : (xs.map key).Nodup)
    (hTable : table = [] ∨ table.map key = xs.map key) : placeAll key xs table = xs := by
  induction xs generalizing table with
  | nil =>
    rcases hTable with rfl | hKeys
    · rfl
    · exact List.map_eq_nil_iff.mp hKeys
  | cons x xs ih =>
    rw [List.map_cons, List.nodup_cons] at hNodup
    rcases hTable with rfl | hKeys
    · show placeAll key xs [x] = x :: xs
      rw [placeAll_cons hNodup.1, ih hNodup.2 (Or.inl rfl)]
    · cases table with
      | nil => simp at hKeys
      | cons y table =>
        rw [List.map_cons, List.map_cons, List.cons.injEq] at hKeys
        have hFirst : place key x (y :: table) = x :: table := by rw [place, if_pos hKeys.1]
        show placeAll key xs (place key x (y :: table)) = x :: xs
        rw [hFirst, placeAll_cons hNodup.1, ih hNodup.2 (Or.inr hKeys.2)]

/-- Entries of other kinds are not touched. -/
theorem filter_place {p : α → Bool} (hNew : p x = false)
    (hOld : ∀ y, key y = key x → p y = false) (table : List α) :
    (place key x table).filter p = table.filter p := by
  induction table with
  | nil => simp [place, hNew]
  | cons y table ih =>
    rw [place]
    by_cases hKey : key y = key x
    · rw [if_pos hKey, List.filter_cons_of_neg (by simp [hNew]),
        List.filter_cons_of_neg (by simp [hOld y hKey])]
    · rw [if_neg hKey, List.filter_cons, List.filter_cons, ih]

end Keyed

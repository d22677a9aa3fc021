import Mathlib.Data.List.Basic
import Mathlib.Data.List.Infix
import Mathlib.Data.List.Range

/-!
# Searching C strings

A C string is the list of its characters before the NUL. Positions are offsets
into it, so `p + n` on pointers is `List.drop n`.

* `strncmpEq` — `strncmp (a, b, n) == 0`.
* `strstr`, `strchr`, `strpbrk` — the offset of the pointer that is returned.
* `occurrences` — all offsets at which a string starts with `needle`. A `strstr` from
  anywhere inside a string finds the first occurrence that is not before it
  (`strstr_drop_some`, `strstr_drop_none`).
-/

namespace CString

/-- Where a needle occurs, its first character does. -/
theorem mem_drop_of_prefix {α : Type*} {c : α} {needle s : List α} {p n : Nat}
    (h : (c :: needle) <+: s.drop p) (hLe : n ≤ p) : c ∈ s.drop n := by
  have hMem : c ∈ s.drop p := h.subset (List.mem_cons_self ..)
  obtain ⟨k, rfl⟩ := Nat.exists_eq_add_of_le hLe
  rw [← List.drop_drop] at hMem
  exact List.mem_of_mem_drop hMem

/-- Whether all characters of a string are of a kind is found by going through the string,
not through all characters there are. -/
instance decidableForallMem {p : Char → Prop} [DecidablePred p] (s : List Char) :
    Decidable (∀ c ∈ s, p c) :=
  List.decidableBAll p s

instance decidableForallMemOption {p : Char → Prop} [DecidablePred p] (c : Option Char) :
    Decidable (∀ x ∈ c, p x) :=
  Option.decidableForallMem c

variable {α : Type*} [DecidableEq α]

/-- `strncmp (a, b, n) == 0` -/
def strncmpEq (a b : List α) (n : Nat) : Bool := a.take n == b.take n

/-- `strstr (s, needle)` -/
def strstr (needle : List α) : List α → Option Nat
  | [] => if needle = [] then some 0 else none
  | c :: rest =>
    if needle.isPrefixOf (c :: rest) then some 0 else (strstr needle rest).map (· + 1)

/-- `strchr (s, c)`, for a `c` that is not the NUL. -/
def strchr (c : α) (s : List α) : Option Nat := s.findIdx? (· = c)

/-- `strpbrk (s, accept)` -/
def strpbrk (accept s : List α) : Option Nat := s.findIdx? (· ∈ accept)

/-- The offsets at which `needle` occurs. -/
def occurrences (needle s : List α) : List Nat :=
  (List.range s.length).filter fun p => needle.isPrefixOf (s.drop p)

/-- Comparing as many characters as `b` has. -/
theorem strncmpEq_iff {a b : List α} : strncmpEq a b b.length ↔ b <+: a := by
  rw [strncmpEq, beq_iff_eq, List.take_length, List.prefix_iff_eq_take, eq_comm]

variable {needle : List α}

/-- The first occurrence is one, and there is none before it. -/
theorem strstr_some {s : List α} {n : Nat} (h : strstr needle s = some n) :
    needle <+: s.drop n ∧ ∀ m < n, ¬ needle <+: s.drop m := by
  induction s generalizing n with
  | nil =>
    rw [strstr] at h
    split at h
    · obtain rfl := Option.some.inj h
      simp_all
    · exact absurd h (by simp)
  | cons c rest ih =>
    rw [strstr] at h
    split at h
    · rename_i hHere
      obtain rfl := Option.some.inj h
      exact ⟨List.isPrefixOf_iff_prefix.mp hHere, fun m hm => absurd hm (Nat.not_lt_zero m)⟩
    · rename_i hNot
      obtain ⟨n, hRest, rfl⟩ := Option.map_eq_some_iff.mp h
      obtain ⟨hFound, hBefore⟩ := ih hRest
      refine ⟨hFound, fun m hm => ?_⟩
      cases m with
      | zero => exact fun hHere => hNot (List.isPrefixOf_iff_prefix.mpr hHere)
      | succ m => exact hBefore m (by omega)

/-- No occurrence means none anywhere. -/
theorem strstr_none {s : List α} (h : strstr needle s = none) (m : Nat) :
    ¬ needle <+: s.drop m := by
  induction s generalizing m with
  | nil =>
    rw [strstr] at h
    split at h
    · exact absurd h (by simp)
    · rename_i hNeedle
      rw [List.drop_nil, List.prefix_nil]
      exact hNeedle
  | cons c rest ih =>
    rw [strstr] at h
    split at h
    · exact absurd h (by simp)
    · rename_i hNot
      cases m with
      | zero => exact fun hHere => hNot (List.isPrefixOf_iff_prefix.mpr hHere)
      | succ m => exact ih (Option.map_eq_none_iff.mp h) m

/-- Up to the character that was found there is no other of its kind. -/
theorem strchr_some {c : α} {s : List α} {n : Nat} (h : strchr c s = some n) :
    c ∈ s ∧ s.takeWhile (· ≠ c) = s.take n ∧ n < s.length := by
  obtain ⟨hLt, hFound, hBefore⟩ := List.findIdx?_eq_some_iff_getElem.mp h
  have hIdx : s.findIdx (· = c) = n := List.findIdx_eq hLt |>.mpr ⟨hFound, fun j hj => by
    simpa using hBefore j hj⟩
  refine ⟨?_, ?_, hLt⟩
  · exact of_decide_eq_true hFound ▸ List.getElem_mem hLt
  · rw [List.takeWhile_eq_take_findIdx_not]
    simpa using congrArg s.take hIdx

/-- The first place of a character is behind whatever does not hold it. -/
theorem strchr_append {c : α} {s : List α} (h : c ∉ s) (rest : List α) :
    strchr c (s ++ c :: rest) = some s.length := by
  induction s with
  | nil => simp [strchr, List.findIdx?_cons]
  | cons x s ih =>
    rw [List.mem_cons, not_or] at h
    have hRest := ih h.2
    unfold strchr at hRest ⊢
    rw [List.cons_append, List.findIdx?_cons, hRest]
    simp [Ne.symm h.1]

/-- A character that is not found is not there. -/
theorem strchr_none {c : α} {s : List α} (h : strchr c s = none) : c ∉ s := by
  intro hMem
  simpa using List.findIdx?_eq_none_iff.mp h c hMem

/-- Where `strpbrk` stops, and what it has passed over. -/
theorem strpbrk_some {accept s : List α} {n : Nat} (h : strpbrk accept s = some n) :
    s.takeWhile (· ∉ accept) = s.take n ∧ s.dropWhile (· ∉ accept) = s.drop n ∧
      n < s.length := by
  obtain ⟨hLt, hFound, hBefore⟩ := List.findIdx?_eq_some_iff_getElem.mp h
  have hIdx : s.findIdx (· ∈ accept) = n := List.findIdx_eq hLt |>.mpr ⟨hFound, fun j hj => by
    simpa using hBefore j hj⟩
  refine ⟨?_, ?_, hLt⟩
  · rw [List.takeWhile_eq_take_findIdx_not]
    simpa using congrArg s.take hIdx
  · rw [List.dropWhile_eq_drop_findIdx_not]
    simpa using congrArg s.drop hIdx

/-- Where the search stops, one of the accepted characters is. -/
theorem strpbrk_mem {accept s : List α} {n : Nat} (h : strpbrk accept s = some n) :
    ∃ c ∈ accept, c ∈ s := by
  obtain ⟨hLt, hFound, -⟩ := List.findIdx?_eq_some_iff_getElem.mp h
  exact ⟨s[n], of_decide_eq_true hFound, List.getElem_mem hLt⟩

/-- Where it does not stop, none of them is. -/
theorem strpbrk_none {accept s : List α} (h : strpbrk accept s = none) :
    ∀ x ∈ s, x ∉ accept := by
  intro x hx
  simpa using List.findIdx?_eq_none_iff.mp h x hx

/-- The occurrences are the places where the text goes on with the needle. -/
theorem mem_occurrences (hNeedle : needle ≠ []) {s : List α} {p : Nat} :
    p ∈ occurrences needle s ↔ needle <+: s.drop p := by
  rw [occurrences, List.mem_filter, List.mem_range, List.isPrefixOf_iff_prefix]
  constructor
  · exact And.right
  · intro hHere
    refine ⟨?_, hHere⟩
    by_contra hPast
    rw [List.drop_eq_nil_of_le (Nat.le_of_not_lt hPast), List.prefix_nil] at hHere
    exact hNeedle hHere

theorem occurrences_sorted (needle s : List α) :
    (occurrences needle s).Pairwise (· < ·) :=
  List.pairwise_lt_range.filter _

/-- A search that starts at `n` finds the next occurrence from there. -/
theorem strstr_drop_some (hNeedle : needle ≠ []) {s : List α} {n m : Nat}
    (h : strstr needle (s.drop n) = some m) :
    n + m ∈ occurrences needle s ∧ ∀ p ∈ occurrences needle s, n ≤ p → n + m ≤ p := by
  obtain ⟨hFound, hBefore⟩ := strstr_some h
  rw [List.drop_drop] at hFound
  refine ⟨(mem_occurrences hNeedle).mpr hFound, fun p hp hLe => ?_⟩
  by_contra hEarlier
  refine hBefore (p - n) (by omega) ?_
  rw [List.drop_drop, Nat.add_sub_cancel' hLe]
  exact (mem_occurrences hNeedle).mp hp

/-- A search that finds nothing has all occurrences behind it. -/
theorem strstr_drop_none (hNeedle : needle ≠ []) {s : List α} {n : Nat}
    (h : strstr needle (s.drop n) = none) : ∀ p ∈ occurrences needle s, p < n := by
  intro p hp
  by_contra hLe
  refine strstr_none h (p - n) ?_
  rw [List.drop_drop, Nat.add_sub_cancel' (Nat.le_of_not_lt hLe)]
  exact (mem_occurrences hNeedle).mp hp

end CString

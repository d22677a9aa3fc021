import Mathlib.Data.List.Basic
import Mathlib.Data.List.Induction
import Mathlib.Data.List.Nodup

/-!
# Programs that report failure by a return code

The C idiom: a function returns a negative number when it failed, and its caller
gives up with `-1`. A call is `Int × S`, the returned number and the state it
left. `unlessFails` is `if (f () < 0) return (-1);` followed by the rest of the
function, and `untilFailure` is a loop over a list whose body may do the same.

The rules at the end of the module carry an invariant through both, and
`Visits` states a condition on every iteration a loop really makes. `reached` is the state in
which an iteration starts, for statements about what a loop has done by then.
-/

namespace ReturnCode

variable {S α : Type*}

/-- `if (r < 0) return (-1);` then go on with `k`. -/
def unlessFails (r : Int × S) (k : S → Int × S) : Int × S :=
  if r.1 < 0 then (-1, r.2) else k r.2

/-- Run `body` on every element in turn; the first failure ends the loop. -/
def untilFailure (body : α → S → Int × S) : List α → S → Int × S
  | [], s => (0, s)
  | x :: xs, s => unlessFails (body x s) (untilFailure body xs)

/-- The state in which the loop comes to the element number `n`, if no iteration fails. -/
def reached (body : α → S → Int × S) (xs : List α) (n : Nat) (s : S) : S :=
  (untilFailure body (xs.take n) s).2

/-- `P` holds at every iteration the loop makes, in the state that iteration meets. -/
def Visits (body : α → S → Int × S) (P : α → S → Prop) : List α → S → Prop
  | [], _ => True
  | x :: xs, s => P x s ∧ (0 ≤ (body x s).1 → Visits body P xs (body x s).2)

instance Visits.decidable {body : α → S → Int × S} {P : α → S → Prop}
    [∀ x s, Decidable (P x s)] : ∀ xs s, Decidable (Visits body P xs s)
  | [], _ => isTrue trivial
  | x :: xs, s =>
    have : Decidable (Visits body P xs (body x s).2) := Visits.decidable xs (body x s).2
    inferInstanceAs (Decidable (P x s ∧ (0 ≤ (body x s).1 → Visits body P xs (body x s).2)))

theorem unlessFails_of_neg {r : Int × S} {k : S → Int × S} (h : r.1 < 0) :
    unlessFails r k = (-1, r.2) := if_pos h

theorem unlessFails_of_nonneg {r : Int × S} {k : S → Int × S} (h : 0 ≤ r.1) :
    unlessFails r k = k r.2 := if_neg (Int.not_lt.mpr h)

/-- Give up, or go on. -/
theorem unlessFails_cases (r : Int × S) (k : S → Int × S) :
    (r.1 < 0 ∧ unlessFails r k = (-1, r.2)) ∨ (0 ≤ r.1 ∧ unlessFails r k = k r.2) := by
  by_cases h : r.1 < 0
  · exact Or.inl ⟨h, unlessFails_of_neg h⟩
  · exact Or.inr ⟨Int.not_lt.mp h, unlessFails_of_nonneg (Int.not_lt.mp h)⟩

/-- A caller that only hands on the failure leaves what the call left. -/
theorem unlessFails_done (r : Int × S) (n : Int) : (unlessFails r fun s => (n, s)).2 = r.2 := by
  unfold unlessFails
  split <;> rfl

/-- What the failed call left, or what the rest of the function makes of the state
the call left. -/
theorem unlessFails_post {I : S → Prop} {r : Int × S} {k : S → Int × S}
    (hFail : r.1 < 0 → I r.2) (hNext : 0 ≤ r.1 → I (k r.2).2) :
    I (unlessFails r k).2 := by
  by_cases h : r.1 < 0
  · rw [unlessFails_of_neg h]
    exact hFail h
  · rw [unlessFails_of_nonneg (Int.not_lt.mp h)]
    exact hNext (Int.not_lt.mp h)

/-- A condition that holds at every element and every state is met by every
iteration. -/
theorem visits_of_forall {body : α → S → Int × S} {P : α → S → Prop} (h : ∀ x s, P x s)
    (xs : List α) (s : S) : Visits body P xs s := by
  induction xs generalizing s with
  | nil => trivial
  | cons x xs ih => exact ⟨h x s, fun _ => ih (body x s).2⟩

theorem Visits.mono {body : α → S → Int × S} {P Q : α → S → Prop} (h : ∀ x s, P x s → Q x s)
    {xs : List α} {s : S} (hVisits : Visits body P xs s) : Visits body Q xs s := by
  induction xs generalizing s with
  | nil => trivial
  | cons x xs ih => exact ⟨h x s hVisits.1, fun hRet => ih (hVisits.2 hRet)⟩

theorem visits_congr {body : α → S → Int × S} {P Q : α → S → Prop} (h : ∀ x s, P x s ↔ Q x s)
    (xs : List α) (s : S) : Visits body P xs s ↔ Visits body Q xs s :=
  ⟨Visits.mono fun x s => (h x s).mp, Visits.mono fun x s => (h x s).mpr⟩

/-- Conditions that are all met by every iteration. -/
theorem visits_forall {ι : Sort*} {body : α → S → Int × S} {P : ι → α → S → Prop} {xs : List α}
    {s : S} (h : ∀ i, Visits body (P i) xs s) : Visits body (fun x s => ∀ i, P i x s) xs s := by
  induction xs generalizing s with
  | nil => trivial
  | cons x xs ih => exact ⟨fun i => (h i).1, fun hRet => ih fun i => (h i).2 hRet⟩

/-- A loop comes to its end when no iteration fails. -/
theorem untilFailure_nonneg_iff {body : α → S → Int × S} {xs : List α} {s : S} :
    0 ≤ (untilFailure body xs s).1 ↔ Visits body (fun x s => 0 ≤ (body x s).1) xs s := by
  induction xs generalizing s with
  | nil => exact iff_of_true (Int.le_refl 0) trivial
  | cons x xs ih =>
    rw [untilFailure, Visits]
    rcases unlessFails_cases (body x s) (untilFailure body xs) with ⟨hFail, hEq⟩ | ⟨hRet, hEq⟩ <;>
      rw [hEq]
    · exact iff_of_false (by simp) fun h => absurd h.1 (Int.not_le.mpr hFail)
    · rw [ih]
      exact ⟨fun h => ⟨hRet, fun _ => h⟩, fun h => h.2 hRet⟩

/-- A loop that fails ends with the iteration that fails. -/
theorem untilFailure_fails {I : S → Prop} {body : α → S → Int × S} {xs : List α} {s : S}
    (hBody : ∀ x ∈ xs, ∀ s, I s → I (body x s).2) (hI : I s)
    (h : (untilFailure body xs s).1 < 0) :
    ∃ x ∈ xs, ∃ s', I s' ∧ (body x s').1 < 0 ∧ (untilFailure body xs s).2 = (body x s').2 := by
  induction xs generalizing s with
  | nil => exact absurd h (Int.lt_irrefl 0)
  | cons x xs ih =>
    rw [untilFailure] at h ⊢
    rcases unlessFails_cases (body x s) (untilFailure body xs) with ⟨hFail, hEq⟩ | ⟨hRet, hEq⟩ <;>
      rw [hEq] at h ⊢
    · exact ⟨x, List.mem_cons_self .., s, hI, hFail, rfl⟩
    · obtain ⟨y, hy, s', hI', hFail, hLeft⟩ := ih
        (fun y hy => hBody y (List.mem_cons_of_mem _ hy)) (hBody x (List.mem_cons_self ..) s hI) h
      exact ⟨y, List.mem_cons_of_mem _ hy, s', hI', hFail, hLeft⟩

/-- **Loop rule.** What an iteration keeps under `P`, a loop whose iterations all
meet `P` keeps, also when it ends early. -/
theorem untilFailure_invariant {I : S → Prop} {body : α → S → Int × S} {P : α → S → Prop}
    {xs : List α} (hBody : ∀ x ∈ xs, ∀ s, I s → P x s → I (body x s).2) :
    ∀ s, I s → Visits body P xs s → I (untilFailure body xs s).2 := by
  induction xs with
  | nil => exact fun s hI _ => hI
  | cons x xs ih =>
    intro s hI hVisits
    have hx : I (body x s).2 := hBody x (List.mem_cons_self ..) s hI hVisits.1
    exact unlessFails_post (fun _ => hx) fun h =>
      ih (fun y hy => hBody y (List.mem_cons_of_mem _ hy)) _ hx (hVisits.2 h)

/-- The iterations of such a loop all start where the invariant holds. -/
theorem visits_invariant {I : S → Prop} {body : α → S → Int × S} {P : α → S → Prop}
    {xs : List α} (hBody : ∀ x ∈ xs, ∀ s, I s → P x s → I (body x s).2) (s : S) (hI : I s)
    (hVisits : Visits body P xs s) :
    Visits body (fun x s => x ∈ xs ∧ I s ∧ P x s) xs s := by
  have hPart : ∀ ys : List α, (∀ y ∈ ys, y ∈ xs) → ∀ s, I s → Visits body P ys s →
      Visits body (fun x s => x ∈ xs ∧ I s ∧ P x s) ys s := by
    intro ys
    induction ys with
    | nil => exact fun _ _ _ _ => trivial
    | cons y ys ih =>
      intro hSub s hI hVisits
      have hy := hSub y (List.mem_cons_self ..)
      refine ⟨⟨hy, hI, hVisits.1⟩, fun h => ?_⟩
      exact ih (fun z hz => hSub z (List.mem_cons_of_mem _ hz)) _
        (hBody y hy s hI hVisits.1) (hVisits.2 h)
  exact hPart xs (fun _ hx => hx) s hI hVisits

/-- The loop rule for what every iteration keeps unconditionally. -/
theorem untilFailure_invariant' {I : S → Prop} {body : α → S → Int × S} {xs : List α}
    (hBody : ∀ x ∈ xs, ∀ s, I s → I (body x s).2) (s : S) (hI : I s) :
    I (untilFailure body xs s).2 :=
  untilFailure_invariant (P := fun _ _ => True) (fun x hx s h _ => hBody x hx s h) s hI
    (visits_of_forall (fun _ _ => trivial) xs s)

-- ---------------------------------------------------------------------------
-- What a loop has done so far
-- ---------------------------------------------------------------------------

section Reached

variable {body : α → S → Int × S} {xs before after : List α} {x : α} {s : S}

theorem untilFailure_append (xs ys : List α) (s : S) :
    untilFailure body (xs ++ ys) s =
      unlessFails (untilFailure body xs s) (untilFailure body ys) := by
  induction xs generalizing s with
  | nil => rfl
  | cons x xs ih =>
    rw [List.cons_append, untilFailure, untilFailure]
    rcases unlessFails_cases (body x s) (untilFailure body xs) with ⟨hFail, hEq⟩ | ⟨hRet, hEq⟩ <;>
      rw [hEq]
    · rw [unlessFails_of_neg hFail, unlessFails_of_neg (by simp)]
    · rw [unlessFails_of_nonneg hRet]
      exact ih _

theorem reached_of_append (h : xs = before ++ after) :
    reached body xs before.length s = (untilFailure body before s).2 := by
  rw [reached, h, List.take_left]

/-- An element is where it is first found. -/
theorem findIdx_of_append {p : α → Bool} (h : xs = before ++ x :: after)
    (hBefore : ∀ y ∈ before, ¬ p y) (hx : p x) : xs.findIdx p = before.length := by
  have hNone : before.findIdx p = before.length :=
    List.findIdx_eq_length.mpr fun y hy => Bool.eq_false_iff.mpr (hBefore y hy)
  rw [h, List.findIdx_append, hNone, if_neg (Nat.lt_irrefl _), List.findIdx_cons, hx]
  simp

/-- An element that stands in the list only once has not been visited before. -/
theorem not_mem_of_append (hNodup : xs.Nodup) (h : xs = before ++ x :: after) : x ∉ before := by
  rw [h, List.nodup_middle, List.nodup_cons] at hNodup
  exact fun hMem => hNodup.1 (List.mem_append_left _ hMem)

/-- The last iteration of a part of the loop. -/
theorem untilFailure_concat (hRet : 0 ≤ (untilFailure body before s).1) :
    untilFailure body (before ++ [x]) s =
      unlessFails (body x (untilFailure body before s).2) fun s => (0, s) := by
  rw [untilFailure_append, unlessFails_of_nonneg hRet]
  rfl

/-- **Loop rule with the elements that have been visited.** They are the first ones, and all of
them if no iteration fails. -/
theorem untilFailure_passed {I : List α → S → Prop} (h : I [] s)
    (hBody : ∀ before x after, xs = before ++ x :: after → 0 ≤ (untilFailure body before s).1 →
      I before (reached body xs before.length s) →
      I (before ++ [x]) (body x (reached body xs before.length s)).2) :
    ∃ before after, xs = before ++ after ∧ I before (untilFailure body xs s).2 := by
  have hPart : ∀ before after, xs = before ++ after →
      (0 ≤ (untilFailure body before s).1 → I before (untilFailure body before s).2) ∧
      ∃ passed rest, before = passed ++ rest ∧ I passed (untilFailure body before s).2 := by
    intro before
    induction before using List.reverseRecOn with
    | nil => exact fun _ _ => ⟨fun _ => h, [], [], rfl, h⟩
    | append_singleton before x ih =>
      intro after hSplit
      have hSplit' : xs = before ++ x :: after := by
        rw [hSplit, List.append_assoc, List.singleton_append]
      obtain ⟨hDone, passed, rest, hPassed, hI⟩ := ih (x :: after) hSplit'
      rcases unlessFails_cases (untilFailure body before s) (untilFailure body [x]) with
        ⟨hFail, hEq⟩ | ⟨hRet, -⟩
      · -- the loop has ended before
        rw [untilFailure_append, hEq]
        exact ⟨fun hRet => absurd hRet (by simp),
          passed, rest ++ [x], by rw [hPassed, List.append_assoc], hI⟩
      · have hNext := hBody before x after hSplit' hRet (reached_of_append hSplit' ▸ hDone hRet)
        rw [reached_of_append hSplit'] at hNext
        rw [untilFailure_concat hRet, unlessFails_done]
        exact ⟨fun _ => hNext, before ++ [x], [], (List.append_nil _).symm, hNext⟩
  obtain ⟨-, passed, rest, hPassed, hI⟩ := hPart xs [] (List.append_nil xs).symm
  exact ⟨passed, rest, hPassed, hI⟩

/-- **Loop rule for a loop that comes to its end.** No iteration fails where the invariant holds,
and in the end it speaks of all elements. -/
theorem untilFailure_visited {I : List α → S → Prop} (h : I [] s)
    (hRet : ∀ before x after, xs = before ++ x :: after →
      I before (reached body xs before.length s) →
      0 ≤ (body x (reached body xs before.length s)).1)
    (hBody : ∀ before x after, xs = before ++ x :: after →
      I before (reached body xs before.length s) →
      reached body xs (before.length + 1) s = (body x (reached body xs before.length s)).2 →
      I (before ++ [x]) (body x (reached body xs before.length s)).2) :
    0 ≤ (untilFailure body xs s).1 ∧ I xs (untilFailure body xs s).2 := by
  have hPart : ∀ before after, xs = before ++ after →
      0 ≤ (untilFailure body before s).1 ∧ I before (untilFailure body before s).2 := by
    intro before
    induction before using List.reverseRecOn with
    | nil => exact fun _ _ => ⟨Int.le_refl 0, h⟩
    | append_singleton before x ih =>
      intro after hSplit
      have hSplit' : xs = before ++ x :: after := by
        rw [hSplit, List.append_assoc, List.singleton_append]
      obtain ⟨hDone, hI⟩ := ih (x :: after) hSplit'
      rw [← reached_of_append hSplit'] at hI
      have hNext := hRet before x after hSplit' hI
      have hLoop : untilFailure body (before ++ [x]) s =
          (0, (body x (reached body xs before.length s)).2) := by
        rw [untilFailure_concat hDone, ← reached_of_append hSplit', unlessFails_of_nonneg hNext]
      have hReached : reached body xs (before.length + 1) s =
          (body x (reached body xs before.length s)).2 := by
        have hHere : reached body xs (before ++ [x]).length s = _ := reached_of_append hSplit
        rw [List.length_append, List.length_singleton, hLoop] at hHere
        exact hHere
      rw [hLoop]
      exact ⟨Int.le_refl 0, hBody before x after hSplit' hI hReached⟩
  exact hPart xs [] (List.append_nil xs).symm

end Reached

end ReturnCode

import Mathlib.Data.List.Forall2

/-!
# Runs of a deterministic event machine

A machine is a function `step : E → S → S`: one event, taken in one state, gives
the next state. This module has the two notions every result about whole
executions is stated with, and the inductions that prove them:

* `run` — the state after a list of events;
* `Along` — a condition met by every event of a run in the state it is taken in;
* `run_invariant` — what a step keeps under the condition, a run along which the
  condition holds keeps as well;
* `run_survives_iff` — the same with the condition that is exact;
* `run_log` — what a run leaves in a log, where a step leaves at most one entry;
* `run_settles` — a goal that every step comes nearer to, and no step loses, is
  reached.
-/

namespace Runs

variable {S E : Type*}

/-- The state after the events `es`, taken in order from `s`. -/
def run (step : E → S → S) (es : List E) (s : S) : S :=
  es.foldl (fun s e => step e s) s

/-- Every event of the run meets `P` in the state it is taken in. -/
def Along (step : E → S → S) (P : E → S → Prop) : List E → S → Prop
  | [], _ => True
  | e :: es, s => P e s ∧ Along step P es (step e s)

variable {step : E → S → S} {P Q : E → S → Prop}

instance Along.decidable [∀ e s, Decidable (P e s)] : ∀ es s, Decidable (Along step P es s)
  | [], _ => isTrue trivial
  | e :: es, s =>
    have : Decidable (Along step P es (step e s)) := Along.decidable es (step e s)
    inferInstanceAs (Decidable (P e s ∧ Along step P es (step e s)))

@[simp] theorem run_cons (e : E) (es : List E) (s : S) :
    run step (e :: es) s = run step es (step e s) := rfl

theorem run_append (es es' : List E) (s : S) :
    run step (es ++ es') s = run step es' (run step es s) := List.foldl_append

@[simp] theorem along_nil (s : S) : Along step P [] s := trivial

/-- A condition that every event meets everywhere is met along every run. -/
theorem along_of_forall (h : ∀ e s, P e s) (es : List E) (s : S) : Along step P es s := by
  induction es generalizing s with
  | nil => trivial
  | cons e es ih => exact ⟨h e s, ih (step e s)⟩

/-- A condition on the events alone is met along a run if every event meets it. -/
theorem along_forall_iff {Q : E → Prop} (es : List E) (s : S) :
    Along step (fun e _ => Q e) es s ↔ ∀ e ∈ es, Q e := by
  induction es generalizing s with
  | nil => simp
  | cons e es ih => rw [List.forall_mem_cons, ← ih (step e s)]; rfl

/-- A condition that is met along a run is met by each of its events. -/
theorem Along.at {before after : List E} {e : E} {s : S}
    (h : Along step P (before ++ e :: after) s) : P e (run step before s) := by
  induction before generalizing s with
  | nil => exact h.1
  | cons e' before ih => exact ih h.2

/-- What holds after a run and not before it has come about in one of its steps. -/
theorem exists_change {A : S → Prop} {es : List E} {s : S} (hBefore : ¬ A s)
    (hAfter : A (run step es s)) : ∃ before e after, es = before ++ e :: after ∧
      ¬ A (run step before s) ∧ A (step e (run step before s)) := by
  induction es generalizing s with
  | nil => exact absurd hAfter hBefore
  | cons e es ih =>
    by_cases hNext : A (step e s)
    · exact ⟨[], e, es, rfl, hBefore, hNext⟩
    · obtain ⟨before, e', after, rfl, hNot, hNow⟩ := ih hNext hAfter
      exact ⟨e :: before, e', after, rfl, hNot, hNow⟩

/-- **Invariant rule.** What a step keeps under `P`, a run along `P` keeps. -/
theorem run_invariant {I : S → Prop} (hStep : ∀ e s, I s → P e s → I (step e s))
    (es : List E) (s : S) (hI : I s) (hAlong : Along step P es s) : I (run step es s) := by
  induction es generalizing s with
  | nil => exact hI
  | cons e es ih =>
    show I (run step es (step e s))
    exact ih (step e s) (hStep e s hI hAlong.1) hAlong.2

/-- **Survival rule.** Where a step from a state in which `A` holds keeps `A` exactly under
`Q`, and `A` never comes back, a run keeps `A` exactly if all its events meet `Q`. -/
theorem run_survives_iff {I A : S → Prop} (hKeep : ∀ e s, I s → P e s → I (step e s))
    (hStep : ∀ e s, I s → P e s → A s → (A (step e s) ↔ Q e s))
    (hLost : ∀ e s, ¬ A s → ¬ A (step e s)) (es : List E) (s : S) (hI : I s) (hA : A s)
    (hAlong : Along step P es s) : A (run step es s) ↔ Along step Q es s := by
  induction es generalizing s with
  | nil => exact iff_of_true hA trivial
  | cons e es ih =>
    have hFirst := hStep e s hI hAlong.1 hA
    rw [run_cons]
    constructor
    · intro hEnd
      have hNext : A (step e s) := by
        by_contra hNot
        refine run_invariant (P := fun _ _ => True) (I := fun s => ¬ A s)
          (fun e s h _ => hLost e s h) es _ hNot (along_of_forall (fun _ _ => trivial) es _) hEnd
      exact ⟨hFirst.mp hNext, (ih _ (hKeep e s hI hAlong.1) hNext hAlong.2).mp hEnd⟩
    · intro hAll
      exact (ih _ (hKeep e s hI hAlong.1) (hFirst.mpr hAll.1) hAlong.2).mpr hAll.2

/-- What the events of a run make of `a`, each seen in the state it is taken in. -/
def observe {A : Type*} (step : E → S → S) (update : E → S → A → A) : List E → S → A → A
  | [], _, a => a
  | e :: es, s, a => observe step update es (step e s) (update e s a)

/-- **Simulation rule.** Where a step keeps a view of the state in `J` with the state, if the view
changes as `update` does, a run keeps what `observe` makes of the view in `J` with it. -/
theorem observe_simulates {A : Type*} {update : E → S → A → A} {J : S → A → Prop}
    (hStep : ∀ e s a, J s a → P e s → J (step e s) (update e s a)) (es : List E) (s : S) (a : A)
    (h : J s a) (hAlong : Along step P es s) :
    J (run step es s) (observe step update es s a) := by
  induction es generalizing s a with
  | nil => exact h
  | cons e es ih =>
    rw [observe, run_cons]
    exact ih (step e s) (update e s a) (hStep e s a h hAlong.1) hAlong.2

/-- The events of a run, each with the state it is taken in. -/
def stages (step : E → S → S) : List E → S → List (E × S)
  | [], _ => []
  | e :: es, s => (e, s) :: stages step es (step e s)

/-- **Log rule.** Where a step leaves at most one entry in a log, and one that `R` allows, the
entries of a run belong to its stages, in order. -/
theorem run_log {M : Type*} {L : S → List M} {R : M → E × S → Prop} {I : S → Prop}
    (hKeep : ∀ e s, I s → I (step e s))
    (hStep : ∀ e s, I s → L (step e s) = L s ∨
      ∃ m, R m (e, s) ∧ L (step e s) = L s ++ [m]) (es : List E) (s : S) (hI : I s) :
    ∃ new, L (run step es s) = L s ++ new ∧ List.SublistForall₂ R new (stages step es s) := by
  induction es generalizing s with
  | nil => exact ⟨[], (List.append_nil _).symm, .nil⟩
  | cons e es ih =>
    obtain ⟨new, hLog, hNew⟩ := ih (step e s) (hKeep e s hI)
    rw [run_cons, hLog, stages]
    rcases hStep e s hI with h | ⟨m, hm, h⟩
    · exact ⟨new, by rw [h], .cons_right hNew⟩
    · exact ⟨m :: new, by rw [h, List.append_assoc, List.singleton_append], .cons hm hNew⟩

/-- **Progress rule.** Where every step that does not start at the goal brings down a rank,
and the goal is not lost again, as many steps as the rank is high reach the goal. -/
theorem run_settles {I G : S → Prop} {r : S → Nat}
    (hKeep : ∀ e s, I s → P e s → I (step e s))
    (hNear : ∀ e s, I s → P e s → ¬ G s → r (step e s) < r s)
    (hStay : ∀ e s, I s → P e s → G s → G (step e s)) (hZero : ∀ s, r s = 0 → G s)
    (es : List E) (s : S) (hI : I s) (hAlong : Along step P es s)
    (hRank : r s ≤ es.length) : G (run step es s) := by
  induction es generalizing s with
  | nil => exact hZero s (Nat.le_zero.mp hRank)
  | cons e es ih =>
    have hNext := hKeep e s hI hAlong.1
    by_cases hG : G s
    · exact (run_invariant (I := fun s => I s ∧ G s)
        (fun e s h hP => ⟨hKeep e s h.1 hP, hStay e s h.1 hP h.2⟩) es _
        ⟨hNext, hStay e s hI hAlong.1 hG⟩ hAlong.2).2
    · have hLess := hNear e s hI hAlong.1 hG
      rw [List.length_cons] at hRank
      exact ih (step e s) hNext hAlong.2 (by omega)

end Runs

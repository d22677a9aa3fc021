import LinkControl.Lib.Run

/-!
# Broadcasts over an unreliable channel

Senders that act, and say something now and then, and a receiver. Whatever has been said stays in
the channel: it may be delivered at any time after, once, often or never, so that messages are
lost, repeated and delayed.

* `said_origin` — whatever is in the channel was said by one act of the senders;
* `channel_invariant` — what senders and receiver keep, the receiver relying on nothing but what
  every message is known to be.
-/

namespace Channels

variable {S E M I R : Type*}

/-- The senders, all that they have said so far, oldest first, and the receiver. -/
structure Channel (S M R : Type*) where
  senders : S
  said : List M
  receiver : R

/-- What can happen: an act of the senders, or that the message in this place is delivered. The
receiver gets some input of its own with it. -/
inductive Happening (E I : Type*) where
  | act (e : E)
  | deliver (k : Nat) (input : I)

/-- What acts do, what is said in an act, and what the receiver makes of a message. -/
structure Rules (S E M I R : Type*) where
  act : E → S → S
  tells : E → S → List M
  hears : M → I → R → R

variable (L : Rules S E M I R)

def step : Happening E I → Channel S M R → Channel S M R
  | .act e, c =>
    { c with senders := L.act e c.senders, said := c.said ++ L.tells e c.senders }
  | .deliver k input, c =>
    match c.said[k]? with
    | none => c
    | some m => { c with receiver := L.hears m input c.receiver }

variable {L} {es : List (Happening E I)} {c : Channel S M R}

/-- **Nothing comes from nowhere.** -/
theorem said_origin {m : M} (h : m ∈ (Runs.run (step L) es c).said) (hNew : m ∉ c.said) :
    ∃ before e after, es = before ++ .act e :: after ∧
      m ∈ L.tells e (Runs.run (step L) before c).senders := by
  obtain ⟨before, e, after, hRun, hNot, hNow⟩ :=
    Runs.exists_change (A := fun c : Channel S M R => m ∈ c.said) hNew h
  cases e with
  | act e => exact ⟨before, e, after, hRun, (List.mem_append.mp hNow).resolve_left hNot⟩
  | deliver k input =>
    refine absurd hNow ?_
    simp only [step]
    split <;> exact hNot

/-- **Channel rule.** `J` is what the senders keep, `Q` what is known of everything they say, and
`K` what the receiver keeps; `K` may speak of what has been said, and is not lost when more is
said. -/
theorem channel_invariant {J : S → Prop} {Q : M → Prop} {K : List M → R → Prop} {P : E → Prop}
    {A : I → Prop} (hAct : ∀ e s, P e → J s → J (L.act e s) ∧ ∀ m ∈ L.tells e s, Q m)
    (hMore : ∀ said more r, K said r → K (said ++ more) r)
    (hHears : ∀ m input said r, A input → m ∈ said → Q m → K said r →
      K said (L.hears m input r))
    (hActs : ∀ e, .act e ∈ es → P e) (hInputs : ∀ k input, .deliver k input ∈ es → A input)
    (hJ : J c.senders) (hQ : ∀ m ∈ c.said, Q m) (hK : K c.said c.receiver) :
    J (Runs.run (step L) es c).senders ∧ (∀ m ∈ (Runs.run (step L) es c).said, Q m) ∧
      K (Runs.run (step L) es c).said (Runs.run (step L) es c).receiver := by
  refine Runs.run_invariant (P := fun x _ => x ∈ es)
    (I := fun c : Channel S M R => J c.senders ∧ (∀ m ∈ c.said, Q m) ∧ K c.said c.receiver)
    (fun x c h hx => ?_) es c ⟨hJ, hQ, hK⟩ ?_
  · obtain ⟨hJ, hQ, hK⟩ := h
    cases x with
    | act e =>
      obtain ⟨hNext, hTells⟩ := hAct e c.senders (hActs e hx) hJ
      refine ⟨hNext, fun m hm => ?_, hMore _ _ _ hK⟩
      rcases List.mem_append.mp hm with hm | hm
      · exact hQ m hm
      · exact hTells m hm
    | deliver k input =>
      simp only [step]
      split
      · exact ⟨hJ, hQ, hK⟩
      · rename_i m hAt
        have hm := List.mem_of_getElem? hAt
        exact ⟨hJ, hQ, hHears m input _ _ (hInputs k input hx) hm (hQ m hm) hK⟩
  · rw [Runs.along_forall_iff]
    exact fun x hx => hx

end Channels

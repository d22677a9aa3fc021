import Mathlib.Data.List.TakeWhile

/-!
# Tokens

What `strtok ()` and a `StringTokenizer` have in common: skip the delimiters, take what is
before the next delimiter. `nextToken` returns the token and the rest of the text, which
starts with the delimiter that ended the token (or is empty).

* `nextToken_append` — a token is found behind any number of delimiters, whatever follows
  the delimiter that ends it;
* `nextToken_none` — there is no token when there are only delimiters;
* `nextToken_some` — every token was found so.

`strtok` is one call of `strtok ()`, which writes a NUL over the delimiter and goes on behind
it the next time. `tokens` are all tokens of a text, as long as the delimiters stay the same
(`tokens_of_nextToken`).
-/

namespace Tokens

variable {α : Type*}

/-- The next token, and the text from the delimiter that ends it on. -/
def nextToken (delim : α → Bool) (s : List α) : Option (List α × List α) :=
  match s.dropWhile delim with
  | [] => none
  | c :: rest => some ((c :: rest).takeWhile (!delim ·), (c :: rest).dropWhile (!delim ·))

/-- `strtok ()`: the token, and what is behind the delimiter that ended it; `none` if it was
the end of the string that ended it, and every later call finds nothing. -/
def strtok (delim : α → Bool) (s : List α) : Option (List α × Option (List α)) :=
  (nextToken delim s).map fun (token, rest) => (token, rest.tail?)

/-- The tokens of a text. -/
def tokens (delim : α → Bool) : List α → List (List α)
  | [] => []
  | c :: s =>
    if delim c then tokens delim s
    else if s.head?.all delim then [c] :: tokens delim s
    else (c :: (tokens delim s).headD []) :: (tokens delim s).tail

variable {delim : α → Bool} {token gap rest s : List α}

/-- A rest that is empty or starts with a delimiter. -/
def Ends (delim : α → Bool) (rest : List α) : Prop := ∀ c ∈ rest.head?, delim c

theorem ends_cons {c : α} (h : delim c) : Ends delim (c :: rest) := by
  intro c' hc
  obtain rfl : c = c' := by simpa using hc
  exact h

theorem takeWhile_append_ends (hToken : ∀ c ∈ token, delim c = false) (hEnds : Ends delim rest) :
    (token ++ rest).takeWhile (!delim ·) = token := by
  have hAll : ∀ c ∈ token, (!delim c) = true := fun c hc => by simp [hToken c hc]
  rw [List.takeWhile_append_of_pos hAll]
  cases rest with
  | nil => simp
  | cons c rest =>
    have hc : delim c = true := hEnds c (by simp)
    simp [hc]

theorem dropWhile_append_ends (hToken : ∀ c ∈ token, delim c = false) (hEnds : Ends delim rest) :
    (token ++ rest).dropWhile (!delim ·) = rest := by
  have hAll : ∀ c ∈ token, (!delim c) = true := fun c hc => by simp [hToken c hc]
  rw [List.dropWhile_append_of_pos hAll]
  cases rest with
  | nil => simp
  | cons c rest =>
    have hc : delim c = true := hEnds c (by simp)
    simp [hc]

/-- A token behind delimiters, and in front of a delimiter or the end. -/
theorem nextToken_append (hGap : ∀ c ∈ gap, delim c) (hNe : token ≠ [])
    (hToken : ∀ c ∈ token, delim c = false) (hEnds : Ends delim rest) :
    nextToken delim (gap ++ token ++ rest) = some (token, rest) := by
  obtain ⟨c, token', rfl⟩ := List.exists_cons_of_ne_nil hNe
  have hDrop : (gap ++ (c :: token') ++ rest).dropWhile delim = c :: (token' ++ rest) := by
    rw [List.append_assoc, List.dropWhile_append_of_pos hGap]
    simp [hToken c]
  unfold nextToken
  rw [hDrop]
  have hTake := takeWhile_append_ends hToken hEnds
  have hRest := dropWhile_append_ends hToken hEnds
  rw [List.cons_append] at hTake hRest
  simp only [hTake, hRest]

/-- `strtok ()` steps over the delimiter behind the token. -/
theorem strtok_append {c : α} (hGap : ∀ c ∈ gap, delim c) (hNe : token ≠ [])
    (hToken : ∀ c ∈ token, delim c = false) (hc : delim c) :
    strtok delim (gap ++ token ++ c :: rest) = some (token, some rest) := by
  rw [strtok, nextToken_append hGap hNe hToken (ends_cons hc)]
  rfl

/-- There is no token left when there are only delimiters left. -/
theorem nextToken_none : nextToken delim s = none ↔ ∀ c ∈ s, delim c := by
  rw [← List.dropWhile_eq_nil_iff, nextToken]
  cases s.dropWhile delim <;> simp

/-- Every token comes out of such a text. -/
theorem nextToken_some (h : nextToken delim s = some (token, rest)) :
    ∃ gap, s = gap ++ token ++ rest ∧ (∀ c ∈ gap, delim c) ∧ token ≠ [] ∧
      (∀ c ∈ token, delim c = false) ∧ Ends delim rest := by
  unfold nextToken at h
  cases hDrop : s.dropWhile delim with
  | nil => simp [hDrop] at h
  | cons c tail =>
    rw [hDrop] at h
    obtain ⟨rfl, rfl⟩ := Prod.mk.inj (Option.some.inj h)
    have hc : delim c = false := by
      have hHead := List.head?_dropWhile_not delim s
      rw [hDrop] at hHead
      simpa using hHead
    refine ⟨s.takeWhile delim, ?_, fun _ => List.mem_takeWhile_imp, ?_, fun x hx => ?_, ?_⟩
    · rw [List.append_assoc, List.takeWhile_append_dropWhile, ← hDrop,
        List.takeWhile_append_dropWhile]
    · simp [hc]
    · simpa using List.mem_takeWhile_imp hx
    · intro x hx
      have hHead := List.head?_dropWhile_not (!delim ·) (c :: tail)
      rw [Option.mem_def.mp hx] at hHead
      simpa using hHead

/-- Delimiters in front of a text add no token. -/
theorem tokens_gap (hGap : ∀ c ∈ gap, delim c) : tokens delim (gap ++ s) = tokens delim s := by
  induction gap with
  | nil => rfl
  | cons c gap ih =>
    rw [List.cons_append, tokens, if_pos (hGap c (List.mem_cons_self ..))]
    exact ih fun x hx => hGap x (List.mem_cons_of_mem _ hx)

/-- The first token, in front of a delimiter or the end. -/
theorem tokens_append (hNe : token ≠ []) (hToken : ∀ c ∈ token, delim c = false)
    (hEnds : Ends delim rest) : tokens delim (token ++ rest) = token :: tokens delim rest := by
  induction token with
  | nil => exact absurd rfl hNe
  | cons c token ih =>
    have hc : delim c = false := hToken c (List.mem_cons_self ..)
    rw [List.cons_append, tokens, if_neg (by simp [hc])]
    cases token with
    | nil =>
      have hAll : rest.head?.all delim = true := by
        rw [Option.all_eq_true]
        exact hEnds
      rw [List.nil_append, if_pos hAll]
    | cons c' token =>
      have hc' : delim c' = false := hToken c' (by simp)
      rw [ih (by simp) fun x hx => hToken x (List.mem_cons_of_mem _ hx)]
      rw [if_neg (by simp [hc'])]
      rfl

/-- A token and the delimiter that ends it. -/
theorem tokens_append_cons {c : α} (hNe : token ≠ []) (hToken : ∀ c ∈ token, delim c = false)
    (hc : delim c) : tokens delim (token ++ c :: rest) = token :: tokens delim rest := by
  rw [tokens_append hNe hToken (ends_cons hc), tokens, if_pos hc]

/-- Nor do delimiters behind it. -/
theorem tokens_append_gap (hGap : ∀ c ∈ gap, delim c) : tokens delim (s ++ gap) = tokens delim s := by
  induction s with
  | nil =>
    have hNone := tokens_gap (s := []) hGap
    rwa [List.append_nil] at hNone
  | cons c s ih =>
    have hHead : (s ++ gap).head?.all delim = s.head?.all delim := by
      cases s with
      | cons c' s => rfl
      | nil =>
        rw [List.nil_append, List.head?_nil, Option.all_none, Option.all_eq_true]
        exact fun x hx => hGap x (List.mem_of_head? hx)
    rw [List.cons_append, tokens, tokens, ih, hHead]

/-- On the two sides of a delimiter. -/
theorem tokens_append_delim {c : α} (hc : delim c) (s t : List α) :
    tokens delim (s ++ c :: t) = tokens delim s ++ tokens delim t := by
  induction s with
  | nil => simp [tokens, hc]
  | cons x s ih =>
    cases s with
    | nil => by_cases hx : delim x <;> simp [tokens, hc, hx]
    | cons y s =>
      have hHead : (y :: s ++ c :: t).head?.all delim = (y :: s).head?.all delim := rfl
      rw [List.cons_append, tokens, tokens.eq_2 delim x (y :: s), ih, hHead]
      by_cases hx : delim x = true
      · rw [if_pos hx, if_pos hx]
      · rw [if_neg hx, if_neg hx]
        by_cases hy : (y :: s).head?.all delim = true
        · rw [if_pos hy, if_pos hy]
          rfl
        · -- the token goes on with the next character
          have hNext : tokens delim (y :: s) ≠ [] := by
            rw [tokens, if_neg (by simpa using hy)]
            split <;> simp
          obtain ⟨token, rest, hTokens⟩ := List.exists_cons_of_ne_nil hNext
          rw [if_neg hy, if_neg hy, hTokens]
          rfl

/-- The tokens are what one call after the other returns. -/
theorem tokens_of_nextToken (h : nextToken delim s = some (token, rest)) :
    tokens delim s = token :: tokens delim rest := by
  obtain ⟨gap, rfl, hGap, hNe, hToken, hEnds⟩ := nextToken_some h
  rw [List.append_assoc, tokens_gap hGap, tokens_append hNe hToken hEnds]

/-- A text of delimiters has no tokens. -/
theorem tokens_eq_nil (h : ∀ c ∈ s, delim c) : tokens delim s = [] := by
  have hGap := tokens_gap (s := []) h
  rwa [List.append_nil] at hGap

/-- A token is at least one character, so the rest is shorter. -/
theorem nextToken_length (h : nextToken delim s = some (token, rest)) :
    rest.length < s.length := by
  obtain ⟨gap, rfl, -, hNe, -, -⟩ := nextToken_some h
  have := List.length_pos_iff.mpr hNe
  simp only [List.length_append]
  omega

/-- No token has a delimiter in it. -/
theorem not_delim_of_mem_tokens (h : token ∈ tokens delim s) : ∀ c ∈ token, delim c = false := by
  induction hLength : s.length using Nat.strong_induction_on generalizing s with
  | _ n ih =>
    cases hNext : nextToken delim s with
    | none =>
      rw [tokens_eq_nil (nextToken_none.mp hNext)] at h
      exact absurd h List.not_mem_nil
    | some next =>
      obtain ⟨first, rest⟩ := next
      rw [tokens_of_nextToken hNext] at h
      rcases List.mem_cons.mp h with rfl | h
      · obtain ⟨_, -, -, -, hToken, -⟩ := nextToken_some hNext
        exact hToken
      · exact ih rest.length (hLength ▸ nextToken_length hNext) h rfl

/-- More text changes the last token only. -/
theorem dropLast_tokens_prefix (delim : α → Bool) (s t : List α) :
    (tokens delim s).dropLast <+: tokens delim (s ++ t) := by
  induction hLength : s.length using Nat.strong_induction_on generalizing s with
  | _ n ih =>
    cases hNext : nextToken delim s with
    | none =>
      rw [tokens_eq_nil (nextToken_none.mp hNext)]
      exact List.nil_prefix
    | some next =>
      obtain ⟨token, rest⟩ := next
      obtain ⟨gap, hText, hGap, hNe, hToken, hEnds⟩ := nextToken_some hNext
      rw [tokens_of_nextToken hNext]
      by_cases hLast : tokens delim rest = []
      · rw [hLast]
        exact List.nil_prefix
      · -- there is more behind the token, so a delimiter ends it whatever comes after
        have hRest : rest ≠ [] := by
          rintro rfl
          exact hLast rfl
        have hEnds' : Ends delim (rest ++ t) := by
          obtain ⟨c, rest, rfl⟩ := List.exists_cons_of_ne_nil hRest
          exact ends_cons (hEnds c rfl)
        have hMore : tokens delim (s ++ t) = token :: tokens delim (rest ++ t) := by
          rw [hText, List.append_assoc, List.append_assoc, tokens_gap hGap,
            tokens_append hNe hToken hEnds']
        rw [hMore, List.dropLast_cons_of_ne_nil hLast]
        exact (List.prefix_cons_inj token).mpr
          (ih rest.length (hLength ▸ nextToken_length hNext) rest rfl)

end Tokens

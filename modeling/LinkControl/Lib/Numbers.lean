import Mathlib.Data.List.TakeWhile
import Mathlib.Data.Char
import Mathlib.Data.Nat.Digits.Defs

/-!
# Numbers in C strings

`strtoul (s, NULL, 0)` on a machine with 64-bit `unsigned long`: white space, a sign, a
base taken from the digits, as many digits as there are. A number that is too large gives
`ULONG_MAX`; a minus sign negates modulo 2^64.

`strtoul_toDigits` says that it reads back what `%d` prints.
-/

namespace Numbers

def ulongMax : Nat := 18446744073709551615

/-- `isspace ()` in the C locale. -/
def isspace (c : Char) : Bool := c ∈ [' ', '\t', '\n', '\x0b', '\x0c', '\r']

/-- The value of a digit in any base up to 36. -/
def digitValue (c : Char) : Option Nat :=
  if '0' ≤ c ∧ c ≤ '9' then some (c.toNat - 48)
  else if 'a' ≤ c ∧ c ≤ 'z' then some (c.toNat - 87)
  else if 'A' ≤ c ∧ c ≤ 'Z' then some (c.toNat - 55)
  else none

def isDigitOf (base : Nat) (c : Char) : Bool := (digitValue c).any (· < base)

/-- The value of the digits a string starts with. -/
def leadingDigits (base : Nat) (s : List Char) : Nat :=
  (s.takeWhile (isDigitOf base)).foldl (fun n c => base * n + (digitValue c).getD 0) 0

/-- The number a string starts with, without a sign: `0x` and a digit for base 16, `0` for
base 8, else base 10. -/
def magnitude : List Char → Nat
  | '0' :: x :: c :: s =>
    if (x = 'x' ∨ x = 'X') ∧ isDigitOf 16 c then leadingDigits 16 (c :: s)
    else leadingDigits 8 ('0' :: x :: c :: s)
  | '0' :: s => leadingDigits 8 ('0' :: s)
  | s => leadingDigits 10 s

/-- `strtoul (s, NULL, 0)` -/
def strtoul (s : List Char) : Nat :=
  match s.dropWhile isspace with
  | '-' :: s =>
    if ulongMax < magnitude s then ulongMax else (ulongMax + 1 - magnitude s) % (ulongMax + 1)
  | '+' :: s => min (magnitude s) ulongMax
  | s => min (magnitude s) ulongMax

/-- What is behind the number a string starts with. -/
def magnitudeEnd : List Char → List Char
  | '0' :: x :: c :: s =>
    if (x = 'x' ∨ x = 'X') ∧ isDigitOf 16 c then (c :: s).dropWhile (isDigitOf 16)
    else ('0' :: x :: c :: s).dropWhile (isDigitOf 8)
  | '0' :: s => ('0' :: s).dropWhile (isDigitOf 8)
  | s => s.dropWhile (isDigitOf 10)

/-- What `strtoul (s, &end, 0)` makes `end` point to: `s` itself if there is no number. -/
def strtoulEnd (s : List Char) : List Char :=
  let number := match s.dropWhile isspace with
    | '-' :: s => s
    | '+' :: s => s
    | s => s
  if (magnitudeEnd number).length = number.length then s else magnitudeEnd number

-- ---------------------------------------------------------------------------
-- Printed numbers
-- ---------------------------------------------------------------------------

theorem isDigit_iff {c : Char} : c.isDigit = true ↔ '0' ≤ c ∧ c ≤ '9' := by
  simp [Char.isDigit, Char.le_def]

theorem digitValue_of_isDigit {c : Char} (h : c.isDigit) : digitValue c = some (c.toNat - 48) :=
  if_pos (isDigit_iff.mp h)

theorem isDigitOf_of_isDigit {c : Char} (h : c.isDigit) : isDigitOf 10 c := by
  have hLe : c.toNat ≤ 57 := (isDigit_iff.mp h).2
  rw [isDigitOf, digitValue_of_isDigit h]
  simp only [Option.any_some, decide_eq_true_eq]
  omega

theorem not_isDigitOf_of_isspace {c : Char} (h : isspace c) (base : Nat) :
    isDigitOf base c = false := by
  have hNone : digitValue c = none := by
    simp only [isspace, decide_eq_true_eq, List.mem_cons, List.not_mem_nil, or_false] at h
    rcases h with rfl | rfl | rfl | rfl | rfl | rfl <;> rfl
  rw [isDigitOf, hNone]
  rfl

/-- The first digit of a number is not `0`, unless it is the only one. -/
theorem head_toDigits {n : Nat} (h : 0 < n) : ∀ c ∈ (Nat.toDigits 10 n).head?, c ≠ '0' := by
  induction n using Nat.strong_induction_on with
  | _ n ih =>
    rw [Nat.toDigits_eq_if (by decide)]
    by_cases hSmall : n < 10
    · rw [if_pos hSmall]
      intro c hc
      obtain rfl : n.digitChar = c := by simpa using hc
      have hAll : ∀ m < 10, 0 < m → m.digitChar ≠ '0' := by decide
      exact hAll n hSmall h
    · rw [if_neg hSmall, List.head?_append,
        Option.or_of_isSome (by simp [List.isSome_head?, Nat.toDigits_ne_nil])]
      exact ih (n / 10) (by omega) (by omega)

variable {rest : List Char}

/-- The digits of a number are read up to the blank behind it. -/
theorem leadingDigits_toDigits (n : Nat) (hRest : ∀ c ∈ rest.head?, isspace c) :
    leadingDigits 10 (Nat.toDigits 10 n ++ rest) = n := by
  have hDigit : ∀ c ∈ Nat.toDigits 10 n, c.isDigit := fun c hc =>
    Nat.isDigit_of_mem_toDigits (by decide) (by decide) hc
  have hTake : (Nat.toDigits 10 n ++ rest).takeWhile (isDigitOf 10) = Nat.toDigits 10 n := by
    rw [List.takeWhile_append_of_pos fun c hc => isDigitOf_of_isDigit (hDigit c hc)]
    cases rest with
    | nil => simp
    | cons c rest => simp [not_isDigitOf_of_isspace (hRest c (by simp))]
  have hFold : ∀ (s : List Char) (m : Nat), (∀ c ∈ s, c.isDigit) →
      s.foldl (fun n c => 10 * n + (digitValue c).getD 0) m = Nat.ofDigitChars 10 s m := by
    intro s
    induction s with
    | nil => simp
    | cons c s ih =>
      intro m hs
      rw [List.foldl_cons, Nat.ofDigitChars_cons, digitValue_of_isDigit (hs c (by simp)),
        ih _ fun x hx => hs x (by simp [hx])]
      rfl
  rw [leadingDigits, hTake, hFold _ _ hDigit, Nat.ofDigitChars_ten_toDigits]

/-- What is printed in decimal is read in decimal. -/
theorem magnitude_toDigits (n : Nat) (hRest : ∀ c ∈ rest.head?, isspace c) :
    magnitude (Nat.toDigits 10 n ++ rest) = n := by
  rcases Nat.eq_zero_or_pos n with rfl | hPos
  · -- the one number that starts with 0 is read as an octal one
    rw [show Nat.toDigits 10 0 = ['0'] from rfl, List.singleton_append]
    have hOctal : leadingDigits 8 ('0' :: rest) = 0 := by
      cases rest with
      | nil => rfl
      | cons c rest =>
        have hStop := not_isDigitOf_of_isspace (hRest c (by simp)) 8
        have hZero : isDigitOf 8 '0' = true := rfl
        simp only [leadingDigits, List.takeWhile_cons, hZero, hStop, if_true, Bool.false_eq_true,
          if_false]
        rfl
    match rest, hRest with
    | [], _ => exact hOctal
    | [c], _ => exact hOctal
    | x :: c :: s, hRest =>
      have hx : isspace x := hRest x (by simp)
      have hNotX : ¬ ((x = 'x' ∨ x = 'X') ∧ isDigitOf 16 c) := by
        intro h
        rcases h.1 with rfl | rfl <;> exact absurd hx (by decide)
      rw [magnitude, if_neg hNotX]
      exact hOctal
  · have hDecimal : magnitude (Nat.toDigits 10 n ++ rest) =
        leadingDigits 10 (Nat.toDigits 10 n ++ rest) := by
      obtain ⟨c, s, hEq⟩ := List.exists_cons_of_ne_nil (Nat.toDigits_ne_nil (n := n) (b := 10))
      have hNe : c ≠ '0' := head_toDigits hPos c (by simp [hEq])
      rw [hEq, List.cons_append, magnitude]
      · intro x c' s' hZero
        exact hNe (List.cons.inj hZero).1
      · intro s' hZero
        exact hNe (List.cons.inj hZero).1
    rw [hDecimal, leadingDigits_toDigits n hRest]

/-- A number is printed in digits. -/
theorem isDigit_of_mem_toDigits {n : Nat} {c : Char} (h : c ∈ Nat.toDigits 10 n) : c.isDigit :=
  Nat.isDigit_of_mem_toDigits (by decide) (by decide) h

theorem not_isspace_of_isDigit {c : Char} (h : c.isDigit) : isspace c = false := by
  by_contra hNot
  have hSpace := not_isDigitOf_of_isspace (c := c) (by simpa using hNot) 10
  rw [isDigitOf_of_isDigit h] at hSpace
  exact absurd hSpace (by simp)

/-- A printed number is read to its end. -/
theorem magnitudeEnd_toDigits (n : Nat) : magnitudeEnd (Nat.toDigits 10 n) = [] := by
  rcases Nat.eq_zero_or_pos n with rfl | hPos
  · rfl
  · obtain ⟨c, s, hEq⟩ := List.exists_cons_of_ne_nil (Nat.toDigits_ne_nil (n := n) (b := 10))
    have hNe : c ≠ '0' := head_toDigits hPos c (by simp [hEq])
    have hAll : (Nat.toDigits 10 n).dropWhile (isDigitOf 10) = [] := by
      rw [List.dropWhile_eq_nil_iff]
      exact fun x hx => isDigitOf_of_isDigit (isDigit_of_mem_toDigits hx)
    rw [hEq] at hAll ⊢
    rw [magnitudeEnd]
    · exact hAll
    · intro x c' s' hZero
      exact hNe (List.cons.inj hZero).1
    · intro s' hZero
      exact hNe (List.cons.inj hZero).1

/-- `strtoul` stops at the end of a number. -/
theorem strtoulEnd_toDigits (n : Nat) : strtoulEnd (Nat.toDigits 10 n) = [] := by
  obtain ⟨c, s, hEq⟩ := List.exists_cons_of_ne_nil (Nat.toDigits_ne_nil (n := n) (b := 10))
  have hDigit : c.isDigit := isDigit_of_mem_toDigits (n := n) (by simp [hEq])
  have hEnd := magnitudeEnd_toDigits n
  rw [hEq] at hEnd ⊢
  unfold strtoulEnd
  rw [List.dropWhile_cons_of_neg (by simp [not_isspace_of_isDigit hDigit])]
  split
  · rename_i hSign
    obtain ⟨rfl, -⟩ := List.cons.inj hSign
    exact absurd hDigit (by decide)
  · rename_i hSign
    obtain ⟨rfl, -⟩ := List.cons.inj hSign
    exact absurd hDigit (by decide)
  · dsimp only
    rw [hEnd, if_neg (by simp)]

/-- A digit is neither white space nor a sign. -/
theorem strtoul_digit {c : Char} (s : List Char) (h : c.isDigit) :
    strtoul (c :: s) = min (magnitude (c :: s)) ulongMax := by
  rw [strtoul, List.dropWhile_cons_of_neg (by simp [not_isspace_of_isDigit h])]
  split
  · rename_i hEq
    obtain ⟨rfl, -⟩ := List.cons.inj hEq
    exact absurd h (by decide)
  · rename_i hEq
    obtain ⟨rfl, -⟩ := List.cons.inj hEq
    exact absurd h (by decide)
  · rfl

/-- A printed number, up to a white space or the end of the string. -/
theorem strtoul_toDigits {n : Nat} (h : n ≤ ulongMax) (hRest : ∀ c ∈ rest.head?, isspace c) :
    strtoul (Nat.toDigits 10 n ++ rest) = n := by
  obtain ⟨c, s, hEq⟩ := List.exists_cons_of_ne_nil (Nat.toDigits_ne_nil (n := n) (b := 10))
  have hDigit : c.isDigit := isDigit_of_mem_toDigits (n := n) (by simp [hEq])
  have hMagnitude := magnitude_toDigits n hRest
  rw [hEq, List.cons_append] at hMagnitude ⊢
  rw [strtoul_digit _ hDigit, hMagnitude]
  omega

/-- A printed negative number. -/
theorem strtoul_neg_toDigits {n : Nat} (h : n ≤ ulongMax) (hRest : ∀ c ∈ rest.head?, isspace c) :
    strtoul ('-' :: Nat.toDigits 10 n ++ rest) = (ulongMax + 1 - n) % (ulongMax + 1) := by
  have hMagnitude := magnitude_toDigits n hRest
  rw [strtoul, List.cons_append, List.dropWhile_cons_of_neg (by decide)]
  show (if ulongMax < magnitude (Nat.toDigits 10 n ++ rest) then ulongMax
    else (ulongMax + 1 - magnitude (Nat.toDigits 10 n ++ rest)) % (ulongMax + 1)) = _
  rw [hMagnitude, if_neg (by omega)]

end Numbers

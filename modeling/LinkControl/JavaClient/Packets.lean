import LinkControl.JavaClient.Definitions

/-!
# Java client — packets and tokens

What the client makes of the texts a server sends, before it looks at what they say. The
NULs that fill the buffer are trimmed away (`trim_decode_packetData`); ASCII comes out of the
decoder as it went in (`decode_append`), and what is around it does not matter
(`decode_ascii_between`); and no token has a delimiter in it.
-/

namespace LinkControl.JavaClient

open Tokens

section DropRight

variable {α : Type*} {p : α → Bool} {l r : List α}

theorem rdropWhile_append_pos (h : ∀ x ∈ r, p x) : (l ++ r).rdropWhile p = l.rdropWhile p := by
  have hReverse : ∀ x ∈ r.reverse, p x := fun x hx => h x (List.mem_reverse.mp hx)
  rw [List.rdropWhile, List.reverse_append, List.dropWhile_append_of_pos hReverse]
  rfl

theorem rdropWhile_append_neg (hNe : l ≠ []) (h : ∀ x ∈ l.getLast?, p x = false) :
    (l ++ r).rdropWhile p = l ++ r.rdropWhile p := by
  obtain ⟨init, x, rfl⟩ : ∃ init x, l = init ++ [x] := ⟨_, _, (List.dropLast_append_getLast hNe).symm⟩
  have hx : p x = false := h x (by simp)
  induction r using List.reverseRecOn with
  | nil => simp [hx]
  | append_singleton r y ih =>
    rw [← List.append_assoc, List.rdropWhile_concat, List.rdropWhile_concat]
    split
    · exact ih
    · rw [List.append_assoc]

theorem rdropWhile_append_of_ne_nil (h : r.rdropWhile p ≠ []) :
    (l ++ r).rdropWhile p = l ++ r.rdropWhile p := by
  induction r using List.reverseRecOn with
  | nil => exact absurd rfl h
  | append_singleton r y ih =>
    rw [← List.append_assoc, List.rdropWhile_concat, List.rdropWhile_concat]
    rw [List.rdropWhile_concat] at h
    split
    · rename_i hy
      rw [if_pos hy] at h
      exact ih h
    · rw [List.append_assoc]

/-- A text that starts with a delimiter does so when its end is dropped, or is empty. -/
theorem ends_rdropWhile {delim : α → Bool} {c : α} (hc : delim c) (p : α → Bool) (rest : List α) :
    Ends delim ((c :: rest).rdropWhile p) := by
  obtain ⟨dropped, hDropped⟩ : (c :: rest).rdropWhile p <+: c :: rest := List.rdropWhile_prefix ..
  intro x hx
  cases hCons : (c :: rest).rdropWhile p with
  | nil => simp [hCons] at hx
  | cons y fields =>
    rw [hCons] at hx hDropped
    obtain rfl : y = x := by simpa using hx
    rw [List.cons_append] at hDropped
    rwa [(List.cons.inj hDropped).1]

end DropRight

variable {J : JavaLang} {a b text : CStr}

-- ---------------------------------------------------------------------------
-- Bytes
-- ---------------------------------------------------------------------------

/-- ASCII in front of a text. -/
theorem decode_append (J : JavaLang) (h : ∀ c ∈ a, c.toNat < 128) :
    J.decode (a ++ b) = a ++ J.decode b := by
  induction a with
  | nil => rfl
  | cons c a ih =>
    have hFirst := J.decode_ascii [] c (a ++ b) (h c (List.mem_cons_self ..))
    rw [List.nil_append, J.decode_nil, List.nil_append] at hFirst
    rw [List.cons_append, hFirst, ih fun x hx => h x (List.mem_cons_of_mem _ hx), List.cons_append]

/-- An ASCII text is decoded to itself. -/
theorem decode_of_ascii (J : JavaLang) (h : ∀ c ∈ a, c.toNat < 128) : J.decode a = a := by
  have hAppend := decode_append J (b := []) h
  rwa [List.append_nil, J.decode_nil, List.append_nil] at hAppend

/-- A text with ASCII in the middle of it. -/
theorem decode_ascii_between (J : JavaLang) {m : CStr} (hNe : m ≠ []) (h : ∀ c ∈ m, c.toNat < 128) :
    J.decode (a ++ m ++ b) = J.decode a ++ m ++ J.decode b := by
  obtain ⟨c, m, rfl⟩ := List.exists_cons_of_ne_nil hNe
  have hRest : ∀ x ∈ m, x.toNat < 128 := fun x hx => h x (List.mem_cons_of_mem _ hx)
  rw [List.append_assoc, List.cons_append, J.decode_ascii a c (m ++ b) (h c (List.mem_cons_self ..)),
    decode_append J hRest]
  simp

/-- Only what comes behind a text that ends visibly can be trimmed off. -/
theorem trim_append (hNe : a ≠ []) (hFirst : ∀ c ∈ a.head?, ¬ c ≤ ' ')
    (hLast : ∀ c ∈ a.getLast?, ¬ c ≤ ' ') : trim (a ++ b) = a ++ b.rdropWhile (· ≤ ' ') := by
  have hDrop : (a ++ b).dropWhile (· ≤ ' ') = a ++ b := by
    obtain ⟨c, a, rfl⟩ := List.exists_cons_of_ne_nil hNe
    have hc : ¬ c ≤ ' ' := hFirst c rfl
    rw [List.cons_append, List.dropWhile_cons_of_neg (by simpa using hc)]
  rw [trim, hDrop, rdropWhile_append_neg hNe fun c hc => by simpa using hLast c hc]

/-- A text that ends in blanks is as good without them. -/
theorem trim_append_blanks (h : ∀ c ∈ b, c ≤ ' ') : trim (a ++ b) = trim a := by
  have hAll : ∀ c ∈ b, decide (c ≤ ' ') = true := fun c hc => by simpa using h c hc
  rw [trim, trim, List.dropWhile_append]
  split
  · rename_i hNone
    rw [List.dropWhile_eq_nil_iff.mpr hAll, List.isEmpty_iff.mp hNone]
  · exact rdropWhile_append_pos hAll

/-- The bytes that the packet has not filled are decoded one by one. -/
theorem decode_append_nuls (J : JavaLang) (n : Nat) :
    J.decode (a ++ List.replicate n '\x00') = J.decode a ++ List.replicate n '\x00' := by
  have hAscii : ∀ k, ∀ c ∈ List.replicate k '\x00', c.toNat < 128 := by
    intro k c hc
    rw [List.eq_of_mem_replicate hc]
    decide
  cases n with
  | zero => simp
  | succ n =>
    have hBetween := decode_ascii_between J (a := a) (b := []) (by simp) (hAscii (n + 1))
    rwa [List.append_nil, J.decode_nil, List.append_nil] at hBetween

/-- The buffer around a datagram is not seen. -/
theorem trim_decode_packetData (J : JavaLang) (h : text.length ≤ Protocol.maxPacketSize) :
    trim (J.decode (packetData text)) = trim (J.decode text) := by
  have hPacket : packetData text =
      text ++ List.replicate (Protocol.maxPacketSize - text.length) '\x00' := by
    rw [packetData, List.take_append, List.take_of_length_le h, List.take_replicate,
      Nat.min_eq_left (Nat.sub_le ..)]
  rw [hPacket, decode_append_nuls]
  refine trim_append_blanks fun c hc => ?_
  rw [List.eq_of_mem_replicate hc]
  decide

/-- An ASCII character that is not in a text is not in what is made of it. -/
theorem not_mem_decode (J : JavaLang) {c : Char} (hAscii : c.toNat < 128) (h : c ∉ a) :
    c ∉ J.decode a := fun hMem => h (J.mem_of_mem_decode a c hAscii hMem)

/-- An ASCII character that is in a text is in what is made of it. -/
theorem mem_decode_of_ascii {name : CStr} {c : Char} (hAscii : c.toNat < 128) (h : c ∈ name) :
    c ∈ J.decode name := by
  obtain ⟨a, b, rfl⟩ := List.append_of_mem h
  rw [J.decode_ascii a c b hAscii]
  simp

-- ---------------------------------------------------------------------------
-- Names
-- ---------------------------------------------------------------------------

/-- Two texts are equal but for case when they fold to the same text. -/
theorem equalsIgnoreCase_iff : equalsIgnoreCase J a b = true ↔ a.map J.fold = b.map J.fold :=
  decide_eq_true_iff

/-- A string without a blank is not equal to one with a blank, whatever the case. -/
theorem not_equalsIgnoreCase_of_blank (ha : ' ' ∉ a) (hb : ' ' ∈ b) :
    equalsIgnoreCase J a b = false := by
  by_contra hEq
  have hFold := equalsIgnoreCase_iff.mp (Bool.not_eq_false _ ▸ hEq)
  have hMem : J.fold ' ' ∈ a.map J.fold := hFold ▸ List.mem_map_of_mem hb
  obtain ⟨c, hc, hSame⟩ := List.mem_map.mp hMem
  exact ha (J.fold_space c hSame ▸ hc)

end LinkControl.JavaClient

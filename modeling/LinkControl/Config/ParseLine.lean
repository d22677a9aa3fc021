import LinkControl.Config.Lines

/-!
# The section parsers — what `parse_line` accepts

`OptionLine` is the grammar of a line with an option, `Unterminated` the lines whose value
starts with a quote that nothing closes. `parse_line` takes the former apart as it should
(`parseLine_optionLine`). What it makes of the others depends on where it stops:

* without a separator it returns 0 and has set nothing;
* without a value it returns -1 and has set the name, while its caller in
  `parse_device_section` goes on to free the name and the value;
* an unterminated quote makes it ask for `NULL - pos + 1` bytes. If it gets none it
  returns -1 with the value set to NULL, else it copies from the whole memory.

`parse_line_iff` says for which sequences of lines all is well.
-/

namespace LinkControl

open CString

-- ---------------------------------------------------------------------------
-- The grammar
-- ---------------------------------------------------------------------------

/-- No character of the text is one of these. -/
def Free (accept : List Char) (text : CStr) : Prop := ∀ c ∈ text, c ∉ accept

instance (accept : List Char) (text : CStr) : Decidable (Free accept text) :=
  inferInstanceAs (Decidable (∀ c ∈ text, c ∉ accept))

/-- A name that a space, a tab or `=` ends, and behind it, whichever comes first, a quoted
string or a number that goes on to the end of the line. -/
inductive OptionLine : (line name value : CStr) → Prop where
  | quoted {name between value : CStr} {sep : Char} (tail : CStr) (hName : Free separators name)
      (hSep : sep ∈ separators) (hBetween : Free valueStarts between) (hValue : '"' ∉ value) :
      OptionLine (name ++ sep :: (between ++ '"' :: (value ++ '"' :: tail))) name value
  | number {name between : CStr} {sep digit : Char} (rest : CStr) (hName : Free separators name)
      (hSep : sep ∈ separators) (hBetween : Free valueStarts between) (hDigit : digit.isDigit) :
      OptionLine (name ++ sep :: (between ++ digit :: rest)) name (digit :: rest)

/-- A line whose value starts with a quote and never ends. -/
def Unterminated (line : CStr) : Prop :=
  ∃ name sep between text, line = name ++ sep :: (between ++ '"' :: text) ∧
    Free separators name ∧ sep ∈ separators ∧ Free valueStarts between ∧ '"' ∉ text

/-- There is memory for what a line is made into. The number of bytes for an unterminated value
is one that no `malloc ()` can be relied on to grant. -/
structure Granted (m : LineMemory) (text : CStr) : Prop where
  line : m.line = true
  name : m.name = true
  value : ¬ Unterminated text → m.value = true

/-- The call returns 0 for a line with an option, with both its strings, and a negative number
for every other line; it does not crash. -/
def ParsesProperly (parse : LineMemory → CStr → Option (Int × CharPtr × CharPtr)) (m : LineMemory)
    (line : CStr) : Prop :=
  ∃ result name value, parse m line = some (result, name, value) ∧
    (result = 0 ↔ ∃ n v, OptionLine line n v) ∧
    (∀ n v, OptionLine line n v → name = .string n ∧ value = .string v) ∧
    ((¬ ∃ n v, OptionLine line n v) → result < 0)

/-- The turn of `parse_device_section` reads and frees only what this call has set: it gets by
where the pointers that the turns before have left are of no use. -/
def UsesOwn (m : LineMemory) (line : CStr) : Prop :=
  ∀ sec, (parseDeviceLine m line (sec, unset)).isSome

/-- All is well with the line. -/
def WellHandled (m : LineMemory) (line : CStr) : Prop :=
  (∃ n v, OptionLine line n v) ∨ (Unterminated line ∧ m.value = false)

-- ---------------------------------------------------------------------------
-- The grammar and the searches
-- ---------------------------------------------------------------------------

/-- What is behind the name, from the start of the value on. -/
def lineRest (line : CStr) : CStr := (line.dropWhile (· ∉ separators)).dropWhile (· ∉ valueStarts)

variable {line name value between : CStr} {sep : Char}

theorem takeWhile_free {accept text : List Char} (h : Free accept text) {c : Char}
    (hc : c ∈ accept) (rest : List Char) :
    (text ++ c :: rest).takeWhile (· ∉ accept) = text ∧
      (text ++ c :: rest).dropWhile (· ∉ accept) = c :: rest := by
  have hAll : ∀ x ∈ text, decide (x ∉ accept) = true := fun x hx => decide_eq_true (h x hx)
  constructor
  · rw [List.takeWhile_append_of_pos hAll]
    simp [hc]
  · rw [List.dropWhile_append_of_pos hAll]
    simp [hc]

theorem free_takeWhile (accept text : List Char) :
    Free accept (text.takeWhile (· ∉ accept)) := by
  intro c hc
  simpa using List.mem_takeWhile_imp hc

/-- No separator starts a value. -/
theorem separator_notMem_valueStarts (hSep : sep ∈ separators) : sep ∉ valueStarts := by
  have hAll : ∀ c ∈ separators, c ∉ valueStarts := by decide
  exact hAll sep hSep

theorem mem_valueStarts {c : Char} : c ∈ valueStarts ↔ c = '"' ∨ c.isDigit := by
  have hDigit : c.isDigit ↔ c ∈ "0123456789".toList := by
    constructor
    · intro h
      have hLow : 48 ≤ c.toNat := (Numbers.isDigit_iff.mp h).1
      have hHigh : c.toNat ≤ 57 := (Numbers.isDigit_iff.mp h).2
      have hChar := Char.ofNat_toNat c
      generalize c.toNat = n at hLow hHigh hChar
      subst hChar
      have hAll : ∀ n < 58, 48 ≤ n → Char.ofNat n ∈ "0123456789".toList := by decide
      exact hAll n (by omega) hLow
    · have hAll : ∀ c ∈ "0123456789".toList, c.isDigit = true := by decide
      exact hAll c
  rw [hDigit, show valueStarts = '"' :: "0123456789".toList from rfl, List.mem_cons]

/-- A line is its name, the separator, what is between them and the start of the value, and
the rest. -/
theorem lineRest_append (hName : Free separators name) (hSep : sep ∈ separators)
    (hBetween : Free valueStarts between) {c : Char} (hc : c ∈ valueStarts) (rest : CStr) :
    lineName (name ++ sep :: (between ++ c :: rest)) = name ∧
      lineRest (name ++ sep :: (between ++ c :: rest)) = c :: rest := by
  have hFree : Free valueStarts (sep :: between) := by
    intro x hx
    rcases List.mem_cons.mp hx with rfl | hx
    · exact separator_notMem_valueStarts hSep
    · exact hBetween x hx
  refine ⟨(takeWhile_free hName hSep _).1, ?_⟩
  unfold lineRest
  rw [(takeWhile_free hName hSep _).2, ← List.cons_append]
  exact (takeWhile_free hFree hc rest).2

/-- The other way round: a line with a start of a value is of that form. -/
theorem line_eq_append {c : Char} {rest : CStr} (h : lineRest line = c :: rest) :
    c ∈ valueStarts ∧ ∃ sep between, line = lineName line ++ sep :: (between ++ c :: rest) ∧
      sep ∈ separators ∧ Free valueStarts between := by
  have hName : lineName line ++ line.dropWhile (· ∉ separators) = line :=
    List.takeWhile_append_dropWhile
  have hStart : c ∈ valueStarts := by
    have hHead := List.head?_dropWhile_not (· ∉ valueStarts) (line.dropWhile (· ∉ separators))
    rw [show (line.dropWhile (· ∉ separators)).dropWhile (· ∉ valueStarts) = c :: rest from h]
      at hHead
    simpa using hHead
  refine ⟨hStart, ?_⟩
  cases hTail : line.dropWhile (· ∉ separators) with
  | nil =>
    rw [lineRest, hTail] at h
    exact absurd h (by simp)
  | cons sep tail =>
    have hSep : sep ∈ separators := by
      have hHead := List.head?_dropWhile_not (· ∉ separators) line
      rw [hTail] at hHead
      simpa using hHead
    have hRest : tail.dropWhile (· ∉ valueStarts) = c :: rest := by
      rw [lineRest, hTail, List.dropWhile_cons_of_pos
        (by simpa using separator_notMem_valueStarts hSep)] at h
      exact h
    refine ⟨sep, tail.takeWhile (· ∉ valueStarts), ?_, hSep, free_takeWhile _ _⟩
    rw [← hRest, List.takeWhile_append_dropWhile, ← hTail, hName]

/-- A value is quoted, or it is a number up to the end of the line. -/
theorem lineValue_eq (line : CStr) : lineValue line = match lineRest line with
    | [] => none
    | '"' :: text => if '"' ∈ text then some (text.takeWhile (· ≠ '"')) else none
    | number => some number := rfl

/-- The grammar says what the searches find. -/
theorem optionLine_iff :
    OptionLine line name value ↔ lineName line = name ∧ lineValue line = some value := by
  rw [lineValue_eq]
  constructor
  · intro h
    cases h with
    | quoted tail hName hSep hBetween hValue =>
      obtain ⟨hEq, hRest⟩ := lineRest_append hName hSep hBetween (by decide : '"' ∈ valueStarts)
        (value ++ '"' :: tail)
      refine ⟨hEq, ?_⟩
      rw [hRest]
      have hTake : (value ++ '"' :: tail).takeWhile (· ≠ '"') = value := by
        rw [List.takeWhile_append_of_pos]
        · simp
        · exact fun c hc => decide_eq_true fun hEq => hValue (hEq ▸ hc)
      show (if '"' ∈ value ++ '"' :: tail then some ((value ++ '"' :: tail).takeWhile (· ≠ '"'))
        else none) = _
      rw [if_pos (by simp), hTake]
    | @number _ between sep digit rest hName hSep hBetween hDigit =>
      obtain ⟨hEq, hRest⟩ := lineRest_append hName hSep hBetween
        (mem_valueStarts.mpr (Or.inr hDigit)) rest
      refine ⟨hEq, ?_⟩
      rw [hRest]
      split
      · rename_i hNil
        exact absurd hNil (by simp)
      · rename_i hQuote
        obtain ⟨rfl, -⟩ := List.cons.inj hQuote
        exact absurd hDigit (by decide)
      · rfl
  · intro h
    obtain ⟨rfl, hValue⟩ := h
    have hName : Free separators (lineName line) := free_takeWhile _ _
    cases hRest : lineRest line with
    | nil => simp [hRest] at hValue
    | cons c rest =>
      obtain ⟨hStart, sep, between, hLine, hSep, hBetween⟩ := line_eq_append hRest
      rw [hRest] at hValue
      rcases mem_valueStarts.mp hStart with rfl | hDigit
      · simp only [Option.ite_none_right_eq_some, Option.some.injEq] at hValue
        obtain ⟨hQuote, rfl⟩ := hValue
        have hSplit : rest = rest.takeWhile (· ≠ '"') ++ '"' :: (rest.dropWhile (· ≠ '"')).tail := by
          cases hTail : rest.dropWhile (· ≠ '"') with
          | nil =>
            rw [List.dropWhile_eq_nil_iff] at hTail
            exact absurd (hTail _ hQuote) (by simp)
          | cons c tail =>
            have hHead := List.head?_dropWhile_not (· ≠ '"') rest
            rw [hTail] at hHead
            obtain rfl : c = '"' := by simpa using hHead
            rw [List.tail_cons, ← hTail, List.takeWhile_append_dropWhile]
        have hNoQuote : '"' ∉ rest.takeWhile (· ≠ '"') := fun hMem => by
          simpa using List.mem_takeWhile_imp hMem
        rw [hSplit] at hLine
        have hOption := OptionLine.quoted (rest.dropWhile (· ≠ '"')).tail hName hSep hBetween hNoQuote
        rwa [← hLine] at hOption
      · have hNumber : value = c :: rest := by
          split at hValue
          · rename_i hNil
            exact absurd hNil (by simp)
          · rename_i hQuote
            obtain ⟨rfl, -⟩ := List.cons.inj hQuote
            exact absurd hDigit (by decide)
          · exact (Option.some.inj hValue).symm
        have hOption := OptionLine.number rest hName hSep hBetween hDigit
        rwa [← hLine, ← hNumber] at hOption

/-- An unterminated line has no value. -/
theorem unterminated_iff : Unterminated line ↔ ∃ text, lineRest line = '"' :: text ∧ '"' ∉ text := by
  constructor
  · intro h
    obtain ⟨name, sep, between, text, rfl, hName, hSep, hBetween, hQuote⟩ := h
    exact ⟨text, (lineRest_append hName hSep hBetween (by decide) text).2, hQuote⟩
  · intro h
    obtain ⟨text, hRest, hQuote⟩ := h
    obtain ⟨-, sep, between, hLine, hSep, hBetween⟩ := line_eq_append hRest
    exact ⟨_, sep, between, text, hLine, free_takeWhile _ _, hSep, hBetween, hQuote⟩

/-- A line without a value is no option line. -/
theorem not_optionLine_of_none (h : lineValue line = none) : ¬ ∃ n v, OptionLine line n v := by
  intro hOption
  obtain ⟨n, v, hLine⟩ := hOption
  rw [(optionLine_iff.mp hLine).2] at h
  exact absurd h (by simp)

/-- A line has no separator, or no value, or a value that does not end, or it is a line with an
option. -/
theorem line_cases (line : CStr) :
    Free separators line ∨ (¬ Free separators line ∧ lineRest line = []) ∨ Unterminated line ∨
      ∃ n v, OptionLine line n v := by
  by_cases hFree : Free separators line
  · exact Or.inl hFree
  cases hRest : lineRest line with
  | nil => exact Or.inr (Or.inl ⟨hFree, rfl⟩)
  | cons c rest =>
    obtain ⟨hStart, -⟩ := line_eq_append hRest
    rcases mem_valueStarts.mp hStart with rfl | hDigit
    · by_cases hQuote : '"' ∈ rest
      · refine Or.inr (Or.inr (Or.inr ⟨_, rest.takeWhile (· ≠ '"'), optionLine_iff.mpr ⟨rfl, ?_⟩⟩))
        rw [lineValue_eq, hRest]
        exact if_pos hQuote
      · exact Or.inr (Or.inr (Or.inl (unterminated_iff.mpr ⟨rest, hRest, hQuote⟩)))
    · refine Or.inr (Or.inr (Or.inr ⟨_, c :: rest, optionLine_iff.mpr ⟨rfl, ?_⟩⟩))
      rw [lineValue_eq, hRest]
      split
      · rename_i hNil
        exact absurd hNil (by simp)
      · rename_i hQuote
        obtain ⟨rfl, -⟩ := List.cons.inj hQuote
        exact absurd hDigit (by decide)
      · rfl

-- ---------------------------------------------------------------------------
-- One call
-- ---------------------------------------------------------------------------

variable {m : LineMemory}

/-- A line without a separator sets neither pointer. -/
theorem parseLine_of_free (h : Free separators line) : parseLine m line = some (0, .stale, .stale) := by
  have hNone : strpbrk separators line = none := by
    rw [strpbrk, List.findIdx?_eq_none_iff]
    exact fun c hc => decide_eq_false (h c hc)
  unfold parseLine
  rw [hNone]

/-- What `parse_line` does with a line that has a separator. -/
theorem parseLine_of_not_free (h : ¬ Free separators line) (hName : m.name = true) :
    parseLine m line = match lineRest line with
      | [] => some (-1, .string (lineName line), .stale)
      | '"' :: text =>
        match strpbrk ['"'] text with
        | none => if m.value then none else some (-1, .string (lineName line), .null)
        | some len =>
          some (if m.value then (0, .string (lineName line), .string (text.take len))
            else (-1, .string (lineName line), .null))
      | number =>
        some (if m.value then (0, .string (lineName line), .string number)
          else (-1, .string (lineName line), .null)) := by
  unfold parseLine
  cases hSeparator : strpbrk separators line with
  | none => exact absurd (strpbrk_none hSeparator) h
  | some n =>
    obtain ⟨hTake, hDrop, -⟩ := strpbrk_some hSeparator
    have hLineName : lineName line = line.take n := hTake
    dsimp only
    rw [if_pos hName, hLineName]
    cases hStart : strpbrk valueStarts (line.drop n) with
    | none =>
      have hNil : lineRest line = [] := by
        rw [lineRest, hDrop, List.dropWhile_eq_nil_iff]
        exact fun c hc => decide_eq_true (strpbrk_none hStart c hc)
      rw [hNil]
    | some k =>
      have hRest : lineRest line = line.drop (n + k) := by
        rw [lineRest, hDrop, (strpbrk_some hStart).2.1, List.drop_drop]
      have hLt := (strpbrk_some hStart).2.2
      rw [List.length_drop] at hLt
      rw [hRest]
      dsimp only
      cases hTail : line.drop (n + k) with
      | nil =>
        have hLength := congrArg List.length hTail
        rw [List.length_drop, List.length_nil] at hLength
        omega
      | cons c rest =>
        by_cases hQuote : c = '"'
        · subst hQuote
          rfl
        · simp [hQuote]

theorem not_free_of_lineRest {c : Char} {rest : CStr} (h : lineRest line = c :: rest) :
    ¬ Free separators line := by
  obtain ⟨-, sep, between, hLine, hSep, -⟩ := line_eq_append h
  intro hFree
  refine hFree sep ?_ hSep
  rw [hLine]
  simp

/-- An unterminated value is an error if its bytes are refused, and goes wrong if they are
granted. -/
theorem parseLine_unterminated (h : Unterminated line) (hName : m.name = true) :
    parseLine m line =
      if m.value then none else some (-1, .string (lineName line), .null) := by
  obtain ⟨text, hRest, hQuote⟩ := unterminated_iff.mp h
  have hNone : strpbrk ['"'] text = none := by
    rw [strpbrk, List.findIdx?_eq_none_iff]
    intro c hc
    simpa using fun hEq : c = '"' => hQuote (hEq ▸ hc)
  rw [parseLine_of_not_free (not_free_of_lineRest hRest) hName, hRest]
  simp only [hNone]

/-- A line with an option, when there is memory for the name. -/
theorem parseLine_optionLine (h : OptionLine line name value) (hName : m.name = true) :
    parseLine m line =
      some (if m.value then (0, .string name, .string value) else (-1, .string name, .null)) := by
  obtain ⟨rfl, hText⟩ := optionLine_iff.mp h
  rw [lineValue_eq] at hText
  cases hRest : lineRest line with
  | nil =>
    rw [hRest] at hText
    exact absurd hText (by simp)
  | cons c rest =>
    rw [parseLine_of_not_free (not_free_of_lineRest hRest) hName, hRest]
    rw [hRest] at hText
    by_cases hQuote : c = '"'
    · subst hQuote
      simp only [quoted_eq] at hText ⊢
      obtain ⟨len, hLen, rfl⟩ := Option.map_eq_some_iff.mp hText
      simp only [hLen]
    · have hNumber : value = c :: rest := by simpa [hQuote] using hText.symm
      rw [hNumber]
      simp [hQuote]

/-- Without memory for the name no line with a separator gets further. -/
theorem parseLine_of_not_name (h : ¬ Free separators line) (hName : m.name = false) :
    parseLine m line = some (-1, .null, .stale) := by
  unfold parseLine
  cases hSeparator : strpbrk separators line with
  | none => exact absurd (strpbrk_none hSeparator) h
  | some n => simp [hName]

/-- An option line has a separator. -/
theorem not_free_of_optionLine (h : OptionLine line name value) : ¬ Free separators line := by
  intro hFree
  cases h with
  | @quoted _ _ _ sep _ _ hSep => exact hFree sep (by simp) hSep
  | @number _ _ sep _ _ _ hSep => exact hFree sep (by simp) hSep

-- ---------------------------------------------------------------------------
-- One line and the loop
-- ---------------------------------------------------------------------------

/-- A line with an option is not one whose value never ends. -/
theorem value_of_optionLine (h : Granted m line) (hOption : OptionLine line name value) :
    m.value = true := by
  refine h.value fun hOpen => ?_
  obtain ⟨text, hRest, hQuote⟩ := unterminated_iff.mp hOpen
  have hNone : lineValue line = none := by
    rw [lineValue_eq, hRest]
    exact if_neg hQuote
  rw [(optionLine_iff.mp hOption).2] at hNone
  exact absurd hNone (by simp)

theorem ne_nil_of_not_free (h : ¬ Free separators line) : line ≠ [] := by
  rintro rfl
  exact h fun c hc => absurd hc List.not_mem_nil

/-- Whatever the turns before have left, a turn with a line that is well handled comes to its
end. -/
theorem turn_of_wellHandled (h : Granted m line) (hWell : WellHandled m line)
    (x : DeviceSection × LinePointers) : (parseDeviceLine m line x).isSome := by
  rcases hWell with ⟨n, v, hOption⟩ | ⟨hOpen, hValue⟩
  · have hLine := ne_nil_of_not_free (not_free_of_optionLine hOption)
    have hParse := parseLine_optionLine hOption h.name
    rw [if_pos (value_of_optionLine h hOption)] at hParse
    cases hSet : deviceOption n <;>
      simp [parseDeviceLine, hLine, hParse, setOption, hSet, CharPtr.after, LinePointers.free, free]
  · obtain ⟨text, hRest, -⟩ := unterminated_iff.mp hOpen
    have hLine := ne_nil_of_not_free (not_free_of_lineRest hRest)
    have hParse := parseLine_unterminated hOpen h.name
    rw [if_neg (by simp [hValue])] at hParse
    simp [parseDeviceLine, hLine, hParse, CharPtr.after, LinePointers.free, free]

/-- The four shapes of a line: what the call returns, and what the turn of
`parse_device_section` uses. -/
theorem parsesProperly_iff (h : Granted m line) :
    (ParsesProperly parseLine m line ∧ UsesOwn m line) ↔ WellHandled m line := by
  rcases line_cases line with hFree | ⟨hFree, hNil⟩ | hOpen | ⟨n, v, hOption⟩
  · -- no separator: 0 is returned
    have hNone : lineValue line = none := by
      have hDrop : line.dropWhile (· ∉ separators) = [] := by
        rw [List.dropWhile_eq_nil_iff]
        exact fun c hc => decide_eq_true (hFree c hc)
      rw [lineValue_eq, lineRest, hDrop]
      rfl
    have hNot := not_optionLine_of_none hNone
    refine iff_of_false (fun hBoth => ?_) fun hWell => ?_
    · obtain ⟨result, _, _, hParse, -, -, hNegative⟩ := hBoth.1
      rw [parseLine_of_free hFree] at hParse
      obtain ⟨rfl, -⟩ := Prod.mk.inj (Option.some.inj hParse)
      exact absurd (hNegative hNot) (by decide)
    · rcases hWell with hOption | ⟨hOpen, -⟩
      · exact hNot hOption
      · obtain ⟨text, hRest, -⟩ := unterminated_iff.mp hOpen
        exact not_free_of_lineRest hRest hFree
  · -- no value: the value is freed all the same
    have hNone : lineValue line = none := by
      rw [lineValue_eq, hNil]
    have hParse := parseLine_of_not_free (m := m) hFree h.name
    rw [hNil] at hParse
    refine iff_of_false (fun hBoth => ?_) fun hWell => ?_
    · have hCrash : parseDeviceLine m line (.empty, unset) = none := by
        simp [parseDeviceLine, ne_nil_of_not_free hFree, hParse, CharPtr.after, unset,
          LinePointers.free, free]
      have hOwn := hBoth.2 .empty
      rw [hCrash] at hOwn
      exact absurd hOwn (by simp)
    · rcases hWell with hOption | ⟨hOpen, -⟩
      · exact not_optionLine_of_none hNone hOption
      · obtain ⟨text, hRest, -⟩ := unterminated_iff.mp hOpen
        rw [hNil] at hRest
        exact absurd hRest (by simp)
  · -- an unterminated quote: all depends on malloc ()
    obtain ⟨text, hRest, hQuote⟩ := unterminated_iff.mp hOpen
    have hNone : lineValue line = none := by
      rw [lineValue_eq, hRest]
      exact if_neg hQuote
    have hNot := not_optionLine_of_none hNone
    have hParse := parseLine_unterminated hOpen h.name
    cases hValue : m.value with
    | true =>
      refine iff_of_false (fun hBoth => ?_) fun hWell => ?_
      · obtain ⟨_, _, _, hSome, -⟩ := hBoth.1
        rw [hParse, if_pos hValue] at hSome
        exact absurd hSome (by simp)
      · rcases hWell with hOption | ⟨-, hFails⟩
        · exact hNot hOption
        · exact absurd (hValue.symm.trans hFails) (by decide)
    | false =>
      rw [if_neg (by simp [hValue])] at hParse
      have hWell : WellHandled m line := Or.inr ⟨hOpen, hValue⟩
      exact iff_of_true ⟨⟨-1, _, _, hParse, iff_of_false (by decide) hNot, fun n v hOption =>
        absurd ⟨n, v, hOption⟩ hNot, fun _ => by decide⟩,
        fun sec => turn_of_wellHandled h hWell (sec, unset)⟩ hWell
  · -- a line with an option
    have hEq := optionLine_iff.mp hOption
    have hParse := parseLine_optionLine hOption h.name
    rw [if_pos (value_of_optionLine h hOption)] at hParse
    have hWell : WellHandled m line := Or.inl ⟨n, v, hOption⟩
    refine iff_of_true ⟨⟨0, _, _, hParse, iff_of_true rfl ⟨n, v, hOption⟩, ?_, ?_⟩,
      fun sec => turn_of_wellHandled h hWell (sec, unset)⟩ hWell
    · intro n' v' hSame
      obtain ⟨rfl, hValue⟩ := optionLine_iff.mp hSame
      rw [hEq.2] at hValue
      obtain rfl := Option.some.inj hValue
      exact ⟨congrArg CharPtr.string hEq.1.symm, rfl⟩
    · exact fun hNot => absurd ⟨n, v, hOption⟩ hNot

/-- The loop goes through lines that are all well handled. -/
theorem fold_of_wellHandled {lines : List (LineMemory × CStr)} (h : ∀ x ∈ lines, Granted x.1 x.2)
    (hWell : ∀ x ∈ lines, WellHandled x.1 x.2) (x : DeviceSection × LinePointers) :
    (lines.foldlM (lineTurn parseDeviceLine) x).isSome := by
  induction lines generalizing x with
  | nil => rfl
  | cons y lines ih =>
    have hGranted := h y (List.mem_cons_self ..)
    obtain ⟨x', hTurn⟩ := Option.isSome_iff_exists.mp
      (turn_of_wellHandled hGranted (hWell y (List.mem_cons_self ..)) x)
    have hStep : lineTurn parseDeviceLine x y = some x' := (if_pos hGranted.line).trans hTurn
    rw [List.foldlM_cons, hStep]
    exact ih (fun z hz => h z (List.mem_cons_of_mem _ hz))
      (fun z hz => hWell z (List.mem_cons_of_mem _ hz)) x'

/-- **What `parse_line` accepts, and what becomes of the rest.** For lines that there is memory
for, the calls of `parse_line` take the lines with an option apart, refuse all others, and the
loop of `parse_device_section` neither reads nor frees a pointer that this call has not set, and
goes through all the lines, if and only if every line is one with an option, or one with an
unterminated value for which `malloc` refuses the bytes. -/
theorem parse_line_iff (lines : List (LineMemory × CStr)) (x : DeviceSection × LinePointers)
    (h : ∀ x ∈ lines, Granted x.1 x.2) :
    ((∀ x ∈ lines, ParsesProperly parseLine x.1 x.2 ∧ ParsesProperly LinuxClient.parseLine x.1 x.2 ∧
        ParsesProperly Peer.parseLine x.1 x.2) ∧
      (∀ x ∈ lines, UsesOwn x.1 x.2) ∧ (lines.foldlM (lineTurn parseDeviceLine) x).isSome) ↔
      ∀ x ∈ lines, WellHandled x.1 x.2 := by
  constructor
  · intro hAll y hy
    exact (parsesProperly_iff (h y hy)).mp ⟨(hAll.1 y hy).1, hAll.2.1 y hy⟩
  · intro hWell
    refine ⟨fun y hy => ?_, fun y hy => ?_, fold_of_wellHandled h hWell x⟩
    · have hParse := ((parsesProperly_iff (h y hy)).mpr (hWell y hy)).1
      exact ⟨hParse, hParse, hParse⟩
    · exact ((parsesProperly_iff (h y hy)).mpr (hWell y hy)).2

/-- A section of three lines; the second is refused, and the NULL that is left of its value does
not disturb the third. -/
def threeLines : List (LineMemory × CStr) :=
  [((plenty []).lines 0, "name = \"ppp0\"".toList),
    (⟨[], true, true, false, true⟩, "description = \"a modem".toList),
    ((plenty []).lines 2, "retries = 3".toList)]

/-- A line with a value, a line whose quote is never closed, and another one: the second fails
as it should, and does not disturb the third. -/
theorem parse_line_accepts :
    ((∀ x ∈ threeLines, ParsesProperly parseLine x.1 x.2 ∧
        ParsesProperly LinuxClient.parseLine x.1 x.2 ∧ ParsesProperly Peer.parseLine x.1 x.2) ∧
      (∀ x ∈ threeLines, UsesOwn x.1 x.2) ∧
      (threeLines.foldlM (lineTurn parseDeviceLine) (.empty, unset)).isSome) ∧
    (threeLines.foldlM (lineTurn parseDeviceLine) (.empty, unset)).map Prod.fst =
      some { DeviceSection.empty with name := some "ppp0".toList } := by
  have hName : OptionLine "name = \"ppp0\"".toList "name".toList "ppp0".toList :=
    optionLine_iff.mpr (by decide)
  have hOpen : Unterminated "description = \"a modem".toList :=
    unterminated_iff.mpr ⟨"a modem".toList, by decide, by decide⟩
  have hRetries : OptionLine "retries = 3".toList "retries".toList "3".toList :=
    optionLine_iff.mpr (by decide)
  refine ⟨(parse_line_iff threeLines (.empty, unset) ?_).mpr ?_, rfl⟩
  · simp only [threeLines, List.forall_mem_cons, List.not_mem_nil, false_implies, implies_true,
      and_true]
    exact ⟨⟨rfl, rfl, fun _ => rfl⟩, ⟨rfl, rfl, fun hNot => absurd hOpen hNot⟩,
      ⟨rfl, rfl, fun _ => rfl⟩⟩
  · simp only [threeLines, List.forall_mem_cons, List.not_mem_nil, false_implies, implies_true,
      and_true]
    exact ⟨Or.inl ⟨_, _, hName⟩, Or.inr ⟨hOpen, rfl⟩, Or.inl ⟨_, _, hRetries⟩⟩

/-- A line without a separator is accepted, with nothing set; a line without a value is refused,
but its value is freed all the same; and behind an unterminated quote everything is copied. -/
theorem parse_line_stale :
    parseLine ((plenty []).lines 0) "name".toList = some (0, .stale, .stale) ∧
    ¬ ParsesProperly parseLine ((plenty []).lines 0) "name".toList ∧
    parseLine ((plenty []).lines 0) "name = ppp".toList = some (-1, .string "name".toList, .stale) ∧
    parseDeviceLine ((plenty []).lines 0) "name = ppp".toList (.empty, unset) = none ∧
    parseLine ((plenty []).lines 0) "name = \"ppp0".toList = none := by
  refine ⟨by decide, ?_, by decide, by decide, by decide⟩
  intro h
  obtain ⟨result, name, value, hParse, -, -, hNegative⟩ := h
  have hZero : parseLine ((plenty []).lines 0) "name".toList = some (0, .stale, .stale) := by decide
  rw [hZero] at hParse
  obtain ⟨rfl, -⟩ := Prod.mk.inj (Option.some.inj hParse)
  exact absurd (hNegative (not_optionLine_of_none (by decide))) (by decide)

end LinkControl

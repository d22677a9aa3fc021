import LinkControl.Config.Sections

/-!
# The section parsers — how a block is cut into lines

All section parsers search for the end of a line from its second character on. An empty
line has none: the search goes on in the next line, which is then handed over with a newline
in front, and behind the last line it starts past the NUL that ends the block, unless that
line is empty.

* `SectionParser` — the four of them; `walk` is what one has handed to `parse_line` and looked
  at when it ends or crashes.
* `SplitsInto` — a parser cuts the block as it should, within its bounds, to the end.
* `section_lines_iff` — exactly the blocks with one empty line, at their end, are cut so, if no
  line crashes the parser and there is memory; then the lines that are not empty decide the
  settings.
-/

namespace LinkControl

open CString

-- ---------------------------------------------------------------------------
-- What is handed over and what is looked at
-- ---------------------------------------------------------------------------

/-- What the loop of a section parser has done when it ends, or crashes: the lines that it has
given to `parse_line`, and the last character that its searches have come to. -/
structure LineWalk where
  handed : List CStr
  inspected : Nat
deriving DecidableEq, Repr

section Walk

variable {σ : Type} (turn : LineMemory → CStr → σ → Option σ)

/-- What the loop of `parseSectionLines` does, from line `i` on. -/
def walkLines (m : SectionMemory) (block : List Char) : Nat → Nat → Nat → σ → LineWalk
  -- the newline in front of the line
  | 0, _, prevPos, _ => ⟨[], prevPos - 1⟩
  | fuel + 1, i, prevPos, s =>
    let bytes := block ++ (m.lines i).behind
    let rest := cString (bytes.drop (prevPos + 1))
    match strpbrk ['\n'] rest with
    | none => ⟨[], prevPos + 1 + rest.length⟩
    | some n =>
      let pos := prevPos + 1 + n
      if (m.lines i).line then
        let line := cString ((bytes.drop prevPos).take (pos - prevPos))
        -- parse_line () is not called for an empty line
        let calls := if line = [] then [] else [line]
        match turn (m.lines i) line s with
        | none => ⟨calls, pos⟩
        | some s =>
          let next := walkLines m block fuel (i + 1) (pos + 1) s
          ⟨calls ++ next.handed, next.inspected⟩
      else ⟨[], pos⟩

/-- What `parseSection` does. -/
def walkSection (m : SectionMemory) (fuel : Nat) (block : List Char) (s : σ) : LineWalk :=
  let text := cString (block ++ m.behind)
  match strpbrk ['\n'] text with
  | none => ⟨[], text.length⟩
  | some pos => if m.header then walkLines turn m block fuel 0 (pos + 1) s else ⟨[], pos⟩

end Walk

/-- The section parsers, those that assign options to variables with what these are. -/
inductive SectionParser where
  | server (v : ServerVariables)
  | device
  | client (v : LinuxClient.ClientVariables)
  | peer (v : Peer.PeerVariables)

namespace SectionParser

/-- What a parser is to find out. -/
def Settings : SectionParser → Type
  | .server _ => ServerVariables
  | .device => DeviceSection
  | .client _ => LinuxClient.ClientVariables
  | .peer _ => Peer.PeerVariables

/-- The parser itself. -/
def parse (m : SectionMemory) (fuel : Nat) (block : List Char) : ∀ p : SectionParser,
    Option p.Settings
  | .server v => parseServerSection m fuel block v
  | .device => parseDeviceSection m fuel block
  | .client v => LinuxClient.parseClientSection m fuel block v
  | .peer v => Peer.parsePeerSection m fuel block v

/-- What it hands over and looks at. -/
def walk (m : SectionMemory) (fuel : Nat) (block : List Char) : SectionParser → LineWalk
  | .server v => walkSection (parseOptionLine parseLine setServerOption) m fuel block (v, unset)
  | .device =>
    if m.device then walkSection parseDeviceLine m fuel block (.empty, unset) else ⟨[], 0⟩
  | .client v => walkSection (parseOptionLine LinuxClient.parseLine LinuxClient.setClientOption) m
      fuel block (v, unset)
  | .peer v =>
    walkSection (parseOptionLine Peer.parseLine Peer.setPeerOption) m fuel block (v, unset)

/-- There is memory for the name of the section, and for the `device_t`. -/
def ready (m : SectionMemory) : SectionParser → Bool
  | .device => m.device && m.header
  | .server _ | .client _ | .peer _ => m.header

/-- What it makes of these lines, each given to one turn of its loop; `none` if a line crashes
it, or there is no memory for a line. -/
def take (lines : List (LineMemory × CStr)) : ∀ p : SectionParser, Option p.Settings
  | .server v =>
    (lines.foldlM (lineTurn (parseOptionLine parseLine setServerOption)) (v, unset)).map Prod.fst
  | .device => (lines.foldlM (lineTurn parseDeviceLine) (.empty, unset)).map Prod.fst
  | .client v =>
    (lines.foldlM (lineTurn (parseOptionLine LinuxClient.parseLine LinuxClient.setClientOption))
      (v, unset)).map Prod.fst
  | .peer v =>
    (lines.foldlM (lineTurn (parseOptionLine Peer.parseLine Peer.setPeerOption))
      (v, unset)).map Prod.fst

end SectionParser

/-- The lines of a section, each with its newline. -/
def terminated (lines : List CStr) : List Char := lines.flatMap (· ++ ['\n'])

/-- A section with this first line and these lines behind it, as a string. -/
def sectionBytes (header : CStr) (lines : List CStr) : List Char :=
  header ++ '\n' :: (terminated lines ++ [nul])

/-- The lines that are not empty, each with what a turn of its own meets in memory. -/
def fullLines (m : SectionMemory) (i : Nat) (lines : List CStr) : List (LineMemory × CStr) :=
  ((lines.filter (· ≠ [])).zipIdx i).map fun x => (m.lines x.2, x.1)

/-- A parser that is given this section comes to its end, hands over the lines that are not
empty, in order, and looks at nothing behind the NUL. The settings are those of these lines. -/
structure SplitsInto (p : SectionParser) (m : SectionMemory) (fuel : Nat) (header : CStr)
    (lines : List CStr) : Prop where
  ends : (p.parse m fuel (sectionBytes header lines)).isSome
  handed : (p.walk m fuel (sectionBytes header lines)).handed = lines.filter (· ≠ [])
  inside : (p.walk m fuel (sectionBytes header lines)).inspected <
    (sectionBytes header lines).length
  settings : p.parse m fuel (sectionBytes header lines) = p.take (fullLines m 0 lines)

/-- The last of the lines is the only one that is empty. -/
def OneEmptyLast (lines : List CStr) : Prop := ∃ init, lines = init ++ [[]] ∧ [] ∉ init

/-- A line of a text. -/
def IsLine (line : CStr) : Prop := '\n' ∉ line ∧ nul ∉ line

instance (line : CStr) : Decidable (IsLine line) := inferInstanceAs (Decidable (_ ∧ _))

-- ---------------------------------------------------------------------------
-- One search
-- ---------------------------------------------------------------------------

/-- What is behind a NUL is not part of a string. -/
theorem cString_append_nul {line : CStr} (hLine : nul ∉ line) (rest : List Char) :
    cString (line ++ nul :: rest) = line := by
  unfold cString
  rw [List.takeWhile_append_of_pos]
  · simp
  · intro c hc
    simpa using fun hEq : c = nul => hLine (hEq ▸ hc)

theorem cString_eq_self {line : CStr} (hLine : nul ∉ line) : cString line = line := by
  unfold cString
  rw [List.takeWhile_eq_self_iff]
  intro c hc
  simpa using fun hEq : c = nul => hLine (hEq ▸ hc)

theorem strpbrk_newline {line : CStr} (hLine : IsLine line) (rest : List Char) :
    strpbrk ['\n'] (cString (line ++ '\n' :: rest)) = some line.length := by
  have hString : cString (line ++ '\n' :: rest) = line ++ '\n' :: cString rest := by
    unfold cString
    rw [List.takeWhile_append_of_pos]
    · rw [List.takeWhile_cons_of_pos (by decide)]
    · intro c hc
      simpa using fun hEq : c = nul => hLine.2 (hEq ▸ hc)
  have hChr := strchr_append hLine.1 (cString rest)
  rw [hString]
  simpa [strpbrk, strchr] using hChr

variable {m : SectionMemory} {block rest : List Char} {prevPos : Nat}

theorem drop_append_behind (hRest : rest ≠ []) (hDrop : block.drop prevPos = rest)
    (behind : List Char) : (block ++ behind).drop prevPos = rest ++ behind := by
  have hLe : prevPos ≤ block.length := by
    by_contra hGt
    exact hRest (hDrop ▸ List.drop_eq_nil_of_le (by omega))
  rw [List.drop_append_of_le_length hLe, hDrop]

/-- A search from the start of a line finds its end, except that the first character of the
line may be anything. -/
theorem search_line {c : Char} {line : CStr} (hLine : IsLine line) (hc : c ≠ nul)
    (hDrop : block.drop prevPos = c :: line ++ '\n' :: rest) (behind : List Char) :
    strpbrk ['\n'] (cString ((block ++ behind).drop (prevPos + 1))) = some line.length ∧
    cString (((block ++ behind).drop prevPos).take (line.length + 1)) = c :: line ∧
    block.drop (prevPos + line.length + 2) = rest := by
  have hHere := drop_append_behind (by simp) hDrop behind
  have hNul : nul ∉ c :: line := by
    rw [List.mem_cons, not_or]
    exact ⟨hc.symm, hLine.2⟩
  refine ⟨?_, ?_, ?_⟩
  · rw [← List.drop_drop, hHere, List.cons_append, List.cons_append, List.drop_one, List.tail_cons,
      List.append_assoc, List.cons_append]
    exact strpbrk_newline hLine (rest ++ behind)
  · rw [hHere, List.append_assoc, List.take_append_of_le_length (by simp),
      List.take_of_length_le (by simp)]
    exact cString_eq_self hNul
  · rw [show prevPos + line.length + 2 = prevPos + (line.length + 2) by omega, ← List.drop_drop,
      hDrop]
    simp

/-- Behind the last line of a block, if it is empty, a search finds the NUL. -/
theorem search_nul (hDrop : block.drop prevPos = ['\n', nul]) (behind : List Char) :
    cString ((block ++ behind).drop (prevPos + 1)) = [] := by
  rw [← List.drop_drop, drop_append_behind (by simp) hDrop behind]
  exact cString_append_nul List.not_mem_nil behind

-- ---------------------------------------------------------------------------
-- The loop
-- ---------------------------------------------------------------------------

theorem not_oneEmptyLast_nil : ¬ OneEmptyLast [] := by
  intro h
  obtain ⟨init, hEq, -⟩ := h
  simp at hEq

theorem oneEmptyLast_empty_cons {lines : List CStr} : OneEmptyLast ([] :: lines) ↔ lines = [] := by
  constructor
  · intro h
    obtain ⟨init, hEq, hNot⟩ := h
    cases init with
    | nil => exact (List.cons.inj hEq).2
    | cons l init =>
      obtain ⟨rfl, -⟩ := List.cons.inj hEq
      exact absurd (List.mem_cons_self ..) hNot
  · rintro rfl
    exact ⟨[], rfl, List.not_mem_nil⟩

theorem oneEmptyLast_cons {line : CStr} (hLine : line ≠ []) {lines : List CStr} :
    OneEmptyLast (line :: lines) ↔ OneEmptyLast lines := by
  constructor
  · intro h
    obtain ⟨init, hEq, hNot⟩ := h
    cases init with
    | nil => exact absurd (List.cons.inj hEq).1 hLine
    | cons l init =>
      exact ⟨init, (List.cons.inj hEq).2, fun hMem => hNot (List.mem_cons_of_mem _ hMem)⟩
  · intro h
    obtain ⟨init, rfl, hNot⟩ := h
    refine ⟨line :: init, rfl, ?_⟩
    rw [List.mem_cons, not_or]
    exact ⟨hLine.symm, hNot⟩

/-- Where the last search of the loop stops if no line crashes the parser: at a newline or at a
NUL. -/
def inspectedFrom (m : SectionMemory) (block : List Char) : Nat → Nat → Nat → Nat
  | 0, _, prevPos => prevPos - 1
  | fuel + 1, i, prevPos =>
    let rest := cString ((block ++ (m.lines i).behind).drop (prevPos + 1))
    match strpbrk ['\n'] rest with
    | none => prevPos + 1 + rest.length
    | some n => inspectedFrom m block fuel (i + 1) (prevPos + n + 2)

/-- The searches go forward. -/
theorem le_inspectedFrom (fuel i : Nat) : prevPos ≤ inspectedFrom m block fuel i prevPos + 1 := by
  induction fuel generalizing i prevPos with
  | zero =>
    unfold inspectedFrom
    omega
  | succ fuel ih =>
    unfold inspectedFrom
    dsimp only
    split
    · omega
    · rename_i n _
      have hNext : prevPos + n + 2 ≤ inspectedFrom m block fuel (i + 1) (prevPos + n + 2) + 1 :=
        ih (i + 1)
      omega

theorem lt_inspectedFrom (fuel i : Nat) : prevPos < inspectedFrom m block (fuel + 1) i prevPos := by
  unfold inspectedFrom
  dsimp only
  split
  · omega
  · rename_i n _
    have hNext : prevPos + n + 2 ≤ inspectedFrom m block fuel (i + 1) (prevPos + n + 2) + 1 :=
      le_inspectedFrom fuel (i + 1)
    omega

section Loop

variable {line : CStr} {lines : List CStr} (fuel i : Nat)

/-- The lines that the loop hands over, from a place on. -/
def linesHanded (m : SectionMemory) (block : List Char) (fuel i prevPos : Nat) : List CStr :=
  (linesFrom m block fuel i prevPos).map Prod.snd

/-- One turn of the loop. -/
theorem turn_line {c : Char} (hLine : IsLine line) (hc : c ≠ nul)
    (hDrop : block.drop prevPos = c :: line ++ '\n' :: rest) :
    endsFrom m block (fuel + 1) i prevPos =
      endsFrom m block fuel (i + 1) (prevPos + line.length + 2) ∧
    linesFrom m block (fuel + 1) i prevPos =
      (m.lines i, c :: line) :: linesFrom m block fuel (i + 1) (prevPos + line.length + 2) ∧
    inspectedFrom m block (fuel + 1) i prevPos =
      inspectedFrom m block fuel (i + 1) (prevPos + line.length + 2) := by
  obtain ⟨hFound, hCopied, -⟩ := search_line hLine hc hDrop (m.lines i).behind
  refine ⟨?_, ?_, ?_⟩
  · simp only [endsFrom, hFound]
  · simp only [linesFrom, hFound, hCopied]
  · simp only [inspectedFrom, hFound]

/-- The last turn of the loop, if the last line is empty. -/
theorem turn_nul (hDrop : block.drop prevPos = ['\n', nul]) :
    endsFrom m block (fuel + 1) i prevPos = true ∧
    linesFrom m block (fuel + 1) i prevPos = [] ∧
    inspectedFrom m block (fuel + 1) i prevPos = prevPos + 1 := by
  have hRest := search_nul hDrop (m.lines i).behind
  refine ⟨?_, ?_, ?_⟩
  · simp [endsFrom, hRest, strpbrk]
  · simp [linesFrom, hRest, strpbrk]
  · simp [inspectedFrom, hRest, strpbrk]

/-- A block with one empty line, at its end, is cut as it should be. -/
theorem loop_of_oneEmptyLast {lines : List CStr} (hLines : ∀ l ∈ lines, IsLine l)
    (hDrop : block.drop prevPos = terminated lines ++ [nul]) (hLast : OneEmptyLast lines)
    {fuel : Nat} (hFuel : lines.length < fuel) (i : Nat) :
    endsFrom m block fuel i prevPos = true ∧
    linesFrom m block fuel i prevPos = fullLines m i lines ∧
    inspectedFrom m block fuel i prevPos < block.length := by
  induction lines generalizing prevPos fuel i with
  | nil => exact absurd hLast not_oneEmptyLast_nil
  | cons line lines ih =>
    obtain ⟨fuel, rfl⟩ := Nat.exists_eq_add_of_lt (Nat.zero_lt_of_lt hFuel)
    rw [Nat.zero_add] at hFuel ⊢
    rw [List.length_cons] at hFuel
    have hLine := hLines line (List.mem_cons_self ..)
    cases line with
    | nil =>
      obtain rfl := oneEmptyLast_empty_cons.mp hLast
      have hDrop' : block.drop prevPos = ['\n', nul] := by simpa [terminated] using hDrop
      obtain ⟨hEnds, hFrom, hInspected⟩ := turn_nul (m := m) fuel i hDrop'
      have hLength := congrArg List.length hDrop'
      rw [List.length_drop, List.length_cons, List.length_singleton] at hLength
      refine ⟨hEnds, hFrom, ?_⟩
      rw [hInspected]
      omega
    | cons c line =>
      have hRest : IsLine line :=
        ⟨fun h => hLine.1 (List.mem_cons_of_mem _ h), fun h => hLine.2 (List.mem_cons_of_mem _ h)⟩
      have hc : c ≠ nul := fun h => hLine.2 (h ▸ List.mem_cons_self ..)
      have hDrop' : block.drop prevPos = c :: line ++ '\n' :: (terminated lines ++ [nul]) := by
        simpa [terminated] using hDrop
      obtain ⟨hEnds, hFrom, hInspected⟩ := turn_line (m := m) fuel i hRest hc hDrop'
      obtain ⟨-, -, hNext⟩ := search_line hRest hc hDrop' []
      obtain ⟨hEnds', hFrom', hInspected'⟩ :=
        ih (fun l hl => hLines l (List.mem_cons_of_mem _ hl)) hNext
          ((oneEmptyLast_cons (List.cons_ne_nil c line)).mp hLast) (by omega : lines.length < fuel)
          (i + 1)
      refine ⟨hEnds.trans hEnds', ?_, hInspected ▸ hInspected'⟩
      rw [hFrom, hFrom', fullLines, fullLines, List.filter_cons_of_pos (by simp), List.zipIdx_cons,
        List.map_cons]

/-- Lines that are not empty are all found, and the loop comes to the NUL. -/
theorem loop_of_nonempty {lines : List CStr} (hLines : ∀ l ∈ lines, IsLine l ∧ l ≠ [])
    (hDrop : block.drop prevPos = terminated lines ++ [nul]) (fuel i : Nat) :
    endsFrom m block (lines.length + fuel) i prevPos =
      endsFrom m block fuel (i + lines.length) (block.length - 1) ∧
    linesFrom m block (lines.length + fuel) i prevPos =
      (lines.zipIdx i).map (fun x => (m.lines x.2, x.1)) ++
        linesFrom m block fuel (i + lines.length) (block.length - 1) := by
  induction lines generalizing prevPos i with
  | nil =>
    have hLength := congrArg List.length hDrop
    rw [List.length_drop, terminated, List.flatMap_nil, List.nil_append,
      List.length_singleton] at hLength
    obtain rfl : prevPos = block.length - 1 := by omega
    simp
  | cons line lines ih =>
    obtain ⟨hLine, hNonempty⟩ := hLines line (List.mem_cons_self ..)
    obtain ⟨c, line, rfl⟩ := List.exists_cons_of_ne_nil hNonempty
    have hRest : IsLine line :=
      ⟨fun h => hLine.1 (List.mem_cons_of_mem _ h), fun h => hLine.2 (List.mem_cons_of_mem _ h)⟩
    have hc : c ≠ nul := fun h => hLine.2 (h ▸ List.mem_cons_self ..)
    have hDrop' : block.drop prevPos = c :: line ++ '\n' :: (terminated lines ++ [nul]) := by
      simpa [terminated] using hDrop
    obtain ⟨hEnds, hFrom, -⟩ := turn_line (m := m) (lines.length + fuel) i hRest hc hDrop'
    obtain ⟨-, -, hNext⟩ := search_line hRest hc hDrop' []
    obtain ⟨hEnds', hFrom'⟩ := ih (fun l hl => hLines l (List.mem_cons_of_mem _ hl)) hNext (i + 1)
    rw [List.length_cons, show lines.length + 1 + fuel = lines.length + fuel + 1 by omega,
      show i + (lines.length + 1) = i + 1 + lines.length by omega]
    refine ⟨hEnds.trans hEnds', ?_⟩
    rw [hFrom, hFrom', List.zipIdx_cons, List.map_cons, List.cons_append]

/-- No other block is: the searches leave the block, or a newline is handed over. -/
theorem loop_of_not_oneEmptyLast {lines : List CStr} (hLines : ∀ l ∈ lines, IsLine l)
    (hDrop : block.drop prevPos = terminated lines ++ [nul]) (hLast : ¬ OneEmptyLast lines)
    {fuel : Nat} (hFuel : lines.length < fuel) (i : Nat) :
    (∃ line ∈ linesHanded m block fuel i prevPos, '\n' ∈ line) ∨
    block.length ≤ inspectedFrom m block fuel i prevPos := by
  induction lines generalizing prevPos fuel i with
  | nil =>
    obtain ⟨fuel, rfl⟩ := Nat.exists_eq_add_of_lt (Nat.zero_lt_of_lt hFuel)
    rw [Nat.zero_add]
    have hLength := congrArg List.length hDrop
    rw [List.length_drop, terminated, List.flatMap_nil, List.nil_append,
      List.length_singleton] at hLength
    have hPast : prevPos < inspectedFrom m block (fuel + 1) i prevPos := lt_inspectedFrom fuel i
    exact Or.inr (by omega)
  | cons line lines ih =>
    obtain ⟨fuel, rfl⟩ := Nat.exists_eq_add_of_lt (Nat.zero_lt_of_lt hFuel)
    rw [Nat.zero_add] at hFuel ⊢
    rw [List.length_cons] at hFuel
    have hLine := hLines line (List.mem_cons_self ..)
    cases line with
    | nil =>
      cases lines with
      | nil => exact absurd (oneEmptyLast_empty_cons.mpr rfl) hLast
      | cons next lines =>
        -- the next line is handed over with a newline in front of it
        have hNext := hLines next (List.mem_cons_of_mem _ (List.mem_cons_self ..))
        have hDrop' : block.drop prevPos =
            '\n' :: next ++ '\n' :: (terminated lines ++ [nul]) := by
          simpa [terminated] using hDrop
        obtain ⟨-, hHanded, -⟩ := turn_line (m := m) fuel i hNext (by decide) hDrop'
        rw [linesHanded, hHanded]
        exact Or.inl ⟨_, List.mem_cons_self .., List.mem_cons_self ..⟩
    | cons c line =>
      have hRest : IsLine line :=
        ⟨fun h => hLine.1 (List.mem_cons_of_mem _ h), fun h => hLine.2 (List.mem_cons_of_mem _ h)⟩
      have hc : c ≠ nul := fun h => hLine.2 (h ▸ List.mem_cons_self ..)
      have hDrop' : block.drop prevPos = c :: line ++ '\n' :: (terminated lines ++ [nul]) := by
        simpa [terminated] using hDrop
      obtain ⟨-, hHanded, hInspected⟩ := turn_line (m := m) fuel i hRest hc hDrop'
      obtain ⟨-, -, hNext⟩ := search_line hRest hc hDrop' []
      have hLoop := ih (fun l hl => hLines l (List.mem_cons_of_mem _ hl)) hNext
        (fun h => hLast ((oneEmptyLast_cons (List.cons_ne_nil c line)).mpr h))
        (by omega : lines.length < fuel) (i + 1)
      rw [linesHanded, hHanded, hInspected]
      rcases hLoop with ⟨l, hl, hNewline⟩ | hPast
      · exact Or.inl ⟨l, List.mem_cons_of_mem _ hl, hNewline⟩
      · exact Or.inr hPast

end Loop

-- ---------------------------------------------------------------------------
-- A section
-- ---------------------------------------------------------------------------

variable {header : CStr} {lines : List CStr}

/-- Behind the first line of a section the loop starts. -/
theorem section_starts (hHeader : IsLine header) (lines : List CStr) (behind : List Char) :
    strpbrk ['\n'] (cString (sectionBytes header lines ++ behind)) = some header.length ∧
    (sectionBytes header lines).drop (header.length + 1) = terminated lines ++ [nul] := by
  unfold sectionBytes
  constructor
  · rw [List.append_assoc, List.cons_append]
    exact strpbrk_newline hHeader _
  · rw [← List.drop_drop, List.drop_left]
    rfl

section Walk

variable {σ : Type} {turn : LineMemory → CStr → σ → Option σ} {s s' : σ}

/-- A loop that no line crashes hands over the lines that it comes to, as far as they are not
empty. -/
theorem walkLines_eq {fuel i : Nat}
    (h : (linesFrom m block fuel i prevPos).foldlM (lineTurn turn) s = some s') :
    walkLines turn m block fuel i prevPos s =
      ⟨(linesHanded m block fuel i prevPos).filter (· ≠ []),
        inspectedFrom m block fuel i prevPos⟩ := by
  induction fuel generalizing i prevPos s with
  | zero => rfl
  | succ fuel ih =>
    unfold walkLines inspectedFrom linesHanded
    unfold linesFrom at h ⊢
    dsimp only at h ⊢
    cases hEnd : strpbrk ['\n'] (cString ((block ++ (m.lines i).behind).drop (prevPos + 1))) with
    | none => rfl
    | some n =>
      simp only [hEnd, List.foldlM_cons] at h
      obtain ⟨s₁, hTurn, hRest⟩ := Option.bind_eq_some_iff.mp h
      unfold lineTurn at hTurn
      split at hTurn
      · rename_i hMemory
        dsimp only at hMemory hTurn ⊢
        rw [show prevPos + 1 + n - prevPos = n + 1 by omega,
          show prevPos + 1 + n + 1 = prevPos + n + 2 by omega, if_pos hMemory, hTurn]
        dsimp only
        rw [ih hRest, List.map_cons, List.filter_cons]
        split <;> rename_i hLine
        · simp [hLine, linesHanded]
        · simp [hLine, linesHanded]
      · exact absurd hTurn (by simp)

/-- Behind its first line a section parser is its loop. -/
theorem parseSection_section (m : SectionMemory) (fuel : Nat) (hHeader : IsLine header)
    (lines : List CStr) (s : σ) :
    parseSection turn m fuel (sectionBytes header lines) s =
      if m.header && endsFrom m (sectionBytes header lines) fuel 0 (header.length + 1) then
        (linesFrom m (sectionBytes header lines) fuel 0 (header.length + 1)).foldlM
          (lineTurn turn) s
      else none := by
  obtain ⟨hStart, -⟩ := section_starts hHeader lines m.behind
  rw [parseSection_eq, foldSection]
  simp only [sectionEnds, sectionLines, hStart]

theorem walkSection_section (m : SectionMemory) (fuel : Nat) (hHeader : IsLine header)
    (lines : List CStr) (s : σ) :
    walkSection turn m fuel (sectionBytes header lines) s =
      if m.header then walkLines turn m (sectionBytes header lines) fuel 0 (header.length + 1) s
      else ⟨[], header.length⟩ := by
  obtain ⟨hStart, -⟩ := section_starts hHeader lines m.behind
  simp only [walkSection, hStart]

/-- With one empty line, at the end, the settings are those of the other lines. -/
theorem parseSection_of_oneEmptyLast {fuel : Nat} (hHeader : IsLine header)
    (hLines : ∀ l ∈ lines, IsLine l) (hFuel : lines.length < fuel) (hLast : OneEmptyLast lines)
    (hMemory : m.header = true) (s : σ) :
    parseSection turn m fuel (sectionBytes header lines) s =
      (fullLines m 0 lines).foldlM (lineTurn turn) s := by
  obtain ⟨-, hDrop⟩ := section_starts hHeader lines m.behind
  obtain ⟨hEnds, hFrom, -⟩ := loop_of_oneEmptyLast (m := m) hLines hDrop hLast hFuel 0
  rw [parseSection_section m fuel hHeader, hMemory, hEnds, hFrom]
  rfl

/-- **One parser.** -/
theorem splits_iff (turn : LineMemory → CStr → σ → Option σ) (m : SectionMemory) {fuel : Nat}
    (hHeader : IsLine header) (hLines : ∀ l ∈ lines, IsLine l) (hFuel : lines.length < fuel) (s : σ) :
    ((parseSection turn m fuel (sectionBytes header lines) s).isSome ∧
      (walkSection turn m fuel (sectionBytes header lines) s).handed = lines.filter (· ≠ []) ∧
      (walkSection turn m fuel (sectionBytes header lines) s).inspected <
        (sectionBytes header lines).length) ↔
    OneEmptyLast lines ∧ m.header = true ∧
      ((fullLines m 0 lines).foldlM (lineTurn turn) s).isSome := by
  obtain ⟨-, hDrop⟩ := section_starts hHeader lines m.behind
  rw [walkSection_section m fuel hHeader]
  constructor
  · intro h
    obtain ⟨hEnds, hHanded, hInside⟩ := h
    have hReady : m.header = true ∧
        ((linesFrom m (sectionBytes header lines) fuel 0 (header.length + 1)).foldlM
          (lineTurn turn) s).isSome := by
      rw [parseSection_section m fuel hHeader] at hEnds
      split at hEnds
      · rename_i hBoth
        exact ⟨(Bool.and_eq_true_iff.mp hBoth).1, hEnds⟩
      · exact absurd hEnds (by simp)
    obtain ⟨hMemory, hTaken⟩ := hReady
    obtain ⟨s', hFold⟩ := Option.isSome_iff_exists.mp hTaken
    rw [if_pos hMemory, walkLines_eq hFold] at hHanded hInside
    have hLast : OneEmptyLast lines := by
      by_contra hLast
      rcases loop_of_not_oneEmptyLast (m := m) hLines hDrop hLast hFuel 0 with
        ⟨line, hLine, hNewline⟩ | hPast
      · have hMem : line ∈ lines.filter (· ≠ []) :=
          hHanded ▸ List.mem_filter.mpr ⟨hLine, decide_eq_true (List.ne_nil_of_mem hNewline)⟩
        exact (hLines line (List.mem_filter.mp hMem).1).1 hNewline
      · exact absurd hInside (Nat.not_lt.mpr hPast)
    obtain ⟨-, hFrom, -⟩ := loop_of_oneEmptyLast (m := m) hLines hDrop hLast hFuel 0
    exact ⟨hLast, hMemory, hFrom ▸ hTaken⟩
  · intro h
    obtain ⟨hLast, hMemory, hTaken⟩ := h
    obtain ⟨-, hFrom, hInside⟩ := loop_of_oneEmptyLast (m := m) hLines hDrop hLast hFuel 0
    obtain ⟨s', hFold⟩ := Option.isSome_iff_exists.mp hTaken
    rw [if_pos hMemory, walkLines_eq (hFrom.symm ▸ hFold)]
    refine ⟨?_, ?_, hInside⟩
    · rw [parseSection_of_oneEmptyLast hHeader hLines hFuel hLast hMemory]
      exact hTaken
    · have hFull : (fullLines m 0 lines).map Prod.snd = lines.filter (· ≠ []) := by
        rw [fullLines, List.map_map]
        exact List.zipIdx_map_fst ..
      rw [linesHanded, hFrom, hFull, List.filter_filter]
      simp

/-- A parser that is such a loop, as far as its settings go. -/
theorem splitsInto_of_loop {p : SectionParser} {fuel : Nat} {f : σ → p.Settings}
    (hHeader : IsLine header) (hLines : ∀ l ∈ lines, IsLine l) (hFuel : lines.length < fuel)
    (hParse : p.parse m fuel (sectionBytes header lines) =
      (parseSection turn m fuel (sectionBytes header lines) s).map f)
    (hWalk : p.walk m fuel (sectionBytes header lines) =
      walkSection turn m fuel (sectionBytes header lines) s)
    (hTake : p.take (fullLines m 0 lines) =
      ((fullLines m 0 lines).foldlM (lineTurn turn) s).map f)
    (hReady : p.ready m = m.header) :
    SplitsInto p m fuel header lines ↔
      OneEmptyLast lines ∧ p.ready m = true ∧ (p.take (fullLines m 0 lines)).isSome := by
  have hIff := splits_iff turn m hHeader hLines hFuel s
  rw [hReady, hTake, Option.isSome_map]
  constructor
  · intro h
    have hEnds := h.ends
    rw [hParse, Option.isSome_map] at hEnds
    exact hIff.mp ⟨hEnds, hWalk ▸ h.handed, hWalk ▸ h.inside⟩
  · intro h
    obtain ⟨hEnds, hHanded, hInside⟩ := hIff.mpr h
    refine ⟨?_, ?_, ?_, ?_⟩
    · rw [hParse, Option.isSome_map]
      exact hEnds
    · rw [hWalk]
      exact hHanded
    · rw [hWalk]
      exact hInside
    · rw [hParse, hTake, parseSection_of_oneEmptyLast hHeader hLines hFuel h.1 h.2.1]

end Walk

/-- The four parsers, each by what it makes of a section. -/
theorem splitsInto_iff (p : SectionParser) (m : SectionMemory) {fuel : Nat}
    (hHeader : IsLine header) (hLines : ∀ l ∈ lines, IsLine l) (hFuel : lines.length < fuel) :
    SplitsInto p m fuel header lines ↔
      OneEmptyLast lines ∧ p.ready m = true ∧ (p.take (fullLines m 0 lines)).isSome := by
  cases p with
  | server v => exact splitsInto_of_loop hHeader hLines hFuel rfl rfl rfl rfl
  | client v => exact splitsInto_of_loop hHeader hLines hFuel rfl rfl rfl rfl
  | peer v => exact splitsInto_of_loop hHeader hLines hFuel rfl rfl rfl rfl
  | device =>
    by_cases hDevice : m.device = true
    · have hReady : SectionParser.device.ready m = m.header := congrArg (· && m.header) hDevice
      exact splitsInto_of_loop hHeader hLines hFuel
        ((parseDeviceSection_eq m _ fuel).trans (if_pos hDevice)) (if_pos hDevice) rfl hReady
    · have hNone : SectionParser.device.parse m fuel (sectionBytes header lines) = none :=
        (parseDeviceSection_eq m _ fuel).trans (if_neg hDevice)
      constructor
      · intro h
        exact absurd h.ends (by simp [hNone])
      · intro h
        exact absurd (Bool.and_eq_true_iff.mp h.2.1).1 hDevice

/-- **Which sections are cut into their lines.** A section parser comes to the end of a section,
has called `parse_line` for the lines that are not empty, and has looked at nothing behind the
NUL, if and only if the last line of the section is empty and no other is, there is memory, and
no line crashes the parser. And two sections that it cuts so and that differ in their empty lines
only come to the same settings. -/
theorem section_lines_iff (p : SectionParser) (m : SectionMemory) (fuel : Nat)
    (hHeader : IsLine header) (hLines : ∀ l ∈ lines, IsLine l) (hFuel : lines.length < fuel) :
    (SplitsInto p m fuel header lines ↔
      OneEmptyLast lines ∧ p.ready m = true ∧ (p.take (fullLines m 0 lines)).isSome) ∧
    ∀ header' other, SplitsInto p m fuel header lines → SplitsInto p m fuel header' other →
      other.filter (· ≠ []) = lines.filter (· ≠ []) →
      p.parse m fuel (sectionBytes header' other) = p.parse m fuel (sectionBytes header lines) := by
  refine ⟨splitsInto_iff p m hHeader hLines hFuel, fun header' other h h' hSame => ?_⟩
  have hFull : fullLines m 0 other = fullLines m 0 lines := by rw [fullLines, fullLines, hSame]
  rw [h.settings, h'.settings, hFull]

/-- Memory for everything, and these bytes behind the block. -/
def plenty (behind : List Char) : SectionMemory :=
  ⟨behind, true, true, fun _ => ⟨behind, true, true, true, true⟩⟩

/-- Two options and an empty line behind them are read as they stand, and the name of the
section does not matter. -/
theorem section_lines_split :
    SplitsInto (.server .initial) (plenty []) 4 "[Server]".toList
      ["fork = 0".toList, "debug = 1".toList, []] ∧
    parseServerSection (plenty []) 4
        (sectionBytes "[Main]".toList ["fork = 0".toList, "debug = 1".toList, []]) .initial =
      parseServerSection (plenty []) 4
        (sectionBytes "[Server]".toList ["fork = 0".toList, "debug = 1".toList, []]) .initial := by
  have hLast : OneEmptyLast ["fork = 0".toList, "debug = 1".toList, []] :=
    ⟨["fork = 0".toList, "debug = 1".toList], rfl, by decide⟩
  have hServer := section_lines_iff (.server .initial) (plenty []) 4
    (by decide +kernel : IsLine "[Server]".toList)
    (by decide +kernel : ∀ l ∈ ["fork = 0".toList, "debug = 1".toList, []], IsLine l) (by decide)
  have hMain := section_lines_iff (.server .initial) (plenty []) 4
    (by decide +kernel : IsLine "[Main]".toList)
    (by decide +kernel : ∀ l ∈ ["fork = 0".toList, "debug = 1".toList, []], IsLine l) (by decide)
  have hTaken : ((SectionParser.server .initial).take (fullLines (plenty []) 0
      ["fork = 0".toList, "debug = 1".toList, []])).isSome := by decide +kernel
  have hSplits := hServer.1.mpr ⟨hLast, rfl, hTaken⟩
  exact ⟨hSplits, hServer.2 _ _ hSplits (hMain.1.mpr ⟨hLast, rfl, hTaken⟩) rfl⟩

/-- A blank line in front of an option hides the option, and behind a section that ends with
its last option the search goes on in the memory behind the block. A line without a separator
crashes the parser of a device section, which then comes to no other line. -/
theorem section_lines_glued :
    ¬ SplitsInto (.server .initial) (plenty []) 5 "[Server]".toList [[], "debug = 1".toList, []] ∧
    parseServerSection (plenty []) 5 (sectionBytes "[Server]".toList ["debug = 1".toList, []])
        .initial = some { ServerVariables.initial with gDebug := 1 } ∧
    parseServerSection (plenty []) 5 (sectionBytes "[Server]".toList [[], "debug = 1".toList, []])
        .initial = some .initial ∧
    ((SectionParser.server .initial).walk (plenty []) 5
        (sectionBytes "[Server]".toList [[], "debug = 1".toList, []])).handed =
      ["\ndebug = 1".toList] ∧
    ¬ SplitsInto (.server .initial) (plenty "fork = 0\n".toList) 5 "[Server]".toList
        ["debug = 1".toList] ∧
    (sectionBytes "[Server]".toList ["debug = 1".toList]).length ≤
      ((SectionParser.server .initial).walk (plenty "fork = 0\n".toList) 5
        (sectionBytes "[Server]".toList ["debug = 1".toList])).inspected ∧
    ¬ SplitsInto .device (plenty []) 5 "[Device]".toList
        ["name".toList, "link_up = \"x\"".toList, []] ∧
    (SectionParser.device.walk (plenty []) 5 (sectionBytes "[Device]".toList
        ["name".toList, "link_up = \"x\"".toList, []])).handed = ["name".toList] := by
  refine ⟨?_, by decide +kernel, by decide +kernel, by decide +kernel, ?_, by decide +kernel, ?_,
    by decide +kernel⟩
  · intro h
    exact absurd h.handed (by decide +kernel)
  · intro h
    exact absurd h.inside (by decide +kernel)
  · intro h
    exact absurd h.handed (by decide +kernel)

end LinkControl

import LinkControl.Config.DeviceSections
import LinkControl.Server.Messages

/-!
# Link server — the options of a device section

`parse_device_section` and `parse_line` of `read_config.c`, on the blocks that the loop of
`read_config` hands over.

The search for the end of a line starts at the second character of the line, so an empty
line is glued to the line behind it, and behind the newline that ends the section the
search goes on past the NUL: `LineMemory.behind` is what it finds there. `parse_line` sets
its two results on some paths only, while its caller uses and frees both in every turn of
the loop, as the turns before have left them (`LinePointers`).

`lastValue` says what an option of a section is set to by the lines of the section, and
`parseDeviceSection_get` that this is what the parser makes of them.
-/

namespace LinkControl

open CString

-- ---------------------------------------------------------------------------
-- The code (read_config.c)
-- ---------------------------------------------------------------------------

/-- What a pointer to these bytes points to. -/
def cString (bytes : List Char) : CStr := bytes.takeWhile (· ≠ nul)

/-- `strcasecmp (a, b) == 0` -/
def strcasecmpEq (a b : CStr) : Bool := a.map Char.toLower == b.map Char.toLower

/-- The pointers that `parse_line` sets. -/
inductive CharPtr where
  /-- not set since the start of the function or since it was last freed -/
  | stale
  | null
  | string (text : CStr)
deriving DecidableEq, Repr

/-- A pointer after a call of `parse_line`: what the call has left, or, if it has not set it,
what it was. -/
def CharPtr.after (left old : CharPtr) : CharPtr :=
  match left with
  | .stale => old
  | left => left

/-- The locals `name` and `value` of a section parser. -/
structure LinePointers where
  name : CharPtr
  value : CharPtr
deriving DecidableEq, Repr

/-- The locals are not initialised. -/
def unset : LinePointers := ⟨.stale, .stale⟩

/-- What one turn of the loop of `parse_device_section` meets in memory: the bytes behind
the block of the section, and whether there is memory for the line, for the two strings of
`parse_line`, and for the copy of the value. -/
structure LineMemory where
  behind : List Char
  line : Bool
  name : Bool
  value : Bool
  copy : Bool
deriving DecidableEq, Repr

/-- What one call of `parse_device_section` meets: the bytes behind the block, whether there
is memory for the `device_t` and for the name of the section, and the turns of the loop. -/
structure SectionMemory where
  behind : List Char
  device : Bool
  header : Bool
  lines : Nat → LineMemory

/-- `" \t="` -/
def separators : List Char := " \t=".toList

/-- `"\"0123456789"` -/
def valueStarts : List Char := "\"0123456789".toList

/-- `parse_line`: its result, and what it leaves in `*name` and `*value`, which is `stale` where
it has not set them. `none` is a crash. -/
def parseLine (m : LineMemory) (line : CStr) : Option (Int × CharPtr × CharPtr) :=
  match strpbrk separators line with
  | none => some (0, .stale, .stale)
  | some n =>
    if m.name then
      let name := .string (line.take n)
      match strpbrk valueStarts (line.drop n) with
      | none => some (-1, name, .stale)
      | some k =>
        match line.drop (n + k) with
        | '"' :: text =>
          match strpbrk ['"'] text with
          -- NULL - pos is a size that only a failing malloc () takes
          | none => if m.value then none else some (-1, name, .null)
          | some len =>
            some (if m.value then (0, name, .string (text.take len)) else (-1, name, .null))
        | number => some (if m.value then (0, name, .string number) else (-1, name, .null))
    else some (-1, .null, .stale)

/-- The options of a device section. -/
inductive DeviceOption where
  | name
  | description
  | linkUp
  | linkDown
  | linkForceDown
deriving DecidableEq, Repr

/-- The chain of `strcasecmp` tests in `parse_device_section`. -/
def deviceOption (name : CStr) : Option DeviceOption :=
  if strcasecmpEq name "name".toList then some .name
  else if strcasecmpEq name "description".toList then some .description
  else if strcasecmpEq name "link_up".toList then some .linkUp
  else if strcasecmpEq name "link_down".toList then some .linkDown
  else if strcasecmpEq name "link_force_down".toList then some .linkForceDown
  else none

namespace DeviceSection

/-- After the `memset`. -/
def empty : DeviceSection := ⟨none, none, none, none, none⟩

def get (sec : DeviceSection) : DeviceOption → Option CStr
  | .name => sec.name
  | .description => sec.description
  | .linkUp => sec.linkUp
  | .linkDown => sec.linkDown
  | .linkForceDown => sec.linkForceDown

def set (sec : DeviceSection) (o : DeviceOption) (value : Option CStr) : DeviceSection :=
  match o with
  | .name => { sec with name := value }
  | .description => { sec with description := value }
  | .linkUp => { sec with linkUp := value }
  | .linkDown => { sec with linkDown := value }
  | .linkForceDown => { sec with linkForceDown := value }

end DeviceSection

/-- The branch of a line that `parse_line` has accepted: it compares the name and copies the
value, which needs both to be strings. -/
def setOption (m : LineMemory) (name value : CharPtr) (sec : DeviceSection) :
    Option DeviceSection :=
  match name, value with
  | .string name, .string value =>
    match deviceOption name with
    | some o => some (sec.set o (if m.copy then some value else none))
    | none => some sec
  | _, _ => none

/-- What `free ()` leaves of a pointer: NULL may be freed again. -/
def free : CharPtr → Option CharPtr
  | .stale => none
  | .null => some .null
  | .string _ => some .stale

/-- The end of a turn of the loop of `parse_device_section`. -/
def LinePointers.free (p : LinePointers) : Option LinePointers :=
  (LinkControl.free p.name).bind fun name => (LinkControl.free p.value).map (⟨name, ·⟩)

/-- One turn of the loop of `parse_device_section`. -/
def parseDeviceLine (m : LineMemory) (line : CStr) (x : DeviceSection × LinePointers) :
    Option (DeviceSection × LinePointers) :=
  -- an empty line is not given to parse_line (), but the pointers are freed all the same
  match if line = [] then some (-1, .stale, .stale) else parseLine m line with
  | none => none
  | some (result, name, value) =>
    let p : LinePointers := ⟨name.after x.2.name, value.after x.2.value⟩
    (if result < 0 then some x.1 else setOption m p.name p.value x.1).bind fun sec =>
      p.free.map (sec, ·)

/-- The loop of `parse_device_section`, from line `i` on, which starts at `prevPos`. `none`
if it has crashed or is still running. -/
def parseDeviceLines (m : SectionMemory) (block : List Char) :
    Nat → Nat → Nat → DeviceSection × LinePointers → Option (DeviceSection × LinePointers)
  | 0, _, _, _ => none
  | fuel + 1, i, prevPos, x =>
    let bytes := block ++ (m.lines i).behind
    match strpbrk ['\n'] (cString (bytes.drop (prevPos + 1))) with
    | none => some x
    | some n =>
      let pos := prevPos + 1 + n
      if (m.lines i).line then
        let line := cString ((bytes.drop prevPos).take (pos - prevPos))
        (parseDeviceLine (m.lines i) line x).bind (parseDeviceLines m block fuel (i + 1) (pos + 1))
      else none

/-- `parse_device_section`, up to its call of `add_device`. The `memset` comes before the test
for NULL. -/
def parseDeviceSection (m : SectionMemory) (fuel : Nat) (block : List Char) :
    Option DeviceSection :=
  if m.device then
    match strpbrk ['\n'] (cString (block ++ m.behind)) with
    | none => none
    | some pos =>
      if m.header then
        (parseDeviceLines m block fuel 0 (pos + 1) (.empty, unset)).map Prod.fst
      else none
  else none

/-- Every call of `parse_device_section`. -/
def parseDeviceSections (m : Nat → SectionMemory) (fuel : Nat) :
    Nat → List Block → Option (List DeviceSection)
  | _, [] => some []
  | j, block :: rest =>
    (parseDeviceSection (m j) fuel block.bytes).bind fun sec =>
      (parseDeviceSections m fuel (j + 1) rest).map (sec :: ·)

/-- The server that `read_config` leaves when it returns 0. -/
def configured (w : World) (heap : Heap) (m : Nat → SectionMemory) (fuel : Nat) (text : CStr) :
    Option State :=
  (readConfig heap text fuel).bind fun (_, blocks) =>
    (parseDeviceSections m fuel 0 blocks).map (boot w)

-- ---------------------------------------------------------------------------
-- What the lines of a section say
-- ---------------------------------------------------------------------------

/-- The name in front of the first separator. -/
def lineName (line : CStr) : CStr := line.takeWhile (· ∉ separators)

/-- What is quoted first behind the name, or everything from the first digit on; `none` if
there is neither, or the quote is not closed. -/
def lineValue (line : CStr) : Option CStr :=
  match (line.dropWhile (· ∉ separators)).dropWhile (· ∉ valueStarts) with
  | [] => none
  | '"' :: text => if '"' ∈ text then some (text.takeWhile (· ≠ '"')) else none
  | number => some number

/-- What a line sets the option to, if it does: NULL if there is no memory for the copy. -/
def assigned (o : DeviceOption) (x : LineMemory × CStr) : Option (Option CStr) :=
  if deviceOption (lineName x.2) = some o ∧ x.1.name ∧ x.1.value then
    (lineValue x.2).map fun value => if x.1.copy then some value else none
  else none

/-- What the last of the lines that set the option sets it to. -/
def lastValue (lines : List (LineMemory × CStr)) (o : DeviceOption) : Option CStr :=
  (lines.filterMap (assigned o)).getLast?.join

/-- The lines that the loop of `parse_device_section` comes to, each with what its turn
meets. -/
def linesFrom (m : SectionMemory) (block : List Char) :
    Nat → Nat → Nat → List (LineMemory × CStr)
  | 0, _, _ => []
  | fuel + 1, i, prevPos =>
    let bytes := block ++ (m.lines i).behind
    match strpbrk ['\n'] (cString (bytes.drop (prevPos + 1))) with
    | none => []
    | some n => (m.lines i, cString ((bytes.drop prevPos).take (n + 1))) ::
        linesFrom m block fuel (i + 1) (prevPos + n + 2)

/-- The lines of a section, behind its first. -/
def sectionLines (m : SectionMemory) (fuel : Nat) (block : List Char) :
    List (LineMemory × CStr) :=
  match strpbrk ['\n'] (cString (block ++ m.behind)) with
  | none => []
  | some pos => linesFrom m block fuel 0 (pos + 1)

-- ---------------------------------------------------------------------------
-- One line
-- ---------------------------------------------------------------------------

variable {m : LineMemory} {line : CStr} {x x' : DeviceSection × LinePointers}

/-- Behind the name of a line that has one, and behind whatever is not the start of a
value. -/
theorem lineValue_of_drop {n k : Nat} (hName : strpbrk separators line = some n)
    (hValue : strpbrk valueStarts (line.drop n) = some k) :
    lineValue line = match line.drop (n + k) with
      | [] => none
      | '"' :: text => if '"' ∈ text then some (text.takeWhile (· ≠ '"')) else none
      | number => some number := by
  have hRest := (strpbrk_some hName).2.1
  have hStart := (strpbrk_some hValue).2.1
  rw [lineValue, hRest, hStart, List.drop_drop]

/-- What is quoted. -/
theorem quoted_eq (text : CStr) :
    (if '"' ∈ text then some (text.takeWhile (· ≠ '"')) else none) =
      (strpbrk ['"'] text).map text.take := by
  cases hEnd : strpbrk ['"'] text with
  | none =>
    have hNot : '"' ∉ text := fun hMem => strpbrk_none hEnd _ hMem (List.mem_singleton_self _)
    simp [hNot]
  | some len =>
    obtain ⟨c, hQuote, hMem⟩ := strpbrk_mem hEnd
    rw [List.mem_singleton.mp hQuote] at hMem
    simpa [hMem] using (strpbrk_some hEnd).1

/-- The end of `parse_line`: the value goes to a block of its own, if there is one. -/
theorem taken_cases {text : CStr} (hValue : lineValue line = some text) {result : Int}
    {name value : CharPtr}
    (h : (if m.value then (0, .string (lineName line), .string text)
      else (-1, .string (lineName line), .null)) = (result, name, value)) :
    (result = -1 ∧ ¬ (m.value = true ∧ (lineValue line).isSome)) ∨
    (result = 0 ∧ name = .string (lineName line) ∧ m.value = true ∧
      ∃ text, value = .string text ∧ lineValue line = some text) := by
  split at h <;> rename_i hMemory <;> obtain ⟨rfl, rfl, rfl⟩ := h
  · exact Or.inr ⟨rfl, rfl, hMemory, text, rfl, hValue⟩
  · exact Or.inl ⟨rfl, fun hBoth => hMemory hBoth.1⟩

/-- The ways out of `parse_line`: it sets nothing, it refuses the line, or it takes the name and
the value apart. -/
theorem parseLine_cases {result : Int} {name value : CharPtr}
    (h : parseLine m line = some (result, name, value)) :
    (result = 0 ∧ name = .stale ∧ value = .stale) ∨
    (result = -1 ∧ ¬ (m.name = true ∧ m.value = true ∧ (lineValue line).isSome)) ∨
    (result = 0 ∧ name = .string (lineName line) ∧ m.name = true ∧ m.value = true ∧
      ∃ text, value = .string text ∧ lineValue line = some text) := by
  unfold parseLine at h
  cases hSeparator : strpbrk separators line with
  | none =>
    simp only [hSeparator, Option.some.injEq, Prod.mk.injEq] at h
    exact Or.inl ⟨h.1.symm, h.2.1.symm, h.2.2.symm⟩
  | some n =>
    have hName : lineName line = line.take n := (strpbrk_some hSeparator).1
    simp only [hSeparator, ← hName] at h
    split at h
    · rename_i hGranted
      have hEnd : ((result = -1 ∧ ¬ (m.value = true ∧ (lineValue line).isSome)) ∨
          (result = 0 ∧ name = .string (lineName line) ∧ m.value = true ∧
            ∃ text, value = .string text ∧ lineValue line = some text)) →
          (result = 0 ∧ name = .stale ∧ value = .stale) ∨
          (result = -1 ∧ ¬ (m.name = true ∧ m.value = true ∧ (lineValue line).isSome)) ∨
          (result = 0 ∧ name = .string (lineName line) ∧ m.name = true ∧ m.value = true ∧
            ∃ text, value = .string text ∧ lineValue line = some text) := by
        intro hCases
        rcases hCases with ⟨hResult, hNot⟩ | ⟨hResult, hString, hTaken⟩
        · exact Or.inr (Or.inl ⟨hResult, fun hAll => hNot hAll.2⟩)
        · exact Or.inr (Or.inr ⟨hResult, hString, hGranted, hTaken⟩)
      cases hStart : strpbrk valueStarts (line.drop n) with
      | none =>
        have hNoValue : lineValue line = none := by
          rw [lineValue, (strpbrk_some hSeparator).2.1]
          have hNil : (line.drop n).dropWhile (· ∉ valueStarts) = [] := by
            rw [List.dropWhile_eq_nil_iff]
            exact fun c hc => decide_eq_true (strpbrk_none hStart c hc)
          rw [hNil]
        simp only [hStart, Option.some.injEq, Prod.mk.injEq] at h
        exact hEnd (Or.inl ⟨h.1.symm, by simp [hNoValue]⟩)
      | some k =>
        have hValue := lineValue_of_drop hSeparator hStart
        simp only [hStart] at h
        split at h
        · -- a quoted value
          rename_i text hText
          simp only [hText, quoted_eq] at hValue
          cases hClosed : strpbrk ['"'] text with
          | none =>
            rw [hClosed] at hValue
            simp only [hClosed] at h
            split at h
            · exact absurd h (by simp)
            · simp only [Option.some.injEq, Prod.mk.injEq] at h
              exact hEnd (Or.inl ⟨h.1.symm, by simp [hValue]⟩)
          | some len =>
            rw [hClosed] at hValue
            simp only [hClosed, Option.some.injEq] at h
            exact hEnd (taken_cases hValue h)
        · -- a number
          rename_i hNoQuote
          have hLt := (strpbrk_some hStart).2.2
          rw [List.length_drop] at hLt
          have hNumber : lineValue line = some (line.drop (n + k)) := by
            rw [hValue]
            split
            · rename_i hNil
              have hLength := congrArg List.length hNil
              rw [List.length_drop, List.length_nil] at hLength
              omega
            · rename_i text hText
              exact absurd hText (hNoQuote text)
            · rfl
          exact hEnd (taken_cases hNumber (Option.some.inj h))
    · rename_i hRefused
      simp only [Option.some.injEq, Prod.mk.injEq] at h
      exact Or.inr (Or.inl ⟨h.1.symm, fun hAll => hRefused hAll.1⟩)

theorem DeviceSection.get_set (sec : DeviceSection) (o o' : DeviceOption) (value : Option CStr) :
    (sec.set o value).get o' = if o = o' then value else sec.get o' := by
  cases o <;> cases o' <;> rfl

/-- Neither pointer is one to a string, as between two turns of the loop. -/
def LinePointers.Freed (p : LinePointers) : Prop :=
  (∀ text, p.name ≠ .string text) ∧ ∀ text, p.value ≠ .string text

theorem freed_unset : unset.Freed := ⟨nofun, nofun⟩

theorem free_ne_string {p q : CharPtr} (h : free p = some q) (text : CStr) : q ≠ .string text := by
  cases p with
  | stale => exact absurd h (by simp [free])
  | null | string => exact Option.some.inj h ▸ nofun

theorem LinePointers.freed_of_free {p q : LinePointers} (h : p.free = some q) : q.Freed := by
  obtain ⟨name, hName, hRest⟩ := Option.bind_eq_some_iff.mp h
  obtain ⟨value, hValue, rfl⟩ := Option.map_eq_some_iff.mp hRest
  exact ⟨free_ne_string hName, free_ne_string hValue⟩

/-- Without a string for the name nothing is set. -/
theorem setOption_of_freed {p : LinePointers} (hFreed : p.Freed) (sec : DeviceSection) :
    setOption m p.name p.value sec = none := by
  unfold setOption
  split
  · rename_i text _ hName _
    exact absurd hName (hFreed.1 text)
  · rfl

/-- What one turn of the loop makes of the options. -/
theorem parseDeviceLine_get (hFreed : x.2.Freed) (h : parseDeviceLine m line x = some x') :
    (∀ o, x'.1.get o = (assigned o (m, line)).getD (x.1.get o)) ∧ x'.2.Freed := by
  unfold parseDeviceLine at h
  split at h
  · exact absurd h (by simp)
  · rename_i result name value hParse
    obtain ⟨sec, hSet, hEnd⟩ := Option.bind_eq_some_iff.mp h
    obtain ⟨p, hFree, rfl⟩ := Option.map_eq_some_iff.mp hEnd
    refine ⟨fun o => ?_, LinePointers.freed_of_free hFree⟩
    have hKept : assigned o (m, line) = none → result < 0 →
        sec.get o = (assigned o (m, line)).getD (x.1.get o) := by
      intro hNone hRefused
      rw [if_pos hRefused, Option.some.injEq] at hSet
      rw [hNone, ← hSet]
      rfl
    split at hParse
    · rename_i hEmpty
      obtain ⟨rfl, -⟩ := Prod.mk.inj (Option.some.inj hParse)
      refine hKept ?_ (by decide)
      rw [hEmpty]
      cases o <;> rfl
    · rcases parseLine_cases hParse with ⟨rfl, rfl, rfl⟩ | ⟨rfl, hNot⟩ |
        ⟨rfl, rfl, hName, hValue, text, rfl, hText⟩
      · -- the pointers of an earlier turn are no strings any more
        rw [if_neg (by decide)] at hSet
        exact absurd hSet (by simp [CharPtr.after, setOption_of_freed hFreed])
      · refine hKept ?_ (by decide)
        unfold assigned
        split
        · rename_i hBoth
          rw [Option.map_eq_none_iff]
          by_contra hSome
          exact hNot ⟨hBoth.2.1, hBoth.2.2, Option.isSome_iff_ne_none.mpr hSome⟩
        · rfl
      · simp only [Int.lt_irrefl, if_false, CharPtr.after, setOption] at hSet
        unfold assigned
        cases hOption : deviceOption (lineName line) with
        | none =>
          simp only [hOption, Option.some.injEq] at hSet
          simp [hSet]
        | some o' =>
          simp only [hOption, Option.some.injEq] at hSet
          rw [← hSet, DeviceSection.get_set]
          by_cases hSame : o' = o
          · simp [hSame, hName, hValue, hText]
          · simp [hSame]

/-- No line goes past a newline, except that it may start with one. -/
theorem not_mem_lineValue (hLine : '\n' ∉ line.tail) {value : CStr}
    (h : lineValue line = some value) : '\n' ∉ value := by
  have hRest : '\n' ∉ line.dropWhile (· ∉ separators) := by
    cases line with
    | nil => simp
    | cons c rest =>
      rw [List.dropWhile_cons]
      split
      · exact fun hMem => hLine ((List.dropWhile_sublist _).subset hMem)
      · rename_i hSeparator
        have hc : c ∈ separators := by simpa using hSeparator
        rw [List.mem_cons, not_or]
        refine ⟨?_, hLine⟩
        rintro rfl
        exact absurd hc (by decide)
  have hStart : '\n' ∉ (line.dropWhile (· ∉ separators)).dropWhile (· ∉ valueStarts) :=
    fun hMem => hRest ((List.dropWhile_sublist _).subset hMem)
  unfold lineValue at h
  split at h
  · exact absurd h (by simp)
  · rename_i text hText
    rw [hText, List.mem_cons, not_or] at hStart
    split at h
    · obtain rfl := Option.some.inj h
      exact fun hMem => hStart.2 ((List.takeWhile_sublist _).subset hMem)
    · exact absurd h (by simp)
  · rw [← Option.some.inj h]
    exact hStart

-- ---------------------------------------------------------------------------
-- A section
-- ---------------------------------------------------------------------------

variable {ms : SectionMemory} {block : List Char}

/-- The loop: what the last of the lines sets an option to, or what it was before. -/
theorem parseDeviceLines_get {fuel i prevPos : Nat} (hFreed : x.2.Freed)
    (h : parseDeviceLines ms block fuel i prevPos x = some x') (o : DeviceOption) :
    x'.1.get o =
      ((linesFrom ms block fuel i prevPos).filterMap (assigned o)).getLast?.getD (x.1.get o) := by
  induction fuel generalizing i prevPos x with
  | zero => exact absurd h (by simp [parseDeviceLines])
  | succ fuel ih =>
    unfold parseDeviceLines at h
    unfold linesFrom
    dsimp only at h ⊢
    cases hEnd : strpbrk ['\n'] (cString ((block ++ (ms.lines i).behind).drop (prevPos + 1))) with
    | none =>
      simp only [hEnd, Option.some.injEq] at h
      rw [h]
      rfl
    | some n =>
      simp only [hEnd] at h ⊢
      split at h
      · obtain ⟨x₁, hLine, hRest⟩ := Option.bind_eq_some_iff.mp h
        rw [show prevPos + 1 + n - prevPos = n + 1 by omega] at hLine
        rw [show prevPos + 1 + n + 1 = prevPos + n + 2 by omega] at hRest
        obtain ⟨hNext, hFreed'⟩ := parseDeviceLine_get hFreed hLine
        rw [ih hFreed' hRest, List.filterMap_cons, hNext o]
        cases assigned o (ms.lines i,
          cString (((block ++ (ms.lines i).behind).drop prevPos).take (n + 1))) with
        | none => rfl
        | some value =>
          rw [List.getLast?_cons]
          rfl
      · exact absurd h (by simp)

/-- **What the parser makes of a section**: each option is what the last of the lines that
set it sets it to, and NULL if none does. -/
theorem parseDeviceSection_get {fuel : Nat} {sec : DeviceSection}
    (h : parseDeviceSection ms fuel block = some sec) (o : DeviceOption) :
    sec.get o = lastValue (sectionLines ms fuel block) o := by
  unfold parseDeviceSection at h
  unfold sectionLines lastValue
  split at h
  · cases hEnd : strpbrk ['\n'] (cString (block ++ ms.behind)) with
    | none => simp [hEnd] at h
    | some pos =>
      simp only [hEnd] at h ⊢
      split at h
      · obtain ⟨x, hLoop, rfl⟩ := Option.map_eq_some_iff.mp h
        rw [parseDeviceLines_get freed_unset hLoop o]
        cases ((linesFrom ms block fuel 0 (pos + 1)).filterMap (assigned o)).getLast? with
        | none => cases o <;> rfl
        | some value => rfl
      · exact absurd h (by simp)
  · exact absurd h (by simp)

/-- In front of the place where a search has stopped there is no newline. -/
theorem not_mem_take_of_strpbrk {bytes : List Char} {n : Nat}
    (h : strpbrk ['\n'] (cString bytes) = some n) : '\n' ∉ bytes.take n := by
  obtain ⟨hTake, -, hLt⟩ := strpbrk_some h
  have hPrefix : cString bytes <+: bytes := List.takeWhile_prefix _
  obtain ⟨rest, hBytes⟩ := hPrefix
  have hSame : bytes.take n = (cString bytes).takeWhile (· ∉ ['\n']) := by
    rw [hTake, ← hBytes, List.take_append_of_le_length hLt.le, hBytes]
  rw [hSame]
  intro hMem
  simpa using List.mem_takeWhile_imp hMem

theorem linesFrom_tail {fuel i prevPos : Nat} :
    ∀ x ∈ linesFrom ms block fuel i prevPos, '\n' ∉ x.2.tail := by
  induction fuel generalizing i prevPos with
  | zero => simp [linesFrom]
  | succ fuel ih =>
    intro x hx
    unfold linesFrom at hx
    dsimp only at hx
    split at hx
    · exact absurd hx List.not_mem_nil
    · rename_i n hEnd
      rcases List.mem_cons.mp hx with rfl | hx
      · have hBehind := not_mem_take_of_strpbrk hEnd
        -- the search leaves out the first character of the line
        intro hMem
        have hRest := (List.takeWhile_sublist _).tail.subset hMem
        rw [List.tail_take_eq_take_tail, List.tail_drop] at hRest
        exact hBehind hRest
      · exact ih x hx

/-- No value of an option holds a newline. -/
theorem lastValue_newline {fuel : Nat} {o : DeviceOption} {value : CStr}
    (h : lastValue (sectionLines ms fuel block) o = some value) : '\n' ∉ value := by
  have hLast := Option.join_eq_some_iff.mp h
  have hMem := List.mem_of_getLast? hLast
  obtain ⟨x, hx, hAssigned⟩ := List.mem_filterMap.mp hMem
  have hTail : '\n' ∉ x.2.tail := by
    unfold sectionLines at hx
    split at hx
    · exact absurd hx List.not_mem_nil
    · exact linesFrom_tail x hx
  unfold assigned at hAssigned
  split at hAssigned
  · obtain ⟨text, hText, hCopy⟩ := Option.map_eq_some_iff.mp hAssigned
    split at hCopy
    · rw [← Option.some.inj hCopy]
      exact not_mem_lineValue hTail hText
    · exact absurd hCopy (by simp)
  · exact absurd hAssigned (by simp)

end LinkControl
